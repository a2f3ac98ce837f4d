import SqlClient.Operation
import SqlClient.Parameter
import SqlClient.Server.Sql
import SqlClient.Transaction.Options

namespace SqlClient

structure TransactionId where
  number : Nat
deriving DecidableEq, Repr, Inhabited

structure PreparedId where
  number : Nat
deriving DecidableEq, Repr, Inhabited

structure CursorId where
  number : Nat
deriving DecidableEq, Repr, Inhabited

structure Prepared where
  id : PreparedId
  returnsRows : Bool
deriving DecidableEq, Repr, Inhabited

inductive Completion where
  | commit
  | rollback
deriving DecidableEq, Repr, Inhabited

inductive Request where
  | begin (options : TransactionOptions)
  | complete (how : Completion) (tx : TransactionId)
  | closeTransaction (tx : TransactionId)
  | prepare (sql : String) (placeholders : List Placeholder)
  | dispose (prepared : PreparedId)
  | query (tx : TransactionId) (prepared : PreparedId) (parameters : List Parameter)
  | execute (tx : TransactionId) (prepared : PreparedId) (parameters : List Parameter)
  | describe (cursor : CursorId)
  | fetch (cursor : CursorId)
  | closeCursor (cursor : CursorId)
  | readLob (lob : LobId)
deriving DecidableEq, Repr

def Completion.operation : Completion → Operation
  | commit => .commit
  | rollback => .rollback

namespace Request

def operation : Request → Operation
  | begin _ => .begin
  | complete how _ => how.operation
  | closeTransaction _ => .close
  | prepare .. => .prepare
  | dispose _ => .close
  | query .. => .execute
  | execute .. => .execute
  | describe _ => .fetch
  | fetch _ => .fetch
  | closeCursor _ => .close
  | readLob _ => .fetch

abbrev Answer : Request → Type
  | begin _ => TransactionId
  | complete .. => Unit
  | closeTransaction _ => Unit
  | prepare .. => Prepared
  | dispose _ => Unit
  | query .. => CursorId
  | execute .. => Nat
  | describe _ => List Column
  | fetch _ => Option Row
  | closeCursor _ => Unit
  | readLob _ => Bytes

instance : (r : Request) → Repr r.Answer
  | begin _ => inferInstanceAs (Repr TransactionId)
  | complete .. | closeTransaction _ | dispose _ | closeCursor _ => inferInstanceAs (Repr Unit)
  | prepare .. => inferInstanceAs (Repr Prepared)
  | query .. => inferInstanceAs (Repr CursorId)
  | execute .. => inferInstanceAs (Repr Nat)
  | describe _ => inferInstanceAs (Repr (List Column))
  | fetch _ => inferInstanceAs (Repr (Option Row))
  | readLob _ => inferInstanceAs (Repr Bytes)

end Request

end SqlClient
