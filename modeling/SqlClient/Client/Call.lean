import SqlClient.Server.Arrangement
import SqlClient.Session.PreparedStatement

namespace SqlClient

inductive ConnectionCall where
  | statement (keep : Nat)
  | prepare (keep : Nat) (sql : String)
  | setAutocommit (on : Bool)
  | complete (how : Completion)
  | transaction (keep : Option Nat)
  | current (keep : Option Nat)
  | requireActive (keep : Option Nat)
  | requireNone
  | changeSettings (change : SettingChange)
  | buildOptions
  | close
  | drop
deriving DecidableEq, Repr

inductive CoordinatorCall where
  | transaction (keep : Option Nat)
  | complete (how : Completion)
  | close
deriving DecidableEq, Repr

inductive HandleCall where
  | complete (how : Completion)
  | finish
deriving DecidableEq, Repr

inductive StatementCall where
  | query (keep : Nat) (sql : String)
  | update (sql : String)
  | execute (keep : Nat) (sql : String)
  | addBatch (sql : String)
  | clearBatch
  | executeBatch
  | setMaxRows (max : Option Nat)
  | setTimeout (timeout : Option Milliseconds)
  | close
deriving DecidableEq, Repr

inductive PreparedCall where
  | bind (index : Nat) (value : HostValue) (declared : Option Atom)
  | clearParameters
  | query (keep : Nat)
  | update
  | execute (keep : Nat)
  | addBatch
  | clearBatch
  | executeBatch
  | setMaxRows (max : Option Nat)
  | setTimeout (timeout : Option Milliseconds)
  | close
  | drop
deriving DecidableEq, Repr

inductive CursorCall where
  | advance
  | columns
  | find (name : String)
  | read (index : Nat) (target : Target)
  | readInZone (index : Nat) (target : Target) (zone : Offset)
  | readDecimal (index scale : Nat)
  | close
  | drop
deriving DecidableEq, Repr

inductive Call where
  | connection (c : ConnectionCall)
  | coordinator (c : CoordinatorCall)
  | handle (number : Nat) (c : HandleCall)
  | statement (number : Nat) (c : StatementCall)
  | prepared (number : Nat) (c : PreparedCall)
  | cursor (number : Nat) (c : CursorCall)
deriving DecidableEq, Repr

/-- What happens in a run: the server is arranged, the program makes a call, or a request is put to the
server past the connection. -/
inductive Command where
  | arrange (a : Arrangement)
  | call (c : Call)
  | direct (r : Request)
deriving DecidableEq, Repr

abbrev ConnectionCall.Answer : ConnectionCall → Type
  | transaction _ | requireActive _ => TransactionId
  | current _ => Option TransactionId
  | buildOptions => TransactionOptions
  | _ => Unit

abbrev CoordinatorCall.Answer : CoordinatorCall → Type
  | transaction _ => TransactionId
  | _ => Unit

abbrev StatementCall.Answer : StatementCall → Type
  | update _ => Nat
  | execute .. => Option Nat
  | executeBatch => List Nat
  | _ => Unit

abbrev PreparedCall.Answer : PreparedCall → Type
  | update => Nat
  | execute _ => Option Nat
  | executeBatch => List Nat
  | _ => Unit

abbrev CursorCall.Answer : CursorCall → Type
  | advance => Bool
  | columns => List Column
  | find _ => Nat
  | read .. | readInZone .. => HostValue
  | readDecimal .. => Option Decimal
  | _ => Unit

abbrev Call.Answer : Call → Type
  | connection c => c.Answer
  | coordinator c => c.Answer
  | handle .. => Unit
  | statement _ c => c.Answer
  | prepared _ c => c.Answer
  | cursor _ c => c.Answer

abbrev Command.Answer : Command → Type
  | arrange a => a.Answer
  | call c => Option (Except Error c.Answer)
  | direct r => Except ServerError r.Answer

end SqlClient
