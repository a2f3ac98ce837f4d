import SqlClient.Error
import SqlClient.Keyed
import SqlClient.Server.Request

/-!
The in-memory server. Writes are staged per transaction: the transaction sees them at once, the tables
take them when it commits. Every request that is carried out leaves an event; failures and delays can
be arranged beforehand, per operation.
-/

namespace SqlClient

structure Table where
  columns : List Column
  rows : List Row
deriving DecidableEq, Repr, Inhabited

inductive Write where
  | insert (table : String) (row : Row)
  | clear (table : String)
deriving DecidableEq, Repr

inductive Event where
  | began (tx : TransactionId)
  | completed (how : Completion) (tx : TransactionId)
  | transactionClosed (tx : TransactionId)
  | prepared (id : PreparedId) (atoms : List Atom)
  | disposed (id : PreparedId)
  | queried (tx : TransactionId) (cursor : CursorId)
  | executed (tx : TransactionId) (count : Nat)
  | cursorClosed (cursor : CursorId)
deriving DecidableEq, Repr

def Event.isCommit : Event → Bool
  | .completed .commit _ => true
  | _ => false

structure OpenResult where
  columns : List Column
  rows : List Row
deriving DecidableEq, Repr, Inhabited

structure Server where
  lastNumber : Nat
  tables : Keyed String Table
  scripts : Keyed String Table
  transactions : Keyed TransactionId (List Write)
  prepared : Keyed PreparedId String
  cursors : Keyed CursorId OpenResult
  lobs : Keyed LobId Bytes
  events : List Event
  lastOptions : Option TransactionOptions
  failures : List (Operation × String)
  delays : Keyed Operation Milliseconds
deriving Repr

namespace Server

def new : Server :=
  { lastNumber := 0
    tables := .empty
    scripts := .empty
    transactions := .empty
    prepared := .empty
    cursors := .empty
    lobs := .empty
    events := []
    lastOptions := none
    failures := []
    delays := .empty }

instance : Inhabited Server := ⟨new⟩

def number (s : Server) : Nat × Server :=
  (s.lastNumber + 1, { s with lastNumber := s.lastNumber + 1 })

def record (s : Server) (e : Event) : Server :=
  { s with events := s.events ++ [e] }

def tableKey (name : String) : String :=
  String.ofList (Sql.lower name.toList)

def createTable (s : Server) (name : String) (columns : List Column) : Server :=
  { s with tables := s.tables.put (tableKey name) ⟨columns, []⟩ }

def seed (s : Server) (name : String) (row : Row) : Server :=
  { s with tables := s.tables.update (tableKey name) fun t => { t with rows := t.rows ++ [row] } }

def script (s : Server) (sql : String) (result : Table) : Server :=
  { s with scripts := s.scripts.put sql result }

def putLob (s : Server) (content : Bytes) : LobId × Server :=
  let (n, s) := s.number
  (⟨n⟩, { s with lobs := s.lobs.put ⟨n⟩ content })

def failNext (s : Server) (op : Operation) (detail : String) : Server :=
  { s with failures := s.failures ++ [(op, detail)] }

def delay (s : Server) (op : Operation) (ms : Milliseconds) : Server :=
  { s with delays := s.delays.put op ms }

def clearDelays (s : Server) : Server :=
  { s with delays := .empty }

def delayOf (s : Server) (op : Operation) : Milliseconds :=
  (s.delays.get? op).getD 0

def tableRows (tables : Keyed String Table) (name : String) : List Row :=
  ((tables.get? name).map Table.rows).getD []

def committedRows (s : Server) (name : String) : List Row :=
  tableRows s.tables (tableKey name)

def writeRows (name : String) (rows : List Row) : Write → List Row
  | .insert table row => if table = name then rows ++ [row] else rows
  | .clear table => if table = name then [] else rows

def visibleRows (s : Server) (tx : TransactionId) (name : String) : List Row :=
  ((s.transactions.get? tx).getD []).foldl (writeRows name) (tableRows s.tables name)

def applyWrite (tables : Keyed String Table) : Write → Keyed String Table
  | .insert table row => tables.update table fun t => { t with rows := t.rows ++ [row] }
  | .clear table => tables.update table fun t => { t with rows := [] }

end Server

end SqlClient
