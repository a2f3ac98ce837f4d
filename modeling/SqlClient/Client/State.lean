import SqlClient.Client.Call

namespace SqlClient

structure Client where
  session : Session
  statements : Keyed Nat Statement
  prepared : Keyed Nat PreparedStatement
  cursors : Keyed Nat Cursor
  handles : Keyed Nat TransactionId
deriving Repr

namespace Client

def connect (server : Server) (scheduler : Scheduler) (config : ConnectionConfig) :
    Except Error Client :=
  (Session.connect server scheduler config).map fun s => ⟨s, .empty, .empty, .empty, .empty⟩

variable {α : Type}

def onSession (x : Action Session α) : Action Client α :=
  x.zoom session fun k s => { k with session := s }

def onPrepared (n : Nat) (p : PreparedStatement) (x : PreparedStatement.Method α) :
    Action Client α :=
  x.zoom (fun k => (p, k.session)) fun k (p, s) =>
    { k with session := s, prepared := k.prepared.put n p }

def onCursor (n : Nat) (c : Cursor) (x : Cursor.Method α) : Action Client α :=
  x.zoom (fun k => (c, k.session)) fun k (c, s) =>
    { k with session := s, cursors := k.cursors.put n c }

def onStatement (n : Nat) (st : Statement) (x : Action (Statement × Session) α) :
    Action Client α :=
  x.zoom (fun k => (st, k.session)) fun k (st, s) =>
    { k with session := s, statements := k.statements.put n st }

def changeStatement (n : Nat) (st : Statement) : Action Client Unit :=
  modify fun k => { k with statements := k.statements.put n st }

def changePrepared (n : Nat) (p : PreparedStatement) : Action Client Unit :=
  modify fun k => { k with prepared := k.prepared.put n p }

def dropCursor (n : Nat) : Action Client Unit := do
  match (← get).cursors.get? n with
  | none => return
  | some c =>
    onCursor n c Cursor.drop
    modify fun k => { k with cursors := k.cursors.erase n }

def dropPrepared (n : Nat) : Action Client Unit := do
  match (← get).prepared.get? n with
  | none => return
  | some p =>
    onPrepared n p PreparedStatement.close
    modify fun k => { k with prepared := k.prepared.erase n }

def keepOutcome (n : Nat) (execute : Action Client Outcome) : Action Client (Option Nat) := do
  let outcome ← Action.attempt execute
  dropCursor n
  match ← Action.ofExcept outcome with
  | .rows c =>
    modify fun k => { k with cursors := k.cursors.put n c }
    return none
  | .updated count => return some count

def keepCursor (n : Nat) (query : Action Client Cursor) : Action Client Unit := do
  let _ ← keepOutcome n (Outcome.rows <$> query)

def keepPrepared (n : Nat) (sql : String) : Action Client Unit := do
  let outcome ← Action.attempt (onSession Session.ensureOpen)
  dropPrepared n
  Action.ofExcept outcome
  changePrepared n (.new sql)

def keepStatement (n : Nat) : Action Client Unit := do
  modify fun k => { k with statements := k.statements.erase n }
  onSession Session.ensureOpen
  changeStatement n .new

def keepHandle (n : Option Nat) (tx : Option TransactionId) : Action Client Unit :=
  match n with
  | none => return
  | some n => modify fun k => { k with handles := k.handles.set n tx }

def keepTransaction (n : Option Nat) (find : Action Session TransactionId) :
    Action Client TransactionId := do
  let outcome ← Action.attempt (onSession find)
  keepHandle n outcome.toOption
  Action.ofExcept outcome

end Client

end SqlClient
