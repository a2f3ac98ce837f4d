import SqlClient.Session.Call

/-!
Transactions of a connection. The first completion of a transaction closes its handle and reaches the
server; all later ones do nothing. A connection has at most one transaction that is not closed, begun
when the first statement needs it.
-/

namespace SqlClient.Session

def closeHandle (s : Session) (tx : TransactionId) : Session :=
  { s with handles := s.handles.update tx fun h => { h with closed := true } }

/-- Completes a transaction and releases it on the server. The handle is closed whatever happens, and
the failure of the release is lost. -/
def complete (how : Completion) (tx : TransactionId) : Action Session Unit := do
  if (← get).isClosed tx then return
  modify fun s => s.closeHandle tx
  let outcome ← Action.attempt (call (.complete how tx) none)
  Action.bestEffort (call (.closeTransaction tx) none)
  Action.ofExcept outcome

def finish (tx : TransactionId) : Action Session Unit := do
  if (← get).isAutocommit tx then complete .commit tx

/-- After failed work an autocommit transaction is rolled back; a manual one only after a timeout, which
leaves open what the server has done. -/
def abortAfter (tx : TransactionId) (failure : Error) : Action Session Unit := do
  if (← get).isAutocommit tx || failure.isTimeout then
    Action.bestEffort (complete .rollback tx)

def buildOptions : Action Session TransactionOptions := do
  let s ← get
  let (options, settings) := s.settings.options
  set { s with settings := settings }
  return options

def begin : Action Session TransactionId := do
  let options ← buildOptions
  let tx ← call (.begin options) none
  modify fun s => { s with slot := some tx, handles := s.handles.put tx ⟨s.autocommit, false⟩ }
  return tx

def current : Action Session (Option TransactionId) := do
  let live := (← get).live?
  modify fun s => { s with slot := live }
  return live

def getOrBegin : Action Session TransactionId := do
  match ← current with
  | some tx => return tx
  | none => begin

def noTransaction (s : Session) : Error :=
  .noActiveTransaction (if s.autocommit then .autocommitEnabled else .noStatementExecuted)

def requireActive : Action Session TransactionId := do
  match ← current with
  | some tx => return tx
  | none => throw (← get).noTransaction

def requireNone : Action Session Unit := do
  if (← current).isSome then throw .transactionAlreadyActive

/-- In autocommit mode only a manual transaction, left from before, may be completed on request. -/
def mayComplete (s : Session) (live : Option TransactionId) : Bool :=
  !s.autocommit || live.any fun tx => !s.isAutocommit tx

def takeLive : Action Session (Option TransactionId) := do
  let live ← current
  modify fun s => { s with slot := none }
  return live

def completeTaken (how : Completion) : Action Session Unit := do
  match ← takeLive with
  | some tx => complete how tx
  | none => return

def completeLive (how : Completion) : Action Session Unit := do
  let live ← current
  if (← get).mayComplete live then completeTaken how
  else throw (.noActiveTransaction .autocommitEnabled)

def abandon : Action Session Unit :=
  completeTaken .rollback

end SqlClient.Session
