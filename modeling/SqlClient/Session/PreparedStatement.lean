import SqlClient.Parameter.Bindings
import SqlClient.Session.Statement

namespace SqlClient

structure PreparedStatement where
  sql : String
  remote : Option Prepared
  bindings : Bindings
  batch : List (List Parameter)
  batchPlaceholders : Option (List Placeholder)
  limits : StatementLimits
  closed : Bool
  /-- Every request put to the server for the statement, with what came of it, the oldest first. -/
  sent : List Exchange
deriving Repr, Inhabited

namespace PreparedStatement

def new (sql : String) : PreparedStatement :=
  ⟨sql, none, .empty, [], none, .unset, false, []⟩

def setMaxRows (p : PreparedStatement) (max : Option Nat) : PreparedStatement :=
  { p with limits := { p.limits with maxRows := max } }

def setTimeout (p : PreparedStatement) (timeout : Option Milliseconds) : PreparedStatement :=
  { p with limits := { p.limits with timeout := timeout } }

abbrev Method := Action (PreparedStatement × Session)

def statement : Method PreparedStatement := do
  return (← get).1

def change (f : PreparedStatement → PreparedStatement) : Method Unit :=
  modify fun (p, s) => (f p, s)

def send {α : Type} (x : Action Session α) : Method α :=
  x.zoom Prod.snd fun (p, s) t =>
    ({ p with sent := p.sent ++ t.exchanges.drop s.exchanges.length }, t)

def ensureOpen : Method Unit := do
  if (← statement).closed then throw (.closed .preparedStatement)
  Action.onSecond Session.ensureOpen

def bind (index : Nat) (value : HostValue) (declared : Option Atom) : Method Unit := do
  ensureOpen
  let (outcome, bindings) := (← statement).bindings.bind index value declared
  change fun p => { p with bindings := bindings }
  Action.ofExcept outcome

def clearParameters (p : PreparedStatement) : PreparedStatement :=
  { p with bindings := p.bindings.clear }

def boundParameters : Method (List Parameter) := do
  let (p, s) ← get
  Action.ofExcept (p.bindings.encode (.ofSettings s.conversion))

def prepareAgain : Method Prepared := do
  let placeholders ← Action.ofExcept (← statement).bindings.placeholders
  let stale := (← statement).remote
  change fun p => { p with remote := none }
  match stale with
  | some prepared => send (Session.dispose prepared)
  | none => pure ()
  let p ← statement
  let prepared ← send (Session.prepare p.limits p.sql placeholders)
  change fun p => { p with remote := some prepared }
  return prepared

def ensurePrepared : Method Prepared := do
  let (changed, bindings) := (← statement).bindings.takeChanged
  change fun p => { p with bindings := bindings }
  match (← statement).remote with
  | some prepared => if changed then prepareAgain else return prepared
  | none => prepareAgain

def update (prepared : Prepared) (parameters : List Parameter) : Method Nat := do
  let p ← statement
  send <|
    Session.inTransaction fun tx => Session.execute p.limits tx prepared parameters

def query (prepared : Prepared) (parameters : List Parameter) : Method Cursor := do
  let p ← statement
  send (Session.query p.limits prepared false parameters)

def ready : Method (List Parameter × Prepared) := do
  ensureOpen
  let parameters ← boundParameters
  let prepared ← ensurePrepared
  return (parameters, prepared)

def executeQuery : Method Cursor := do
  let (parameters, prepared) ← ready
  if prepared.returnsRows then query prepared parameters
  else throw (.execution .noResultSet)

def executeUpdate : Method Nat := do
  let (parameters, prepared) ← ready
  if prepared.returnsRows then throw (.execution .resultSet)
  else update prepared parameters

def execute : Method Outcome := do
  let (parameters, prepared) ← ready
  if prepared.returnsRows then return .rows (← query prepared parameters)
  else return .updated (← update prepared parameters)

/-- Queues the parameters as they are bound now. The placeholders of the first entry are noted before
its values are encoded. -/
def addBatch : Method Unit := do
  ensureOpen
  let placeholders ← Action.ofExcept (← statement).bindings.placeholders
  match (← statement).batchPlaceholders with
  | some queued =>
    if queued != placeholders then throw (.parameter .batchTypesDiffer)
  | none => change fun p => { p with batchPlaceholders := some placeholders }
  let parameters ← boundParameters
  change fun p => { p with batch := p.batch ++ [parameters] }

def clearBatch (p : PreparedStatement) : PreparedStatement :=
  { p with batch := [], batchPlaceholders := none }

def executeAll (prepared : Prepared) (batch : List (List Parameter)) : Method (List Nat) := do
  let p ← statement
  send <|
    Session.inTransaction fun tx =>
      batch.mapM fun parameters => Session.execute p.limits tx prepared parameters

def executeBatch : Method (List Nat) := do
  ensureOpen
  let p ← statement
  change clearBatch
  match p.batchPlaceholders with
  | none => return []
  | some queued =>
    let placeholders ← Action.ofExcept p.bindings.placeholders
    if placeholders != queued then throw (.parameter .batchTypesChanged)
    let prepared ← ensurePrepared
    executeAll prepared p.batch

def close : Method Unit := do
  let p ← statement
  if p.closed then return
  change fun p => { p with closed := true, batch := [], remote := none }
  match p.remote with
  | some prepared => send (Session.dispose prepared)
  | none => return

end PreparedStatement

end SqlClient
