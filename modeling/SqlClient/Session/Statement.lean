import SqlClient.Session.Connection
import SqlClient.Session.Cursor

namespace SqlClient

inductive Outcome where
  | rows (cursor : Cursor)
  | updated (count : Nat)
deriving Repr

structure Statement where
  batch : List String
  limits : StatementLimits
  closed : Bool
deriving DecidableEq, Repr, Inhabited

namespace Statement

def new : Statement := ⟨[], .unset, false⟩

def addBatch (st : Statement) (sql : String) : Statement :=
  { st with batch := st.batch ++ [sql] }

def clearBatch (st : Statement) : Statement :=
  { st with batch := [] }

def setMaxRows (st : Statement) (max : Option Nat) : Statement :=
  { st with limits := { st.limits with maxRows := max } }

def setTimeout (st : Statement) (timeout : Option Milliseconds) : Statement :=
  { st with limits := { st.limits with timeout := timeout } }

def close (st : Statement) : Statement :=
  { st with batch := [], closed := true }

def ensureOpen (st : Statement) : Action Session Unit := do
  if st.closed then throw (.closed .statement)
  Session.ensureOpen

def executeQuery (st : Statement) (sql : String) : Action Session Cursor := do
  st.ensureOpen
  let prepared ← Session.prepare st.limits sql []
  if prepared.returnsRows then Session.query st.limits prepared true []
  else
    Session.dispose prepared
    throw (.execution .noResultSet)

def executeOnly (st : Statement) (tx : TransactionId) (prepared : Prepared) :
    Action Session Nat :=
  if prepared.returnsRows then throw (.execution .resultSet)
  else Session.execute st.limits tx prepared []

def withPrepared {α : Type} (st : Statement) (sql : String)
    (work : Prepared → Action Session α) : Action Session α := do
  let prepared ← Session.prepare st.limits sql []
  let outcome ← Action.attempt (work prepared)
  Session.dispose prepared
  Action.ofExcept outcome

def executeUpdate (st : Statement) (sql : String) : Action Session Nat := do
  st.ensureOpen
  Session.inTransaction fun tx => st.withPrepared sql (st.executeOnly tx)

def execute (st : Statement) (sql : String) : Action Session Outcome := do
  st.ensureOpen
  let prepared ← Session.prepare st.limits sql []
  if prepared.returnsRows then
    return .rows (← Session.query st.limits prepared true [])
  else
    let outcome ← Action.attempt <|
      Session.inTransaction fun tx => Session.execute st.limits tx prepared []
    Session.dispose prepared
    return .updated (← Action.ofExcept outcome)

def executeAll (st : Statement) (batch : List String) : Action Session (List Nat) := do
  st.ensureOpen
  if batch.isEmpty then return []
  Session.inTransaction fun tx =>
    batch.mapM fun sql =>
      st.withPrepared sql fun prepared => Session.execute st.limits tx prepared []

def executeBatch : Action (Statement × Session) (List Nat) := do
  let st := (← get).1
  modify fun (st, s) => (st.clearBatch, s)
  Action.onSecond (st.executeAll st.batch)

end Statement

end SqlClient
