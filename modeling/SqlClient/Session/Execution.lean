import SqlClient.Session.Transaction

namespace SqlClient

structure StatementLimits where
  maxRows : Option Nat
  timeout : Option Milliseconds
deriving DecidableEq, Repr, Inhabited

def StatementLimits.unset : StatementLimits := ⟨none, none⟩

namespace Session

def prepare (limits : StatementLimits) (sql : String) (placeholders : List Placeholder) :
    Action Session Prepared :=
  call (.prepare sql placeholders) limits.timeout

def dispose (prepared : Prepared) : Action Session Unit :=
  Action.bestEffort (call (.dispose prepared.id) none)

def execute (limits : StatementLimits) (tx : TransactionId) (prepared : Prepared)
    (parameters : List Parameter) : Action Session Nat :=
  call (.execute tx prepared.id parameters) limits.timeout

def inTransaction {α : Type} (work : TransactionId → Action Session α) : Action Session α := do
  let tx ← getOrBegin
  match ← Action.attempt (work tx) with
  | .ok a =>
    finish tx
    return a
  | .error e =>
    abortAfter tx e
    throw e

end Session

end SqlClient
