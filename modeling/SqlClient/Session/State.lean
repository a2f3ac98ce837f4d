import SqlClient.Conversion.Context
import SqlClient.Server.State
import SqlClient.Transaction.Settings

namespace SqlClient

structure Handle where
  autocommit : Bool
  closed : Bool
deriving DecidableEq, Repr, Inhabited

def Handle.describe (tx : TransactionId) (h : Handle) : String :=
  Text.record "TransactionHandle"
    [Text.item "remote" (Text.record "RemoteTransaction" [Text.item "id" (toString tx.number)]),
      Text.item "autocommit" (toString h.autocommit), Text.item "closed" (toString h.closed)]

structure Exchange where
  request : Request
  outcome : Except Error request.Answer
deriving Repr

structure Session where
  server : Server
  exchanges : List Exchange
  timeouts : Timeouts
  conversion : ConversionSettings
  maxRows : Option Nat
  closed : Bool
  autocommit : Bool
  settings : TransactionSettings
  /-- The transaction that was begun last, unless it has been taken out to be completed or was found
  closed. -/
  slot : Option TransactionId
  handles : Keyed TransactionId Handle
deriving Repr

abbrev Action (σ : Type) := EStateM Error σ

namespace Action

variable {σ : Type} {α : Type}

def attempt (x : Action σ α) : Action σ (Except Error α) := fun s =>
  match x s with
  | .ok a s => .ok (.ok a) s
  | .error e s => .ok (.error e) s

def bestEffort (x : Action σ Unit) : Action σ Unit := do
  let _ ← x.attempt

def ofExcept : Except Error α → Action σ α
  | .ok a => pure a
  | .error e => throw e

def both (first second : Except Error Unit) : Action σ Unit := do
  ofExcept first
  ofExcept second

def zoom {τ : Type} (view : σ → τ) (place : σ → τ → σ) (x : Action τ α) : Action σ α := fun s =>
  match x (view s) with
  | .ok a t => .ok a (place s t)
  | .error e t => .error e (place s t)

def onSecond {ο : Type} (x : Action σ α) : Action (ο × σ) α :=
  x.zoom Prod.snd fun s t => (s.1, t)

end Action

namespace Session

def requests (s : Session) : List Request :=
  s.exchanges.map Exchange.request

def isClosed (s : Session) (tx : TransactionId) : Bool :=
  match s.handles.get? tx with
  | some h => h.closed
  | none => true

def isAutocommit (s : Session) (tx : TransactionId) : Bool :=
  match s.handles.get? tx with
  | some h => h.autocommit
  | none => false

/-- The transaction in the slot, unless it has been closed since it was put there. -/
def live? (s : Session) : Option TransactionId :=
  s.slot.filter fun tx => !s.isClosed tx

end Session

end SqlClient
