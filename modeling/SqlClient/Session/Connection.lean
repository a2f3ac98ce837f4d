import SqlClient.Session.Transaction

namespace SqlClient

structure ConnectionConfig where
  autocommit : Bool
  timeouts : Timeouts
  settings : TransactionSettings
  conversion : ConversionSettings
  maxRows : Option Nat
deriving Repr

inductive Scheduler where
  | multiThread
  | currentThread
deriving DecidableEq, Repr

namespace Session

def connect (server : Server) (scheduler : Scheduler) (config : ConnectionConfig) :
    Except Error Session :=
  match scheduler with
  | .currentThread => .error .singleThreadedHost
  | .multiThread => .ok
    { server := server
      exchanges := []
      timeouts := config.timeouts
      conversion := config.conversion
      maxRows := config.maxRows
      closed := false
      autocommit := config.autocommit
      settings := config.settings
      slot := none
      handles := .empty }

def ensureOpen : Action Session Unit := do
  if (← get).closed then throw (.closed .connection)

def completeOpen (how : Completion) : Action Session Unit := do
  ensureOpen
  completeLive how

def transaction : Action Session TransactionId := do
  ensureOpen
  getOrBegin

def close : Action Session Unit := do
  if (← get).closed then return
  modify fun s => { s with closed := true }
  abandon

end Session

end SqlClient
