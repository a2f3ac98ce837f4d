namespace SqlClient

inductive Operation where
  | begin
  | prepare
  | execute
  | fetch
  | commit
  | rollback
  | close
deriving DecidableEq, Repr, Inhabited

namespace Operation

def all : List Operation :=
  [begin, prepare, execute, fetch, commit, rollback, close]

def name : Operation → String
  | begin => "begin"
  | prepare => "prepare"
  | execute => "execute"
  | fetch => "fetch"
  | commit => "commit"
  | rollback => "rollback"
  | close => "close"

def ofName? (s : String) : Option Operation :=
  all.find? fun op => op.name = s

end Operation

abbrev Milliseconds := Nat

structure Timeouts where
  fallback : Option Milliseconds
  begin : Option Milliseconds
  execute : Option Milliseconds
  commit : Option Milliseconds
  close : Option Milliseconds
deriving DecidableEq, Repr, Inhabited

def Timeouts.specific (t : Timeouts) : Operation → Option Milliseconds
  | .begin => t.begin
  | .prepare | .execute | .fetch => t.execute
  | .commit | .rollback => t.commit
  | .close => t.close

def Timeouts.resolve (t : Timeouts) (op : Operation) : Option Milliseconds :=
  (t.specific op).or t.fallback

end SqlClient
