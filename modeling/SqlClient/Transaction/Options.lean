import SqlClient.Text.Digits

namespace SqlClient

inductive TransactionKind where
  | short
  | long
  | readOnly
deriving DecidableEq, Repr, Inhabited

inductive Priority where
  | interrupt
  | wait
  | interruptExclude
  | waitExclude
deriving DecidableEq, Repr, Inhabited

structure TransactionOptions where
  kind : TransactionKind
  label : Option String
  includeDdl : Option Bool
  writePreserve : List String
  inclusiveReadArea : List String
  exclusiveReadArea : List String
  scanParallel : Option UInt32
  priority : Option Priority
deriving DecidableEq, Repr, Inhabited

def findName {α : Type} (table : List (String × α)) (ignoreCase : Bool) (text : String) :
    Option α :=
  let fold (s : String) := if ignoreCase then s.toList.map Text.lowerAscii else s.toList
  (table.find? fun e => fold e.1 = fold text).map (·.2)

namespace TransactionKind

def all : List TransactionKind := [short, long, readOnly]

def name : TransactionKind → String
  | short => "short"
  | long => "long"
  | readOnly => "read-only"

def aliases : List (String × TransactionKind) :=
  [("occ", short), ("ltx", long), ("rtx", readOnly)]

def ofName? (text : String) : Option TransactionKind :=
  all.find? fun k => k.name = text

def parse? (ignoreCase : Bool) (text : String) : Option TransactionKind :=
  findName (all.map (fun k => (k.name, k)) ++ aliases) ignoreCase text

end TransactionKind

namespace Priority

def all : List Priority := [interrupt, wait, interruptExclude, waitExclude]

def name : Priority → String
  | interrupt => "interrupt"
  | wait => "wait"
  | interruptExclude => "interrupt-exclude"
  | waitExclude => "wait-exclude"

def ofName? (text : String) : Option Priority :=
  all.find? fun p => p.name = text

def parse? (ignoreCase : Bool) (text : String) : Option Priority :=
  findName (all.map fun p => (p.name, p)) ignoreCase text

end Priority

end SqlClient
