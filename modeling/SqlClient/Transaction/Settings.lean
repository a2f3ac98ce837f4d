import SqlClient.Transaction.Options

namespace SqlClient

inductive SettingChange where
  | kind (v : TransactionKind)
  | label (v : Option String)
  | includeDdl (v : Option Bool)
  | writePreserve (v : List String)
  | inclusiveReadArea (v : List String)
  | exclusiveReadArea (v : List String)
  | scanParallel (v : Option UInt32)
  | priority (v : Option Priority)
deriving DecidableEq, Repr

def TransactionOptions.apply (o : TransactionOptions) : SettingChange → TransactionOptions
  | .kind v => { o with kind := v }
  | .label v => { o with label := v }
  | .includeDdl v => { o with includeDdl := v }
  | .writePreserve v => { o with writePreserve := v }
  | .inclusiveReadArea v => { o with inclusiveReadArea := v }
  | .exclusiveReadArea v => { o with exclusiveReadArea := v }
  | .scanParallel v => { o with scanParallel := v }
  | .priority v => { o with priority := v }

def TransactionOptions.unset : TransactionOptions :=
  ⟨.short, none, none, [], [], [], none, none⟩

structure TransactionSettings where
  current : TransactionOptions
  cached : Option TransactionOptions
deriving DecidableEq, Repr, Inhabited

namespace TransactionSettings

def new : TransactionSettings := ⟨.unset, none⟩

def set (s : TransactionSettings) (change : SettingChange) : TransactionSettings :=
  ⟨s.current.apply change, none⟩

def options (s : TransactionSettings) : TransactionOptions × TransactionSettings :=
  match s.cached with
  | some o => (o, s)
  | none => (s.current, { s with cached := some s.current })

end TransactionSettings

end SqlClient
