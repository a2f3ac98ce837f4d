import SqlClient.Value.Host

namespace SqlClient

def Atom.naturalTarget : Atom → Target
  | .boolean => .boolean
  | .int4 => .int
  | .int8 => .long
  | .float4 => .float
  | .float8 => .double
  | .decimal => .decimal
  | .character => .string
  | .octet => .bytes
  | .date => .localDate
  | .timeOfDay => .localTime
  | .timePoint => .localDateTime
  | .timeOfDayWithTimeZone => .offsetTime
  | .timePointWithTimeZone => .offsetDateTime
  | .blob => .blob
  | .clob => .clob

def exactTypes : List (Target × Atom) :=
  [(.string, .character), (.boolean, .boolean), (.int, .int4), (.long, .int8), (.float, .float4),
    (.double, .float8), (.decimal, .decimal), (.bytes, .octet), (.localDate, .date), (.date, .date),
    (.localTime, .timeOfDay), (.time, .timeOfDay), (.localDateTime, .timePoint),
    (.timestamp, .timePoint), (.offsetTime, .timeOfDayWithTimeZone),
    (.offsetDateTime, .timePointWithTimeZone), (.zonedDateTime, .timePointWithTimeZone)]

def assignableTypes : List (Target × Atom) :=
  [(.byte, .int4), (.short, .int4), (.binaryStream, .octet), (.blob, .octet),
    (.characterStream, .character), (.clob, .character)]

def Target.wireAtom? (t : Target) : Option Atom :=
  (exactTypes ++ assignableTypes).lookup t

def HostValue.atom? (v : HostValue) : Option Atom :=
  v.kind?.bind Target.wireAtom?

def Atom.exactTarget? (a : Atom) : Option Target :=
  (exactTypes.find? fun e => e.2 = a).map (·.1)

def HostValue.toWire : HostValue → WireValue
  | null => .null
  | string s | clob s => .character s
  | boolean b => .boolean b
  | byte v => .int4 v.toInt32
  | short v => .int4 v.toInt32
  | int v => .int4 v
  | long v => .int8 v
  | float v => .float4 v
  | double v => .float8 v
  | decimal d => .decimal d
  | bytes b | blob b => .octet b
  | date d | localDate d => .date d
  | time t | localTime t => .timeOfDay t
  | timestamp dt | localDateTime dt => .timePoint dt
  | offsetTime t => .timeOfDayWithTimeZone t
  | offsetDateTime dt | zonedDateTime dt => .timePointWithTimeZone dt
  | byteStream s => .octet s.content
  | characterStream s => .character s.content

theorem HostValue.atom?_toWire (v : HostValue) : v.toWire.atom? = v.atom? := by
  cases v <;> rfl

inductive ObjectMapping where
  | natural
  | sqlTemporal
  | firstCompatible
deriving DecidableEq, Repr, Inhabited

def ObjectMapping.target (m : ObjectMapping) (a : Atom) : Target :=
  match m, a with
  | .sqlTemporal, .date => .date
  | .sqlTemporal, .timeOfDay | .sqlTemporal, .timeOfDayWithTimeZone => .time
  | .sqlTemporal, .timePoint | .sqlTemporal, .timePointWithTimeZone => .timestamp
  | .firstCompatible, a => a.exactTarget?.getD a.naturalTarget
  | _, a => a.naturalTarget

theorem ObjectMapping.target_ne_object (m : ObjectMapping) (a : Atom) : m.target a ≠ .object := by
  cases m <;> cases a <;> decide

end SqlClient
