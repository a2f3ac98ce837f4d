import SqlClient.Value.Wire

namespace SqlClient

structure ByteStream where
  content : Bytes
  position : Nat
deriving DecidableEq, Repr, Inhabited

structure CharacterStream where
  content : String
  position : Nat
deriving DecidableEq, Repr, Inhabited

inductive HostValue where
  | null
  | string (v : String)
  | boolean (v : Bool)
  | byte (v : Int8)
  | short (v : Int16)
  | int (v : Int32)
  | long (v : Int64)
  | float (v : Single)
  | double (v : Double)
  | decimal (v : Decimal)
  | bytes (v : Bytes)
  | date (v : Date)
  | time (v : Time)
  | timestamp (v : DateTime)
  | localDate (v : Date)
  | localTime (v : Time)
  | localDateTime (v : DateTime)
  | offsetTime (v : OffsetTime)
  | offsetDateTime (v : ZonedDateTime)
  | zonedDateTime (v : ZonedDateTime)
  | byteStream (v : ByteStream)
  | characterStream (v : CharacterStream)
  | blob (v : Bytes)
  | clob (v : String)
deriving DecidableEq, Repr, Inhabited

namespace HostValue

def kind? : HostValue → Option Target
  | null => none
  | string _ => some .string
  | boolean _ => some .boolean
  | byte _ => some .byte
  | short _ => some .short
  | int _ => some .int
  | long _ => some .long
  | float _ => some .float
  | double _ => some .double
  | decimal _ => some .decimal
  | bytes _ => some .bytes
  | date _ => some .date
  | time _ => some .time
  | timestamp _ => some .timestamp
  | localDate _ => some .localDate
  | localTime _ => some .localTime
  | localDateTime _ => some .localDateTime
  | offsetTime _ => some .offsetTime
  | offsetDateTime _ => some .offsetDateTime
  | zonedDateTime _ => some .zonedDateTime
  | byteStream _ => some .binaryStream
  | characterStream _ => some .characterStream
  | blob _ => some .blob
  | clob _ => some .clob

theorem kind?_eq_none_iff {v : HostValue} : v.kind? = none ↔ v = null := by
  cases v <;> simp [kind?]

def string? : HostValue → Option String
  | string s | clob s => some s
  | _ => none

def integer? : HostValue → Option Int
  | byte v => some v.toInt
  | short v => some v.toInt
  | int v => some v.toInt
  | long v => some v.toInt
  | _ => none

def boolean? : HostValue → Option Bool
  | boolean b => some b
  | _ => none

def decimal? : HostValue → Option Decimal
  | decimal d => some d
  | _ => none

/-- Equality as the values themselves understand it: floats by number, so that no `nan` equals any
float, decimals by number, date-times with an offset by instant. -/
def Same : HostValue → HostValue → Prop
  | float a, float b => Binary.Value.Equal a.value b.value
  | double a, double b => Binary.Value.Equal a.value b.value
  | decimal a, decimal b => Decimal.SameNumber a b
  | offsetDateTime a, offsetDateTime b => ZonedDateTime.SameInstant a b
  | zonedDateTime a, zonedDateTime b => ZonedDateTime.SameInstant a b
  | a, b => a = b

instance (a b : HostValue) : Decidable (Same a b) := by
  unfold Same
  split <;> infer_instance

end HostValue

end SqlClient
