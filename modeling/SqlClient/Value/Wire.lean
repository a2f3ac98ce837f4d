import SqlClient.Calendar.DateTime
import SqlClient.Number.Binary
import SqlClient.Number.Decimal
import SqlClient.Text.Utf8
import SqlClient.Value.Atom

namespace SqlClient

structure LobId where
  number : Nat
deriving DecidableEq, Repr, Inhabited

inductive WireValue where
  | null
  | boolean (v : Bool)
  | int4 (v : Int32)
  | int8 (v : Int64)
  | float4 (v : Single)
  | float8 (v : Double)
  | decimal (v : Decimal)
  | character (v : String)
  | octet (v : Bytes)
  | date (v : Date)
  | timeOfDay (v : Time)
  | timePoint (v : DateTime)
  | timeOfDayWithTimeZone (v : OffsetTime)
  | timePointWithTimeZone (v : ZonedDateTime)
  | blob (v : LobId)
  | clob (v : LobId)
deriving DecidableEq, Repr, Inhabited

namespace WireValue

def atom? : WireValue → Option Atom
  | null => none
  | boolean _ => some .boolean
  | int4 _ => some .int4
  | int8 _ => some .int8
  | float4 _ => some .float4
  | float8 _ => some .float8
  | decimal _ => some .decimal
  | character _ => some .character
  | octet _ => some .octet
  | date _ => some .date
  | timeOfDay _ => some .timeOfDay
  | timePoint _ => some .timePoint
  | timeOfDayWithTimeZone _ => some .timeOfDayWithTimeZone
  | timePointWithTimeZone _ => some .timePointWithTimeZone
  | blob _ => some .blob
  | clob _ => some .clob

theorem atom?_eq_none_iff {v : WireValue} : v.atom? = none ↔ v = null := by
  cases v <;> simp [atom?]

end WireValue

structure Column where
  name : Option String
  atom : Atom
  nullable : Bool
  scale : Option Nat
deriving DecidableEq, Repr, Inhabited

end SqlClient
