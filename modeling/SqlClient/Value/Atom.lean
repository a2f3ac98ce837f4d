namespace SqlClient

inductive Atom where
  | boolean
  | int4
  | int8
  | float4
  | float8
  | decimal
  | character
  | octet
  | date
  | timeOfDay
  | timePoint
  | timeOfDayWithTimeZone
  | timePointWithTimeZone
  | blob
  | clob
deriving DecidableEq, Repr, Inhabited

namespace Atom

def all : List Atom :=
  [boolean, int4, int8, float4, float8, decimal, character, octet, date, timeOfDay, timePoint,
    timeOfDayWithTimeZone, timePointWithTimeZone, blob, clob]

theorem mem_all (a : Atom) : a ∈ all := by
  cases a <;> decide

def name : Atom → String
  | boolean => "Boolean"
  | int4 => "Int4"
  | int8 => "Int8"
  | float4 => "Float4"
  | float8 => "Float8"
  | decimal => "Decimal"
  | character => "Character"
  | octet => "Octet"
  | date => "Date"
  | timeOfDay => "TimeOfDay"
  | timePoint => "TimePoint"
  | timeOfDayWithTimeZone => "TimeOfDayWithTimeZone"
  | timePointWithTimeZone => "TimePointWithTimeZone"
  | blob => "Blob"
  | clob => "Clob"

def ofName? (s : String) : Option Atom :=
  all.find? fun a => a.name = s

def text : Atom → String
  | boolean => "BOOLEAN"
  | int4 => "INT4"
  | int8 => "INT8"
  | float4 => "FLOAT4"
  | float8 => "FLOAT8"
  | decimal => "DECIMAL"
  | character => "CHARACTER"
  | octet => "OCTET"
  | date => "DATE"
  | timeOfDay => "TIME_OF_DAY"
  | timePoint => "TIME_POINT"
  | timeOfDayWithTimeZone => "TIME_OF_DAY_WITH_TIME_ZONE"
  | timePointWithTimeZone => "TIME_POINT_WITH_TIME_ZONE"
  | blob => "BLOB"
  | clob => "CLOB"

def isLargeObject : Atom → Bool
  | blob | clob => true
  | _ => false

end Atom

/-- What a caller wants to read a value as. `date`, `time` and `timestamp` are wall clocks in the
caller's zone, the `local` targets keep the fields of the value, and the last three temporal ones carry
an offset. -/
inductive Target where
  | string
  | boolean
  | byte
  | short
  | int
  | long
  | float
  | double
  | decimal
  | bytes
  | date
  | time
  | timestamp
  | localDate
  | localTime
  | localDateTime
  | offsetTime
  | offsetDateTime
  | zonedDateTime
  | asciiStream
  | binaryStream
  | characterStream
  | blob
  | clob
  | object
deriving DecidableEq, Repr, Inhabited

namespace Target

def all : List Target :=
  [string, boolean, byte, short, int, long, float, double, decimal, bytes, date, time, timestamp,
    localDate, localTime, localDateTime, offsetTime, offsetDateTime, zonedDateTime, asciiStream,
    binaryStream, characterStream, blob, clob, object]

theorem mem_all (t : Target) : t ∈ all := by
  cases t <;> decide

def name : Target → String
  | string => "String"
  | boolean => "Boolean"
  | byte => "Byte"
  | short => "Short"
  | int => "Int"
  | long => "Long"
  | float => "Float"
  | double => "Double"
  | decimal => "Decimal"
  | bytes => "Bytes"
  | date => "Date"
  | time => "Time"
  | timestamp => "Timestamp"
  | localDate => "LocalDate"
  | localTime => "LocalTime"
  | localDateTime => "LocalDateTime"
  | offsetTime => "OffsetTime"
  | offsetDateTime => "OffsetDateTime"
  | zonedDateTime => "ZonedDateTime"
  | asciiStream => "AsciiStream"
  | binaryStream => "BinaryStream"
  | characterStream => "CharacterStream"
  | blob => "Blob"
  | clob => "Clob"
  | object => "Object"

def ofName? (s : String) : Option Target :=
  all.find? fun t => t.name = s

def isPrimitive : Target → Bool
  | boolean | byte | short | int | long | float | double => true
  | _ => false

end Target

end SqlClient
