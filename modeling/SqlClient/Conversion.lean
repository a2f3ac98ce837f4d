import SqlClient.Conversion.Character
import SqlClient.Conversion.Numeric

namespace SqlClient

def WireValue.readDirect (ctx : ConversionContext) (v : WireValue) : Target →
    Except Error HostValue
  | .string => v.toText ctx
  | .boolean => v.toBoolean
  | .byte => v.toInteger .byte
  | .short => v.toInteger .short
  | .int => v.toInteger .int
  | .long => v.toInteger .long
  | .float => v.toFloat
  | .double => v.toDouble
  | .decimal => v.toDecimal ctx
  | .bytes => v.toBytes ctx
  | .date => v.toDate ctx
  | .time => v.toTime ctx
  | .timestamp => v.toTimestamp ctx
  | .localDate => v.toLocalDate
  | .localTime => v.toLocalTime
  | .localDateTime => v.toLocalDateTime
  | .offsetTime => v.toOffsetTime ctx
  | .offsetDateTime => v.toOffsetDateTime ctx
  | .zonedDateTime => v.toZonedDateTime ctx
  | .asciiStream => v.toAsciiStream ctx
  | .binaryStream => v.toBinaryStream ctx
  | .characterStream => v.toCharacterStream ctx
  | .blob => v.toBlob ctx
  | .clob => v.toClob ctx
  | .object => .ok .null

def ConversionContext.resolve (ctx : ConversionContext) (a : Atom) (target : Target) : Target :=
  if target = .object then ctx.settings.mapping.target a else target

def WireValue.convert (ctx : ConversionContext) (v : WireValue) (target : Target) :
    Except Error HostValue :=
  match v.atom? with
  | some a => v.readDirect ctx (ctx.resolve a target)
  | none => v.readDirect ctx target

def WireValue.read (ctx : ConversionContext) (v : WireValue) (target : Target) :
    Except Error HostValue :=
  if v = .null then .ok target.nullValue else v.convert ctx target

def Target.takesBlob : Target → Bool
  | .bytes | .asciiStream | .binaryStream | .blob => true
  | _ => false

def Target.takesClob : Target → Bool
  | .string | .asciiStream | .characterStream | .clob => true
  | _ => false

def WireValue.lobFor? (ctx : ConversionContext) (v : WireValue) (target : Target) : Option LobId :=
  match v with
  | .blob id => if (ctx.resolve .blob target).takesBlob then some id else none
  | .clob id => if (ctx.resolve .clob target).takesClob then some id else none
  | _ => none

structure ColumnReader where
  target : Target
deriving DecidableEq, Repr

def ColumnReader.read (r : ColumnReader) (ctx : ConversionContext) (v : WireValue) :
    Except Error HostValue :=
  v.read ctx r.target

def ColumnReader.describe (r : ColumnReader) : String :=
  Text.record "ColumnReader" [Text.item "target" r.target.name]

end SqlClient
