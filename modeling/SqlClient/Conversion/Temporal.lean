import SqlClient.Calendar.Literal
import SqlClient.Conversion.Context
import SqlClient.Conversion.Mismatch

/-!
Temporal targets, in three families. `date`, `time` and `timestamp` show the clock of the zone in effect,
to which zoned values are moved. The `local` targets keep the fields of the value. The last three keep
the instant of zoned values and give zone-free ones the offset of the zone in effect.
-/

namespace SqlClient

def temporalLiteral {α : Type} (target : Target) (literal : String)
    (read : List Char → Option α) : Except Error α :=
  match read (Text.trim literal.toList) with
  | some a => .ok a
  | none => .error (.malformedLiteral target literal .unreadable)

def ownWall (dt : ZonedDateTime) : Except Error DateTime :=
  match dt.wall? with
  | some wall => .ok wall
  | none => .error .outsideCalendar

def wallInZone (ctx : ConversionContext) (dt : ZonedDateTime) : Except Error DateTime :=
  ownWall (dt.inZone ctx.zone)

def WireValue.toDate (ctx : ConversionContext) (v : WireValue) : Except Error HostValue :=
  match v with
  | .date d => .ok (.date d)
  | .timePoint dt => .ok (.date dt.date)
  | .timePointWithTimeZone dt => (wallInZone ctx dt).map fun wall => .date wall.date
  | .character s => (temporalLiteral .date s Date.read?).map .date
  | v => v.mismatch .date

def WireValue.toTime (ctx : ConversionContext) (v : WireValue) : Except Error HostValue :=
  match v with
  | .timeOfDay t => .ok (.time t)
  | .timePoint dt => .ok (.time dt.time)
  | .timeOfDayWithTimeZone t => .ok (.time (t.moveTo ctx.zone.offsetNow).time)
  | .timePointWithTimeZone dt => (wallInZone ctx dt).map fun wall => .time wall.time
  | .character s => (temporalLiteral .time s Time.read?).map .time
  | v => v.mismatch .time

def WireValue.toTimestamp (ctx : ConversionContext) (v : WireValue) : Except Error HostValue :=
  match v with
  | .timePoint dt => .ok (.timestamp dt)
  | .date d => .ok (.timestamp (.atMidnight d))
  | .timePointWithTimeZone dt => (wallInZone ctx dt).map .timestamp
  | .character s => (temporalLiteral .timestamp s DateTime.read?).map .timestamp
  | v => v.mismatch .timestamp

def WireValue.toLocalDate (v : WireValue) : Except Error HostValue :=
  match v with
  | .date d => .ok (.localDate d)
  | .timePoint dt => .ok (.localDate dt.date)
  | .timePointWithTimeZone dt => (ownWall dt).map fun wall => .localDate wall.date
  | .character s => (temporalLiteral .localDate s Date.read?).map .localDate
  | v => v.mismatch .localDate

def WireValue.toLocalTime (v : WireValue) : Except Error HostValue :=
  match v with
  | .timeOfDay t => .ok (.localTime t)
  | .timePoint dt => .ok (.localTime dt.time)
  | .timeOfDayWithTimeZone t => .ok (.localTime t.time)
  | .timePointWithTimeZone dt => (ownWall dt).map fun wall => .localTime wall.time
  | .character s => (temporalLiteral .localTime s Time.read?).map .localTime
  | v => v.mismatch .localTime

def WireValue.toLocalDateTime (v : WireValue) : Except Error HostValue :=
  match v with
  | .timePoint dt => .ok (.localDateTime dt)
  | .timePointWithTimeZone dt => (ownWall dt).map .localDateTime
  | .character s => (temporalLiteral .localDateTime s DateTime.read?).map .localDateTime
  | v => v.mismatch .localDateTime

def offsetTimeLiteral (literal : String) : Except Error OffsetTime :=
  match OffsetTime.read (Text.trim literal.toList) with
  | .ok t => .ok t
  | .error .time => .error (.malformedLiteral .offsetTime literal .unreadable)
  | .error .offset => .error (.malformedLiteral .offsetTime literal .offset)

def WireValue.toOffsetTime (ctx : ConversionContext) (v : WireValue) : Except Error HostValue :=
  match v with
  | .timeOfDayWithTimeZone t => .ok (.offsetTime (t.moveTo ctx.zone.offsetNow))
  | .timeOfDay t => .ok (.offsetTime ⟨t, ctx.zone.offsetNow⟩)
  | .character s => (offsetTimeLiteral s).map .offsetTime
  | v => v.mismatch .offsetTime

def attachZone (ctx : ConversionContext) (target : Target) (wall : DateTime) :
    Except Error ZonedDateTime :=
  match ctx.zone.ofLocal? wall with
  | some dt => .ok dt
  | none => .error (.outOfRange target (.noInstant wall))

def WireValue.instant? (ctx : ConversionContext) (target : Target) :
    WireValue → Option (Except Error ZonedDateTime)
  | .timePointWithTimeZone dt => some (.ok (dt.inZone ctx.zone))
  | .timePoint wall => some (attachZone ctx target wall)
  | .date d => some (attachZone ctx target (.atMidnight d))
  | .character s => some (temporalLiteral target s ZonedDateTime.read?)
  | _ => none

def WireValue.toOffsetDateTime (ctx : ConversionContext) (v : WireValue) :
    Except Error HostValue :=
  match v.instant? ctx .offsetDateTime with
  | some instant => instant.map .offsetDateTime
  | none => v.mismatch .offsetDateTime

def WireValue.toZonedDateTime (ctx : ConversionContext) (v : WireValue) : Except Error HostValue :=
  match v.instant? ctx .zonedDateTime with
  | some instant => instant.map .zonedDateTime
  | none => v.mismatch .zonedDateTime

end SqlClient
