import SqlClient.Calendar.Date
import SqlClient.Calendar.Time

/-!
Date-times, with and without an offset. A zoned date-time is known by its universal date-time and its
offset; its wall clock is derived, and may leave the calendar by a day at either end.
-/

namespace SqlClient

structure DateTime where
  date : Date
  time : Time
deriving DecidableEq, Repr, Inhabited

namespace DateTime

def InCalendar (dt : DateTime) : Prop :=
  dt.date.InCalendar

instance (dt : DateTime) : Decidable dt.InCalendar :=
  inferInstanceAs (Decidable dt.date.InCalendar)

def dateAt (date : Date) (second : Int) : Date :=
  if second < 0 then date.previous
  else if 86400 ≤ second then date.next
  else date

def shift (dt : DateTime) (seconds : Int) : DateTime :=
  let second : Int := dt.time.second + seconds
  ⟨dateAt dt.date second, ⟨Time.wrap second, dt.time.nano, Time.wrap_lt _, dt.time.nano_lt⟩⟩

def atMidnight (date : Date) : DateTime :=
  ⟨date, .midnight⟩

end DateTime

structure ZonedDateTime where
  utc : DateTime
  offset : Offset
  inCalendar : utc.InCalendar
deriving DecidableEq, Repr

namespace ZonedDateTime

instance : Inhabited ZonedDateTime := ⟨⟨default, .utc, by decide⟩⟩

def ofLocal? (wall : DateTime) (offset : Offset) : Option ZonedDateTime :=
  let utc := wall.shift (-offset.seconds)
  if h : utc.InCalendar then some ⟨utc, offset, h⟩ else none

def wall (dt : ZonedDateTime) : DateTime :=
  dt.utc.shift dt.offset.seconds

def wall? (dt : ZonedDateTime) : Option DateTime :=
  if dt.wall.InCalendar then some dt.wall else none

def moveTo (dt : ZonedDateTime) (offset : Offset) : ZonedDateTime :=
  ⟨dt.utc, offset, dt.inCalendar⟩

def SameInstant (a b : ZonedDateTime) : Prop :=
  a.utc = b.utc

instance (a b : ZonedDateTime) : Decidable (SameInstant a b) :=
  inferInstanceAs (Decidable (_ = _))

end ZonedDateTime

end SqlClient
