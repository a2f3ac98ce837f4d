import SqlClient.Proofs.Readings
import SqlClient.Proofs.RoundTrips

namespace SqlClient

open Calendar

attribute [ext] Time Offset

theorem Time.nano_shift_lt (t : Time) {delta : Int} (h : delta ≠ 0) :
    (t.shift delta).nano < nanosPerSecond := by
  simp only [shift, if_neg h]
  exact Nat.mod_lt _ (by decide)

namespace ZonedDateTime

def timeOfDay (dt : ZonedDateTime) : OffsetTime :=
  ⟨dt.wall.time, dt.offset⟩

theorem time_moveTo_of_not_leap {dt : ZonedDateTime} (h : dt.wall.time.isLeap = false) (zone : Offset) :
    (dt.timeOfDay.moveTo zone).time = (dt.moveTo zone).wall.time := by
  apply Time.ext
  · calc (dt.timeOfDay.moveTo zone).time.second
        = Time.wrap (dt.wall.time.second + (zone.seconds - dt.offset.seconds)) :=
          Time.second_shift_of_not_leap h _
      _ = Time.wrap (Time.wrap (dt.utc.time.second + dt.offset.seconds) +
            (zone.seconds - dt.offset.seconds)) := rfl
      _ = Time.wrap (dt.utc.time.second + zone.seconds) := by
          rw [Time.wrap_wrap_add]
          congr 1
          omega
  · exact Time.nano_shift_of_not_leap h _

theorem time_moveTo_iff (dt : ZonedDateTime) (zone : Offset) :
    (dt.moveTo zone).wall.time = (dt.timeOfDay.moveTo zone).time ↔
      (dt.wall.time.isLeap = true → dt.offset = zone) := by
  cases leap : dt.wall.time.isLeap with
  | false => simp [time_moveTo_of_not_leap leap]
  | true =>
    simp only [forall_const]
    constructor
    · intro same
      apply Decidable.byContradiction
      intro elsewhere
      have moves : zone.seconds - dt.offset.seconds ≠ 0 := by
        intro none
        exact elsewhere (Offset.ext (by omega))
      have lost : (dt.timeOfDay.moveTo zone).time.nano < nanosPerSecond :=
        dt.wall.time.nano_shift_lt moves
      have kept : nanosPerSecond ≤ dt.wall.time.nano := by simpa [Time.isLeap] using leap
      rw [← same] at lost
      exact absurd lost (Nat.not_lt.mpr kept)
    · rintro rfl
      exact (congrArg OffsetTime.time dt.timeOfDay.moveTo_own).symm

theorem time_wall_moveTo_iff (dt : ZonedDateTime) (a b : Offset) :
    (dt.moveTo a).wall.time = (dt.moveTo b).wall.time ↔ a.seconds % 86400 = b.seconds % 86400 := by
  have second (zone : Offset) : ((dt.moveTo zone).wall.time.second : Int) =
      (dt.utc.time.second + zone.seconds) % 86400 :=
    Int.toNat_of_nonneg (Int.emod_nonneg _ (by decide))
  have first := second a
  have other := second b
  constructor
  · intro same
    rw [same] at first
    omega
  · intro same
    apply Time.ext
    · omega
    · rfl

theorem inZone_of_shows {dt : ZonedDateTime} {zone : Zone} {wall : DateTime}
    (h : dt.Shows zone.offsetAt wall) : dt.inZone zone = dt := by
  rw [inZone, ← h.2]
  rfl

end ZonedDateTime

namespace WireValue

variable {ctx : ConversionContext} {dt : ZonedDateTime} {wall : DateTime}

structure ZonedReadings (ctx : ConversionContext) (dt : ZonedDateTime) : Prop where
  inZone : ∃ moved : ZonedDateTime,
    moved.SameInstant dt ∧ moved.offset = ctx.zone.offsetAt dt.utc ∧
    moved.wall.seconds - moved.offset.seconds = dt.wall.seconds - dt.offset.seconds ∧
    moved.wall.time.nano = dt.wall.time.nano ∧
    (timePointWithTimeZone dt).read ctx .offsetDateTime = .ok (.offsetDateTime moved) ∧
    (timePointWithTimeZone dt).read ctx .zonedDateTime = .ok (.zonedDateTime moved) ∧
    (timePointWithTimeZone dt).read ctx .timestamp = .ok (.timestamp moved.wall) ∧
    (timePointWithTimeZone dt).read ctx .date = .ok (.date moved.wall.date) ∧
    (timePointWithTimeZone dt).read ctx .time = .ok (.time moved.wall.time)
  inNoZone : ∀ other : ConversionContext,
    (timePointWithTimeZone dt).read other .localDateTime = .ok (.localDateTime dt.wall) ∧
    (timePointWithTimeZone dt).read other .localDate = .ok (.localDate dt.wall.date) ∧
    (timePointWithTimeZone dt).read other .localTime = .ok (.localTime dt.wall.time)

theorem read_localDateTime (ctx : ConversionContext) (own : dt.wall.InCalendar) :
    (timePointWithTimeZone dt).read ctx .localDateTime = .ok (.localDateTime dt.wall) :=
  congrArg (Except.map HostValue.localDateTime) (ownWall_of_inCalendar own)

theorem read_timestamp (there : (dt.inZone ctx.zone).wall.InCalendar) :
    (timePointWithTimeZone dt).read ctx .timestamp = .ok (.timestamp (dt.inZone ctx.zone).wall) :=
  congrArg (Except.map HostValue.timestamp) (ownWall_of_inCalendar there)

theorem read_time (there : (dt.inZone ctx.zone).wall.InCalendar) :
    (timePointWithTimeZone dt).read ctx .time = .ok (.time (dt.inZone ctx.zone).wall.time) :=
  congrArg (Except.map fun wall : DateTime => HostValue.time wall.time) (ownWall_of_inCalendar there)

theorem zonedReadings (own : dt.wall.InCalendar) (there : (dt.inZone ctx.zone).wall.InCalendar) :
    ZonedReadings ctx dt where
  inZone := by
    have date : (timePointWithTimeZone dt).read ctx .date =
        .ok (.date (dt.inZone ctx.zone).wall.date) :=
      congrArg (Except.map fun wall : DateTime => HostValue.date wall.date) (ownWall_of_inCalendar there)
    exact ⟨dt.inZone ctx.zone, rfl, rfl, dt.seconds_wall_moveTo _, rfl, rfl, rfl, read_timestamp there,
      date, read_time there⟩
  inNoZone other := by
    have shown := ownWall_of_inCalendar own
    refine ⟨read_localDateTime other own, ?_, ?_⟩
    · exact congrArg (Except.map fun wall : DateTime => HostValue.localDate wall.date) shown
    · exact congrArg (Except.map fun wall : DateTime => HostValue.localTime wall.time) shown

structure ClockReadings (ctx : ConversionContext) (name : String) (wall : DateTime) : Prop where
  refused_iff :
    (∃ fault, (timePoint wall).read ctx .offsetDateTime =
      .error (.outOfRange .offsetDateTime fault)) ↔ ¬ctx.zone.Tells wall
  attaches : ctx.zone.Tells wall →
    ∃ dt, (timePoint wall).read ctx .offsetDateTime = .ok (.offsetDateTime dt) ∧
      dt.wall = wall ∧ dt.offset = ctx.zone.offsetAt dt.utc ∧
      ∀ other : ZonedDateTime, other.Shows ctx.zone.offsetAt wall → dt.utc.seconds ≤ other.utc.seconds
  encodes_iff :
    (∃ p, (HostValue.localDateTime wall).encode ctx name (some .timePointWithTimeZone) = .ok p) ↔
      ctx.zone.Tells wall
  returns : ∀ p, (HostValue.localDateTime wall).encode ctx name (some .timePointWithTimeZone) = .ok p →
    p.value.read ctx .timestamp = .ok (.timestamp wall) ∧
    ∀ other : ConversionContext, p.value.read other .localDateTime = .ok (.localDateTime wall)
  -- under a calendar or a default zone, and on a host whose clocks are never changed
  unchanged : ∀ offset, (∀ utc, ctx.zone.offsetAt utc = offset) →
    (ctx.zone.Tells wall ↔ (wall.shift (-offset.seconds)).InCalendar)

theorem read_attached (attached : ctx.zone.ofLocal? wall = some dt) :
    (timePoint wall).read ctx .offsetDateTime = .ok (.offsetDateTime dt) := by
  have attaches : attachZone ctx .offsetDateTime wall = .ok dt := by rw [attachZone, attached]
  exact congrArg (Except.map HostValue.offsetDateTime) attaches

theorem read_unattached (silent : ¬ctx.zone.Tells wall) :
    (timePoint wall).read ctx .offsetDateTime =
      .error (.outOfRange .offsetDateTime (.noInstant wall)) := by
  have refuses : attachZone ctx .offsetDateTime wall =
      .error (.outOfRange .offsetDateTime (.noInstant wall)) := by
    rw [attachZone, Zone.ofLocal?_eq_none_iff.mpr silent]
  exact congrArg (Except.map HostValue.offsetDateTime) refuses

theorem encode_zoned (ctx : ConversionContext) (name : String) (wall : DateTime) :
    (HostValue.localDateTime wall).encode ctx name (some .timePointWithTimeZone) =
      ((timePoint wall).read ctx .offsetDateTime).map fun host =>
        ⟨name, .timePointWithTimeZone, host.toWire⟩ := by
  have wire : (HostValue.localDateTime wall).wireAs ctx .timePointWithTimeZone =
      ((timePoint wall).read ctx .offsetDateTime).map HostValue.toWire := rfl
  have encodes : (HostValue.localDateTime wall).encode ctx name (some .timePointWithTimeZone) =
      ((HostValue.localDateTime wall).wireAs ctx .timePointWithTimeZone).map fun wire =>
        ⟨name, .timePointWithTimeZone, wire⟩ := rfl
  rw [encodes, wire]
  cases (timePoint wall).read ctx .offsetDateTime <;> rfl

theorem clockReadings (name : String) (own : wall.InCalendar) : ClockReadings ctx name wall := by
  by_cases tells : ctx.zone.Tells wall
  · obtain ⟨dt, attached⟩ := tells.ofLocal?
    have shows : dt.Shows ctx.zone.offsetAt wall := ctx.zone.shows attached
    have reads := read_attached attached
    have encodes : (HostValue.localDateTime wall).encode ctx name (some .timePointWithTimeZone) =
        .ok ⟨name, .timePointWithTimeZone, timePointWithTimeZone dt⟩ := by
      rw [encode_zoned, reads]
      rfl
    refine ⟨⟨fun ⟨_, fails⟩ => ?_, fun silent => absurd tells silent⟩,
      fun _ => ⟨dt, reads, shows.1, shows.2, fun _ => Zone.seconds_le_of_shows attached⟩,
      ⟨fun _ => tells, fun _ => ⟨_, encodes⟩⟩, ?_, fun _ => Zone.tells_iff_of_constant⟩
    · cases reads.symm.trans fails
    · intro p encodes'
      cases encodes.symm.trans encodes'
      have moved : dt.inZone ctx.zone = dt := ZonedDateTime.inZone_of_shows shows
      have inCalendar : dt.wall.InCalendar := shows.1 ▸ own
      refine ⟨?_, fun other => ?_⟩
      · rw [read_timestamp (moved.symm ▸ inCalendar), moved, shows.1]
      · rw [read_localDateTime other inCalendar, shows.1]
  · have fails := read_unattached tells
    have refused (p : Parameter) : (HostValue.localDateTime wall).encode ctx name
        (some .timePointWithTimeZone) ≠ .ok p := by
      rw [encode_zoned, fails]
      exact nofun
    exact ⟨⟨fun _ => tells, fun _ => ⟨_, fails⟩⟩, fun told => absurd told tells,
      ⟨fun ⟨p, encodes⟩ => absurd encodes (refused p), fun told => absurd told tells⟩,
      fun p encodes => absurd encodes (refused p), fun _ => Zone.tells_iff_of_constant⟩

theorem zone_laws (ctx : ConversionContext) :
    (∀ dt : ZonedDateTime, dt.wall.InCalendar → (dt.inZone ctx.zone).wall.InCalendar →
      ZonedReadings ctx dt) ∧
    ∀ (name : String) (wall : DateTime), wall.InCalendar → ClockReadings ctx name wall :=
  ⟨fun _ => zonedReadings, fun name _ => clockReadings name⟩

def leapSecond : ZonedDateTime :=
  ⟨⟨⟨2016, 12, 31, Date.december _⟩, ⟨86399, 1000000000, by decide, by decide⟩⟩, .utc, by decide⟩

def firstMidnight : DateTime :=
  .atMidnight ⟨-262143, 1, 1, Date.january _⟩

theorem zone_laws_leapSecond :
    leapSecond.wall.InCalendar ∧ (leapSecond.inZone HostValue.nineHoursAhead.zone).wall.InCalendar ∧
      ZonedReadings HostValue.nineHoursAhead leapSecond ∧ firstMidnight.InCalendar ∧
      ClockReadings HostValue.nineHoursAhead "p1" firstMidnight ∧
      -- the clocks of central Europe skip half past two in March and show it twice in October
      (∃ fault, (timePoint ⟨CentralEurope.summerBegins.date, CentralEurope.halfPastTwo⟩).read
        HostValue.inCentralEurope .offsetDateTime = .error (.outOfRange .offsetDateTime fault)) ∧
      ∃ dt, (timePoint ⟨CentralEurope.summerEnds.date, CentralEurope.halfPastTwo⟩).read
          HostValue.inCentralEurope .offsetDateTime = .ok (.offsetDateTime dt) ∧
        dt.utc.seconds < CentralEurope.summerEnds.seconds := by
  have own : leapSecond.wall.InCalendar := by decide
  have there : (leapSecond.inZone HostValue.nineHoursAhead.zone).wall.InCalendar := by decide
  have first : firstMidnight.InCalendar := by decide
  obtain ⟨zoned, clocks⟩ := zone_laws HostValue.nineHoursAhead
  obtain ⟨-, changed⟩ := zone_laws HostValue.inCentralEurope
  have skipped : ¬HostValue.inCentralEurope.zone.Tells
      ⟨CentralEurope.summerBegins.date, CentralEurope.halfPastTwo⟩ :=
    Zone.ofLocal?_eq_none_iff.mp (by decide)
  have shows : CentralEurope.beforeChange.Shows HostValue.inCentralEurope.zone.offsetAt
      ⟨CentralEurope.summerEnds.date, CentralEurope.halfPastTwo⟩ := ⟨by decide, by decide⟩
  obtain ⟨dt, reads, -, -, earliest⟩ := (changed "p1" _ (by decide)).attaches ⟨_, shows⟩
  have before : CentralEurope.beforeChange.utc.seconds < CentralEurope.summerEnds.seconds := by decide
  exact ⟨own, there, zoned leapSecond own there, first, clocks "p1" firstMidnight first,
    (changed "p1" _ (by decide)).refused_iff.mpr skipped,
    dt, reads, Int.lt_of_le_of_lt (earliest _ shows) before⟩

/-- A time of day is moved to the offset of now, so its clock is that of the date-time exactly where this
is the offset at the date-time too. Only those leap seconds are meant that stay where they are. -/
theorem time_readings_agree (ctx : ConversionContext) (dt : ZonedDateTime)
    (there : (dt.inZone ctx.zone).wall.InCalendar)
    (leap : dt.wall.time.isLeap = true → dt.offset = ctx.zone.offsetNow) :
    ∃ shown clock : Time,
      (timePointWithTimeZone dt).read ctx .time = .ok (.time shown) ∧
      (timeOfDayWithTimeZone dt.timeOfDay).read ctx .time = .ok (.time clock) ∧
      (timeOfDayWithTimeZone dt.timeOfDay).read ctx .offsetTime =
        .ok (.offsetTime ⟨clock, ctx.zone.offsetNow⟩) ∧
      (shown = clock ↔
        (ctx.zone.offsetAt dt.utc).seconds % 86400 = ctx.zone.offsetNow.seconds % 86400) ∧
      ((ctx.calendar.or ctx.settings.defaultZone).isSome → shown = clock) := by
  have now : (dt.timeOfDay.moveTo ctx.zone.offsetNow).time = (dt.moveTo ctx.zone.offsetNow).wall.time :=
    ((dt.time_moveTo_iff ctx.zone.offsetNow).mpr leap).symm
  have agree : (dt.inZone ctx.zone).wall.time = (dt.timeOfDay.moveTo ctx.zone.offsetNow).time ↔
      (ctx.zone.offsetAt dt.utc).seconds % 86400 = ctx.zone.offsetNow.seconds % 86400 := by
    rw [now]
    exact dt.time_wall_moveTo_iff _ _
  refine ⟨_, _, read_time there, rfl, rfl, agree, fun given => agree.mpr ?_⟩
  obtain ⟨offset, given⟩ := Option.isSome_iff_exists.mp given
  have zone : ctx.zone = .fixed offset := by rw [ConversionContext.zone, given]
  rw [zone]
  rfl

def newYear : ZonedDateTime :=
  ⟨⟨leapSecond.utc.date, HostValue.lateEvening.time⟩, HostValue.lateEvening.offset, leapSecond.inCalendar⟩

theorem time_readings_agree_newYear :
    (newYear.inZone HostValue.nineHoursAhead.zone).wall.InCalendar ∧ newYear.wall.time.isLeap = false ∧
      (∃ clock : Time,
        (timePointWithTimeZone newYear).read HostValue.nineHoursAhead .time = .ok (.time clock) ∧
        (timeOfDayWithTimeZone newYear.timeOfDay).read HostValue.nineHoursAhead .time =
          .ok (.time clock)) ∧
      (newYear.inZone HostValue.inCentralEurope.zone).wall.InCalendar ∧
      ∃ clock : Time,
        (timePointWithTimeZone newYear).read HostValue.inCentralEurope .time = .ok (.time clock) ∧
        (timeOfDayWithTimeZone newYear.timeOfDay).read HostValue.inCentralEurope .time =
          .ok (.time clock) := by
  have ordinary : newYear.wall.time.isLeap = false := by decide
  have there : (newYear.inZone HostValue.nineHoursAhead.zone).wall.InCalendar := by decide
  have inEurope : (newYear.inZone HostValue.inCentralEurope.zone).wall.InCalendar := by decide
  obtain ⟨shown, clock, reads, readsTime, -, -, agree⟩ :=
    time_readings_agree HostValue.nineHoursAhead newYear there (by simp [ordinary])
  obtain ⟨shown', clock', reads', readsTime', -, agree', -⟩ :=
    time_readings_agree HostValue.inCentralEurope newYear inEurope (by simp [ordinary])
  have same : shown = clock := agree rfl
  have same' : shown' = clock' := agree'.mpr (by decide)
  exact ⟨there, ordinary, ⟨clock, same ▸ reads, readsTime⟩, inEurope, clock', same' ▸ reads', readsTime'⟩

def TimesAgree (ctx : ConversionContext) (dt : ZonedDateTime) : Prop :=
  dt.wall.InCalendar → (dt.inZone ctx.zone).wall.InCalendar →
    (timePointWithTimeZone dt).read ctx .time = (timeOfDayWithTimeZone dt.timeOfDay).read ctx .time

theorem timesAgree_iff (own : dt.wall.InCalendar) (there : (dt.inZone ctx.zone).wall.InCalendar) :
    TimesAgree ctx dt ↔
      (dt.inZone ctx.zone).wall.time = (dt.timeOfDay.moveTo ctx.zone.offsetNow).time := by
  have reads : (timeOfDayWithTimeZone dt.timeOfDay).read ctx .time =
      .ok (.time (dt.timeOfDay.moveTo ctx.zone.offsetNow).time) := rfl
  constructor
  · intro agree
    have same := agree own there
    rw [read_time there, reads] at same
    exact HostValue.time.inj (Except.ok.inj same)
  · intro same _ _
    rw [read_time there, reads, same]

theorem time_readings_disagree :
    ¬TimesAgree HostValue.inCentralEurope HostValue.midsummer ∧
      ¬TimesAgree HostValue.nineHoursAhead leapSecond := by
  constructor
  · -- It is winter now, so midsummer's time of day is shown at the offset of winter.
    rw [timesAgree_iff (by decide) (by decide)]
    decide
  · rw [timesAgree_iff (by decide) (by decide)]
    decide

end WireValue

end SqlClient
