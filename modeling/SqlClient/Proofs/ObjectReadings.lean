import SqlClient.Proofs.RoundTrips
import SqlClient.Proofs.Readings
import SqlClient.Calendar.WallClock

namespace SqlClient

variable {ctx : ConversionContext} {v : WireValue} {a : Atom}

namespace WireValue

def Rebinds (ctx : ConversionContext) (v back : WireValue) : Prop :=
  match v, ctx.settings.mapping with
  | timePointWithTimeZone dt, .sqlTemporal =>
    ∃ wall, back = timePoint wall ∧
      ZonedDateTime.ofLocal? wall (ctx.zone.offsetAt dt.utc) = some (dt.inZone ctx.zone)
  | timePointWithTimeZone dt, _ =>
    ∃ dt', back = timePointWithTimeZone dt' ∧ dt'.offset = ctx.zone.offsetAt dt.utc ∧
      ZonedDateTime.SameInstant dt dt'
  | timeOfDayWithTimeZone t, .sqlTemporal =>
    ∃ clock, back = timeOfDay clock ∧
      (OffsetTime.mk clock ctx.zone.offsetNow).universal = t.universal
  | timeOfDayWithTimeZone t, _ =>
    ∃ t', back = timeOfDayWithTimeZone t' ∧ t'.offset = ctx.zone.offsetNow ∧
      t'.universal = t.universal
  | v, _ => back = v

theorem read_object (ha : v.atom? = some a) :
    v.read ctx .object = v.readDirect ctx (ctx.settings.mapping.target a) := by
  rw [read_of_atom ha, ConversionContext.resolve, if_pos rfl]

theorem readDirect_unzoned (hs : ctx.scale = none) (ha : v.atom? = some a)
    (hl : a.isLargeObject = false) (hz : a ≠ .timeOfDayWithTimeZone ∧ a ≠ .timePointWithTimeZone)
    (m : ObjectMapping) : ∃ host, v.readDirect ctx (m.target a) = .ok host ∧ host.toWire = v := by
  cases v with
  | null => cases ha
  | blob | clob => cases ha; cases hl
  | timeOfDayWithTimeZone => cases ha; exact absurd rfl hz.1
  | timePointWithTimeZone => cases ha; exact absurd rfl hz.2
  | decimal d =>
    cases ha
    cases m <;> exact ⟨.decimal d, congrArg (Except.map HostValue.decimal) (atScale_unscaled hs d), rfl⟩
  | int4 n =>
    cases ha
    cases m <;> exact ⟨.int n, congrArg (fun n => Except.ok (HostValue.int n)) (Int32.ofInt_toInt n), rfl⟩
  | int8 n =>
    cases ha
    cases m <;> exact ⟨.long n, congrArg (fun n => Except.ok (HostValue.long n)) (Int64.ofInt_toInt n), rfl⟩
  | _ => cases ha; cases m <;> exact ⟨_, rfl, rfl⟩

theorem rebinds_unzoned (hz : a ≠ .timeOfDayWithTimeZone ∧ a ≠ .timePointWithTimeZone)
    (ha : v.atom? = some a) : v.Rebinds ctx v := by
  cases v with
  | timeOfDayWithTimeZone => cases ha; exact absurd rfl hz.1
  | timePointWithTimeZone => cases ha; exact absurd rfl hz.2
  | _ => exact rfl

theorem rebinds_timeOfDay {t : OffsetTime} (leap : t.time.isLeap = false) :
    ∃ host, (timeOfDayWithTimeZone t).read ctx .object = .ok host ∧
      (timeOfDayWithTimeZone t).Rebinds ctx host.toWire := by
  have same : (t.moveTo ctx.zone.offsetNow).universal = t.universal := OffsetTime.universal_moveTo leap _
  rw [read_object rfl]
  unfold Rebinds
  cases ctx.settings.mapping with
  | sqlTemporal => exact ⟨.time (t.moveTo ctx.zone.offsetNow).time, rfl, _, rfl, same⟩
  | natural | firstCompatible => exact ⟨.offsetTime (t.moveTo ctx.zone.offsetNow), rfl, _, rfl, rfl, same⟩

theorem rebinds_timePoint {dt : ZonedDateTime}
    (hc : ctx.settings.mapping = .sqlTemporal → (dt.inZone ctx.zone).wall.InCalendar) :
    ∃ host, (timePointWithTimeZone dt).read ctx .object = .ok host ∧
      (timePointWithTimeZone dt).Rebinds ctx host.toWire := by
  rw [read_object rfl]
  unfold Rebinds
  cases h : ctx.settings.mapping with
  | sqlTemporal =>
    refine ⟨.timestamp (dt.inZone ctx.zone).wall, ?_, _, rfl, (dt.inZone ctx.zone).ofLocal?_wall⟩
    exact congrArg (Except.map HostValue.timestamp) (ownWall_of_inCalendar (hc h))
  | natural | firstCompatible => exact ⟨.offsetDateTime (dt.inZone ctx.zone), rfl, _, rfl, rfl, rfl⟩

theorem Rebinds.atom {back : WireValue} (h : v.Rebinds ctx back)
    (hm : ctx.settings.mapping ≠ .sqlTemporal) : back.atom? = v.atom? := by
  unfold Rebinds at h
  split at h
  next mapping => exact absurd mapping hm
  next =>
    obtain ⟨dt', rfl, -⟩ := h
    rfl
  next mapping => exact absurd mapping hm
  next =>
    obtain ⟨t', rfl, -⟩ := h
    rfl
  next => rw [h]

theorem read_object_rebinds (hs : ctx.scale = none) (ha : v.atom? = some a)
    (hl : a.isLargeObject = false) (leap : ∀ t, v = timeOfDayWithTimeZone t → t.time.isLeap = false)
    (hc : ctx.settings.mapping = .sqlTemporal → ∀ dt, v = timePointWithTimeZone dt →
      (dt.inZone ctx.zone).wall.InCalendar) :
    ∃ host, v.read ctx .object = .ok host ∧ v.Rebinds ctx host.toWire := by
  by_cases hz : a ≠ .timeOfDayWithTimeZone ∧ a ≠ .timePointWithTimeZone
  · obtain ⟨host, reads, same⟩ := readDirect_unzoned hs ha hl hz ctx.settings.mapping
    refine ⟨host, (read_object ha).trans reads, ?_⟩
    rw [same]
    exact rebinds_unzoned hz ha
  · cases v with
    | null => cases ha
    | timeOfDayWithTimeZone t => exact rebinds_timeOfDay (leap t rfl)
    | timePointWithTimeZone dt => exact rebinds_timePoint fun h => hc h dt rfl
    | _ => cases ha; exact absurd ⟨nofun, nofun⟩ hz

/-- A value that is read as an object and bound again, by whatever sender, travels as the value that it was,
up to the offset of zoned values and to the zone itself where the mapping drops it. -/
theorem object_rebinds (reader sender : ConversionContext) (name : String) (v : WireValue)
    (hs : reader.scale = none) (ha : v.atom? = some a) (hl : a.isLargeObject = false)
    (leap : ∀ t, v = timeOfDayWithTimeZone t → t.time.isLeap = false)
    (hc : reader.settings.mapping = .sqlTemporal → ∀ dt, v = timePointWithTimeZone dt →
      (dt.inZone reader.zone).wall.InCalendar) :
    ∃ host p, v.read reader .object = .ok host ∧ host.encode sender name none = .ok p ∧
      p.value.atom? = some p.atom ∧ (reader.settings.mapping ≠ .sqlTemporal → p.atom = a) ∧
      v.Rebinds reader p.value := by
  obtain ⟨host, reads, rebinds⟩ := read_object_rebinds hs ha hl leap hc
  have kind := (readsAs_read ha .object).of_ok reads
  have present : host ≠ .null := by
    rintro rfl
    cases kind
  obtain ⟨b, hb⟩ := HostValue.exists_atom present
  have atom : host.toWire.atom? = some b := host.atom?_toWire.trans hb
  refine ⟨host, _, reads, HostValue.encode_undeclared name hb, atom, fun hm => ?_, rebinds⟩
  exact Option.some.inj (atom.symm.trans ((rebinds.atom hm).trans ha))

def lastEvening : ZonedDateTime :=
  ⟨{ lastHour.utc with time := { Time.midnight with second := 75600, second_lt := by decide } }, .utc,
    by decide⟩

def clocksTwoHoursAhead : ConversionContext :=
  { twoHoursAhead with settings := { (default : ConversionSettings) with mapping := .sqlTemporal } }

theorem object_rebinds_lastEvening :
    clocksTwoHoursAhead.scale = none ∧ HostValue.inCentralEurope.scale = none ∧
      (timePointWithTimeZone lastEvening).atom? = some .timePointWithTimeZone ∧
      (lastEvening.inZone clocksTwoHoursAhead.zone).wall.InCalendar ∧
      (∃ host p, (timePointWithTimeZone lastEvening).read clocksTwoHoursAhead .object = .ok host ∧
        host.encode default "p1" none = .ok p ∧ p.value.atom? = some p.atom ∧
        (timePointWithTimeZone lastEvening).Rebinds clocksTwoHoursAhead p.value) ∧
      ∃ host p dt', (timePointWithTimeZone HostValue.midsummer).read HostValue.inCentralEurope .object =
          .ok host ∧
        host.encode default "p1" none = .ok p ∧ p.atom = .timePointWithTimeZone ∧
        p.value = timePointWithTimeZone dt' ∧ dt'.offset = CentralEurope.summer := by
  have shown : (lastEvening.inZone clocksTwoHoursAhead.zone).wall.InCalendar := by decide
  obtain ⟨host, p, reads, encodes, atom, -, rebinds⟩ :=
    object_rebinds clocksTwoHoursAhead default "p1" (timePointWithTimeZone lastEvening) rfl rfl rfl
      (fun _ other => by cases other)
      (fun _ _ same => timePointWithTimeZone.inj same ▸ shown)
  obtain ⟨host', p', reads', encodes', -, atom', dt', value, offset, -⟩ :=
    object_rebinds HostValue.inCentralEurope default "p1" (timePointWithTimeZone HostValue.midsummer) rfl
      rfl rfl (fun _ other => by cases other) (fun mapping => nomatch mapping)
  have summer : HostValue.inCentralEurope.zone.offsetAt HostValue.midsummer.utc = CentralEurope.summer := by
    decide
  exact ⟨rfl, rfl, rfl, shown, ⟨host, p, reads, encodes, atom, rebinds⟩, host', p', dt', reads', encodes',
    atom' nofun, value, offset.trans summer⟩

end WireValue

end SqlClient
