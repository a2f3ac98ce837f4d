import SqlClient.Parameter
import SqlClient.Proofs.Zones

namespace SqlClient

open Calendar

def OffsetTime.universal (t : OffsetTime) : Nat × Nat :=
  (Time.wrap (t.time.second - t.offset.seconds), t.time.nano)

namespace Time

theorem wrap_wrap_add (a b : Int) : wrap (wrap a + b) = wrap (a + b) := by
  unfold wrap
  omega

theorem nano_mod_of_not_leap {t : Time} (h : t.isLeap = false) : t.nano % nanosPerSecond = t.nano := by
  have below : t.nano < nanosPerSecond := by simpa [isLeap] using h
  exact Nat.mod_eq_of_lt below

theorem shift_zero (t : Time) : t.shift 0 = t := by
  simp [shift]

theorem second_shift_of_not_leap {t : Time} (h : t.isLeap = false) (delta : Int) :
    (t.shift delta).second = wrap (t.second + delta) := by
  have lt := t.second_lt
  unfold shift
  split
  · simp only [wrap]
    omega
  · simp [h]

theorem nano_shift_of_not_leap {t : Time} (h : t.isLeap = false) (delta : Int) :
    (t.shift delta).nano = t.nano := by
  unfold shift
  split
  · rfl
  · exact nano_mod_of_not_leap h

end Time

namespace OffsetTime

theorem moveTo_own (t : OffsetTime) : t.moveTo t.offset = t := by
  simp only [moveTo, Int.sub_self, Time.shift_zero]

theorem universal_moveTo {t : OffsetTime} (h : t.time.isLeap = false) (offset : Offset) :
    (t.moveTo offset).universal = t.universal := by
  have second : Time.wrap ((t.moveTo offset).time.second - offset.seconds) =
      Time.wrap (t.time.second - t.offset.seconds) := by
    have moved : ((t.moveTo offset).time.second : Int) =
        Time.wrap (t.time.second + (offset.seconds - t.offset.seconds)) := by
      exact congrArg Int.ofNat (Time.second_shift_of_not_leap h _)
    rw [moved, Int.sub_eq_add_neg, Time.wrap_wrap_add]
    congr 1
    omega
  have nano : (t.moveTo offset).time.nano = t.time.nano := Time.nano_shift_of_not_leap h _
  exact Prod.ext second nano

end OffsetTime

namespace HostValue

variable {ctx : ConversionContext} {v : HostValue} {a : Atom} {t : Target}

theorem exists_atom (hv : v ≠ .null) : ∃ a, v.atom? = some a := by
  cases v with
  | null => exact absurd rfl hv
  | _ => exact ⟨_, rfl⟩

theorem isLargeObject_of_atom (ha : v.atom? = some a) : a.isLargeObject = false := by
  cases v <;> cases ha <;> rfl

theorem encode_undeclared (name : String) (ha : v.atom? = some a) :
    v.encode ctx name none = .ok ⟨name, a, v.toWire⟩ := by
  have hv : v ≠ .null := by
    rintro rfl
    cases ha
  have asIs : v.wireAs ctx a = .ok v.toWire := by
    simp only [wireAs, v.atom?_toWire, ha, if_true]
  simp only [encode, Option.none_or, ha, isLargeObject_of_atom ha, Bool.false_eq_true, if_false, hv,
    asIs]
  rfl

/-- What comes back of a value to a reader in `zone`. Times of day are moved to its offset of now. -/
def ReturnsAs (zone : Zone) : HostValue → HostValue → Prop
  | .byteStream s, back => back = .byteStream ⟨s.content, 0⟩
  | .characterStream s, back => back = .characterStream ⟨s.content, 0⟩
  | .offsetDateTime dt, back =>
    ∃ dt', back = .offsetDateTime dt' ∧ dt'.offset = zone.offsetAt dt.utc ∧
      ZonedDateTime.SameInstant dt dt'
  | .zonedDateTime dt, back =>
    ∃ dt', back = .zonedDateTime dt' ∧ dt'.offset = zone.offsetAt dt.utc ∧
      ZonedDateTime.SameInstant dt dt'
  | .offsetTime t, back =>
    ∃ t', back = .offsetTime t' ∧ t'.offset = zone.offsetNow ∧
      (t.time.isLeap = false → t'.universal = t.universal) ∧ (t.offset = zone.offsetNow → t' = t)
  | v, back => back = v

theorem returnsAs_moveTo (t : OffsetTime) (zone : Zone) :
    (offsetTime t).ReturnsAs zone (offsetTime (t.moveTo zone.offsetNow)) := by
  refine ⟨t.moveTo zone.offsetNow, rfl, rfl, fun h => OffsetTime.universal_moveTo h _, fun own => ?_⟩
  rw [← own, t.moveTo_own]

theorem read_integer (hv : v.kind? = some t) (ht : v.integer?.isSome) :
    v.toWire.read ctx t = .ok v := by
  cases v with
  | byte n =>
    cases hv
    have narrowed : Int8.ofInt n.toInt32.toInt = n := by simp
    exact congrArg (fun n => Except.ok (byte n)) narrowed
  | short n =>
    cases hv
    have narrowed : Int16.ofInt n.toInt32.toInt = n := by simp
    exact congrArg (fun n => Except.ok (short n)) narrowed
  | int n =>
    cases hv
    exact congrArg (fun n => Except.ok (int n)) (Int32.ofInt_toInt n)
  | long n =>
    cases hv
    exact congrArg (fun n => Except.ok (long n)) (Int64.ofInt_toInt n)
  | _ => cases ht

theorem read_toWire (hs : ctx.scale = none) (hv : v.kind? = some t) :
    ∃ back, v.toWire.read ctx t = .ok back ∧ v.ReturnsAs ctx.zone back := by
  cases v with
  | null => cases hv
  | byte | short | int | long => exact ⟨_, read_integer hv rfl, rfl⟩
  | decimal d =>
    cases hv
    exact ⟨.decimal d, congrArg (Except.map HostValue.decimal) (atScale_unscaled hs d), rfl⟩
  | offsetTime time =>
    cases hv
    exact ⟨_, rfl, returnsAs_moveTo time ctx.zone⟩
  | offsetDateTime dt =>
    cases hv
    exact ⟨_, rfl, dt.inZone ctx.zone, rfl, rfl, rfl⟩
  | zonedDateTime dt =>
    cases hv
    exact ⟨_, rfl, dt.inZone ctx.zone, rfl, rfl, rfl⟩
  | _ =>
    cases hv
    exact ⟨_, rfl, rfl⟩

theorem encode_round_trip (sender reader : ConversionContext) (name : String) (v : HostValue)
    (hv : v ≠ .null) (hs : reader.scale = none) :
    ∃ p t back, v.encode sender name none = .ok p ∧ v.kind? = some t ∧
      p.value.read reader t = .ok back ∧ v.ReturnsAs reader.zone back := by
  obtain ⟨a, ha⟩ := exists_atom hv
  obtain ⟨t, ht⟩ := Option.ne_none_iff_exists'.mp fun none => hv (kind?_eq_none_iff.mp none)
  obtain ⟨back, hread, returns⟩ := read_toWire hs ht
  exact ⟨⟨name, a, v.toWire⟩, t, back, encode_undeclared name ha, ht, hread, returns⟩

def lateEvening : OffsetTime :=
  ⟨{ Time.midnight with second := 84600, second_lt := by decide }, CentralEurope.winter⟩

def nineHoursAhead : ConversionContext :=
  .ofSettings { (default : ConversionSettings) with defaultZone := some ⟨32400, by decide⟩ }

def inCentralEurope : ConversionContext :=
  .ofSettings { (default : ConversionSettings) with system := CentralEurope.zone }

def midsummer : ZonedDateTime :=
  ⟨.atMidnight ⟨2024, 6, 21, by decide⟩, .utc, by decide⟩

theorem encode_round_trip_lateEvening :
    offsetTime lateEvening ≠ .null ∧ nineHoursAhead.scale = none ∧ inCentralEurope.scale = none ∧
      (∃ p t back, (offsetTime lateEvening).encode default "p1" none = .ok p ∧
        (offsetTime lateEvening).kind? = some t ∧ p.value.read nineHoursAhead t = .ok back ∧
        (offsetTime lateEvening).ReturnsAs nineHoursAhead.zone back) ∧
      ∃ p t dt', (offsetDateTime midsummer).encode default "p1" none = .ok p ∧
        (offsetDateTime midsummer).kind? = some t ∧
        p.value.read inCentralEurope t = .ok (.offsetDateTime dt') ∧
        dt'.offset = CentralEurope.summer ∧ ZonedDateTime.SameInstant midsummer dt' := by
  have evening := encode_round_trip default nineHoursAhead "p1" (offsetTime lateEvening) nofun rfl
  obtain ⟨p, t, back, encodes, kind, reads, dt', rfl, offset, same⟩ :=
    encode_round_trip default inCentralEurope "p1" (offsetDateTime midsummer) nofun rfl
  have summer : inCentralEurope.zone.offsetAt midsummer.utc = CentralEurope.summer := by decide
  exact ⟨nofun, rfl, rfl, evening, p, t, dt', encodes, kind, reads, offset.trans summer, same⟩

end HostValue

end SqlClient
