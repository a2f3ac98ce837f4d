import Mathlib.Data.Int.ModEq
import SqlClient.Proofs.CalendarText
import SqlClient.Proofs.ZoneReadings

namespace SqlClient

open Calendar

theorem Time.wrap_modEq (seconds : Int) : (Time.wrap seconds : Int) ≡ seconds [ZMOD 86400] := by
  unfold Time.wrap Int.ModEq
  omega

attribute [ext] OffsetTime

namespace OffsetTime

def utcSecond (t : OffsetTime) : Int :=
  t.time.second - t.offset.seconds

variable {t m : OffsetTime} {a b : Offset}

theorem eq_of_utcSecond (offset : m.offset = t.offset) (nano : m.time.nano = t.time.nano)
    (instant : m.utcSecond ≡ t.utcSecond [ZMOD 86400]) : m = t := by
  have second : m.time.second = t.time.second := by
    have lt := m.time.second_lt
    have lt' := t.time.second_lt
    unfold Int.ModEq utcSecond at instant
    rw [offset] at instant
    omega
  exact OffsetTime.ext (Time.ext second nano) offset

theorem utcSecond_moveTo (h : t.time.isLeap = false) (a : Offset) :
    (t.moveTo a).utcSecond ≡ t.utcSecond [ZMOD 86400] := by
  have moved : ((t.moveTo a).time.second : Int) ≡
      t.time.second + (a.seconds - t.offset.seconds) [ZMOD 86400] := by
    rw [moveTo, Time.second_shift_of_not_leap h]
    exact Time.wrap_modEq _
  calc (t.moveTo a).utcSecond
      ≡ t.time.second + (a.seconds - t.offset.seconds) - a.seconds [ZMOD 86400] := moved.sub_right _
    _ = t.utcSecond := by unfold utcSecond; omega

theorem nano_moveTo (h : t.time.isLeap = false) (a : Offset) : (t.moveTo a).time.nano = t.time.nano :=
  Time.nano_shift_of_not_leap h _

theorem isLeap_moveTo (h : t.time.isLeap = false) (a : Offset) : (t.moveTo a).time.isLeap = false := by
  rw [Time.isLeap, nano_moveTo h]
  exact h

theorem moveTo_moveTo (h : t.time.isLeap = false) (a b : Offset) :
    (t.moveTo a).moveTo b = t.moveTo b := by
  have leapless := isLeap_moveTo h a
  have offset : ((t.moveTo a).moveTo b).offset = (t.moveTo b).offset := rfl
  apply eq_of_utcSecond offset
  · rw [nano_moveTo leapless, nano_moveTo h, nano_moveTo h]
  · calc ((t.moveTo a).moveTo b).utcSecond
        ≡ (t.moveTo a).utcSecond [ZMOD 86400] := utcSecond_moveTo leapless b
      _ ≡ t.utcSecond [ZMOD 86400] := utcSecond_moveTo h a
      _ ≡ (t.moveTo b).utcSecond [ZMOD 86400] := (utcSecond_moveTo h b).symm

/-- A time of day that is no leap second moves to an offset in the one way that keeps its nanoseconds and
its instant, and the moves are an action of the offsets. -/
theorem moveTo_action (t : OffsetTime) (h : t.time.isLeap = false) (a b : Offset) :
    let m := t.moveTo a
    (m.offset = a ∧ m.time.isLeap = false ∧
      Time.ofFields? m.time.hour m.time.minute m.time.secondOfMinute m.time.nano = some m.time ∧
      m.time.nano = t.time.nano ∧ m.utcSecond ≡ t.utcSecond [ZMOD 86400]) ∧
    (∀ m' : OffsetTime, m'.offset = a → m'.time.nano = t.time.nano →
      m'.utcSecond ≡ t.utcSecond [ZMOD 86400] → m' = m) ∧
    m.moveTo b = t.moveTo b ∧ t.moveTo t.offset = t := by
  intro m
  have leapless : m.time.isLeap = false := isLeap_moveTo h a
  have valid : m.time.LeapEndsMinute := fun leap => nomatch leapless.symm.trans leap
  refine ⟨⟨rfl, leapless, m.time.ofFields?_own valid, nano_moveTo h a, utcSecond_moveTo h a⟩, ?_,
    moveTo_moveTo h a b, t.moveTo_own⟩
  intro m' offset nano instant
  exact eq_of_utcSecond offset (nano.trans (nano_moveTo h a).symm)
    (instant.trans (utcSecond_moveTo h a).symm)

def easternMidnight : OffsetTime :=
  ⟨⟨1, 999999999, by decide, by decide⟩, ⟨86399, by decide⟩⟩

theorem moveTo_action_westernmost :
    easternMidnight.time.isLeap = false ∧
      ((easternMidnight.moveTo ⟨-86399, by decide⟩).moveTo .utc).time.second = 2 := by
  have h : easternMidnight.time.isLeap = false := rfl
  have composed := (moveTo_action easternMidnight h ⟨-86399, by decide⟩ .utc).2.2.1
  refine ⟨h, ?_⟩
  rw [composed]
  rfl

end OffsetTime

end SqlClient
