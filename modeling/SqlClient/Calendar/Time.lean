/-!
Times of day and offsets from universal time. A time is a second of the day and its nanoseconds; a
billion or more of them make it a leap second, which stands beside the second it follows.
-/

namespace SqlClient

namespace Calendar

def nanosPerSecond : Nat := 1000000000

end Calendar

open Calendar

structure Offset where
  seconds : Int
  small : -86400 < seconds ∧ seconds < 86400
deriving DecidableEq, Repr

def Offset.utc : Offset := ⟨0, by decide⟩

instance : Inhabited Offset := ⟨.utc⟩

def Offset.ofSeconds? (seconds : Int) : Option Offset :=
  if h : -86400 < seconds ∧ seconds < 86400 then some ⟨seconds, h⟩ else none

structure Time where
  second : Nat
  nano : Nat
  second_lt : second < 86400
  nano_lt : nano < 2000000000
deriving DecidableEq, Repr

namespace Time

def midnight : Time := ⟨0, 0, by decide, by decide⟩

instance : Inhabited Time := ⟨midnight⟩

def hour (t : Time) : Nat := t.second / 3600

def minute (t : Time) : Nat := t.second / 60 % 60

def secondOfMinute (t : Time) : Nat := t.second % 60

def isLeap (t : Time) : Bool :=
  nanosPerSecond ≤ t.nano

def ofFields? (hour minute second nano : Nat) : Option Time :=
  if h : hour < 24 ∧ minute < 60 ∧ second < 60 ∧ nano < 2000000000 ∧
      (nano < nanosPerSecond ∨ second = 59) then
    some ⟨hour * 3600 + minute * 60 + second, nano, by omega, by omega⟩
  else none

def wrap (seconds : Int) : Nat :=
  (seconds % 86400).toNat

theorem wrap_lt (seconds : Int) : wrap seconds < 86400 := by
  unfold wrap
  omega

/-- The clock `delta` seconds later, wrapping at midnight. A leap second that is left behind counts as
the ordinary second it stands beside: the same one going forward, the next one going back. -/
def shift (t : Time) (delta : Int) : Time :=
  if delta = 0 then t
  else
    let start := if t.isLeap ∧ delta < 0 then t.second + 1 else t.second
    { second := wrap (start + delta)
      nano := t.nano % nanosPerSecond
      second_lt := wrap_lt _
      nano_lt := by
        have : t.nano % nanosPerSecond < nanosPerSecond := Nat.mod_lt _ (by decide)
        simp only [nanosPerSecond] at *
        omega }

end Time

structure OffsetTime where
  time : Time
  offset : Offset
deriving DecidableEq, Repr

def OffsetTime.moveTo (t : OffsetTime) (offset : Offset) : OffsetTime :=
  ⟨t.time.shift (offset.seconds - t.offset.seconds), offset⟩

end SqlClient
