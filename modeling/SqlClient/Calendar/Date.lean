namespace SqlClient

namespace Calendar

def isLeapYear (year : Int) : Bool :=
  year % 4 = 0 ∧ (year % 100 ≠ 0 ∨ year % 400 = 0)

def daysInMonth (year : Int) (month : Nat) : Nat :=
  if month = 2 then if isLeapYear year then 29 else 28
  else if month = 4 ∨ month = 6 ∨ month = 9 ∨ month = 11 then 30
  else 31

def minYear : Int := -262143

def maxYear : Int := 262142

def IsDate (year : Int) (month day : Nat) : Prop :=
  1 ≤ month ∧ month ≤ 12 ∧ 1 ≤ day ∧ day ≤ daysInMonth year month

instance (year : Int) (month day : Nat) : Decidable (IsDate year month day) :=
  inferInstanceAs (Decidable (_ ∧ _ ∧ _ ∧ _))

theorem daysInMonth_ge (year : Int) (month : Nat) : 28 ≤ daysInMonth year month := by
  unfold daysInMonth
  split
  · split <;> decide
  · split <;> decide

end Calendar

open Calendar

structure Date where
  year : Int
  month : Nat
  day : Nat
  isDate : IsDate year month day
deriving DecidableEq, Repr

namespace Date

def ofFields? (year : Int) (month day : Nat) : Option Date :=
  if h : IsDate year month day then some ⟨year, month, day, h⟩ else none

def InCalendar (d : Date) : Prop :=
  minYear ≤ d.year ∧ d.year ≤ maxYear

instance (d : Date) : Decidable d.InCalendar :=
  inferInstanceAs (Decidable (_ ∧ _))

instance : Inhabited Date := ⟨⟨1970, 1, 1, by decide⟩⟩

theorem january (year : Int) : IsDate year 1 1 := by
  simp [IsDate, daysInMonth]

theorem december (year : Int) : IsDate year 12 31 := by
  simp [IsDate, daysInMonth]

def next (d : Date) : Date :=
  if hd : d.day < daysInMonth d.year d.month then
    ⟨d.year, d.month, d.day + 1, d.isDate.1, d.isDate.2.1, by omega, hd⟩
  else if hm : d.month < 12 then
    ⟨d.year, d.month + 1, 1, by omega, hm, by omega,
      Nat.le_trans (by decide) (daysInMonth_ge ..)⟩
  else ⟨d.year + 1, 1, 1, january _⟩

def previous (d : Date) : Date :=
  if hd : 1 < d.day then
    ⟨d.year, d.month, d.day - 1, d.isDate.1, d.isDate.2.1, by omega, by
      have := d.isDate.2.2.2
      omega⟩
  else if hm : 1 < d.month then
    ⟨d.year, d.month - 1, daysInMonth d.year (d.month - 1), by omega, by
      have := d.isDate.2.1
      omega, Nat.le_trans (by decide) (daysInMonth_ge ..), Nat.le_refl _⟩
  else ⟨d.year - 1, 12, 31, december _⟩

end Date

end SqlClient
