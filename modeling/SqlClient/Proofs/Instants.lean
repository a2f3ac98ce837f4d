import SqlClient.Calendar.WallClock

namespace SqlClient

open Calendar

namespace Calendar

def daysBeforeYear (year : Int) : Int :=
  365 * (year - 1) + (year - 1) / 4 - (year - 1) / 100 + (year - 1) / 400

def daysOfMonths (year : Int) : Nat → Nat
  | 0 => 0
  | months + 1 => daysOfMonths year months + daysInMonth year (months + 1)

theorem daysOfMonths_twelve (year : Int) :
    daysOfMonths year 12 = if isLeapYear year then 366 else 365 := by
  cases leap : isLeapYear year <;> simp [daysOfMonths, daysInMonth, leap]

theorem daysBeforeYear_succ (year : Int) :
    daysBeforeYear (year + 1) = daysBeforeYear year + daysOfMonths year 12 := by
  rw [daysOfMonths_twelve]
  simp only [daysBeforeYear, isLeapYear, decide_eq_true_eq]
  split
  · omega
  · omega

end Calendar

namespace Date

def dayNumber (d : Date) : Int :=
  daysBeforeYear d.year + daysOfMonths d.year (d.month - 1) + d.day

theorem dayNumber_next (d : Date) : d.next.dayNumber = d.dayNumber + 1 := by
  obtain ⟨year, month, day, first, last, positive, within⟩ := d
  by_cases inside : day < daysInMonth year month
  · rw [next, dif_pos inside]
    simp only [dayNumber]
    omega
  · have lastDay : daysInMonth year month = day := by omega
    have month_eq : month = month - 1 + 1 := by omega
    have through : daysOfMonths year month = daysOfMonths year (month - 1) + day := by
      rw [month_eq, daysOfMonths, ← month_eq, lastDay]
    by_cases early : month < 12
    · rw [next, dif_neg inside, dif_pos early]
      simp only [dayNumber, Nat.add_sub_cancel, through]
      omega
    · have december : month = 12 := by omega
      subst december
      rw [next, dif_neg inside, dif_neg early]
      have none : daysOfMonths (year + 1) 0 = 0 := rfl
      simp only [dayNumber, daysBeforeYear_succ, through, Nat.sub_self, none]
      omega

theorem dayNumber_previous (d : Date) : d.previous.dayNumber = d.dayNumber - 1 := by
  have back := d.previous.dayNumber_next
  rw [next_previous] at back
  omega

end Date

namespace DateTime

def seconds (dt : DateTime) : Int :=
  dt.date.dayNumber * 86400 + dt.time.second

theorem dayNumber_dateAt (date : Date) {second : Int} (h : -86400 ≤ second ∧ second < 172800) :
    (dateAt date second).dayNumber = date.dayNumber + second / 86400 := by
  unfold dateAt
  split
  · rw [Date.dayNumber_previous]
    omega
  · split
    · rw [Date.dayNumber_next]
      omega
    · omega

theorem seconds_shift (dt : DateTime) {delta : Int} (h : -86400 < delta ∧ delta < 86400) :
    (dt.shift delta).seconds = dt.seconds + delta := by
  have inDay := dt.time.second_lt
  simp only [seconds, shift, Time.wrap]
  rw [dayNumber_dateAt dt.date (by omega)]
  omega

end DateTime

namespace ZonedDateTime

theorem seconds_wall (dt : ZonedDateTime) : dt.wall.seconds = dt.utc.seconds + dt.offset.seconds :=
  dt.utc.seconds_shift dt.offset.small

theorem seconds_wall_moveTo (dt : ZonedDateTime) (zone : Offset) :
    (dt.moveTo zone).wall.seconds - zone.seconds = dt.wall.seconds - dt.offset.seconds := by
  have own := dt.seconds_wall
  have moved : (dt.moveTo zone).wall.seconds = dt.utc.seconds + zone.seconds :=
    (dt.moveTo zone).seconds_wall
  omega

end ZonedDateTime

end SqlClient
