import SqlClient.Calendar.DateTime

namespace SqlClient

open Calendar

namespace Date

theorem daysInMonth_december (year : Int) : daysInMonth year 12 = 31 := by
  simp [daysInMonth]

theorem previous_next (d : Date) : d.next.previous = d := by
  obtain ⟨year, month, day, first, last, positive, within⟩ := d
  by_cases inside : day < daysInMonth year month
  · have positive : 0 < day := positive
    simp [next, inside, previous, positive]
  · have lastDay : daysInMonth year month = day := by omega
    by_cases early : month < 12
    · have first : 0 < month := first
      simp [next, early, previous, lastDay, first]
    · have december : month = 12 := by omega
      subst december
      rw [daysInMonth_december] at lastDay
      subst lastDay
      simp [next, daysInMonth_december, previous]

theorem next_previous (d : Date) : d.previous.next = d := by
  obtain ⟨year, month, day, first, last, positive, within⟩ := d
  by_cases late : 1 < day
  · have inside : day - 1 < daysInMonth year month := by omega
    have day_eq : day - 1 + 1 = day := by omega
    simp [previous, late, next, inside, day_eq]
  · have firstDay : day = 1 := by omega
    subst firstDay
    by_cases late : 1 < month
    · have early : month - 1 < 12 := by omega
      have month_eq : month - 1 + 1 = month := by omega
      simp [previous, late, next, early, month_eq]
    · have january : month = 1 := by omega
      subst january
      simp [previous, next, daysInMonth_december]

end Date

namespace DateTime

theorem dateAt_dateAt (date : Date) {second : Nat} (hs : second < 86400) {seconds : Int}
    (h : -86400 < seconds ∧ seconds < 86400) :
    dateAt (dateAt date (second + seconds)) (Time.wrap (second + seconds) + -seconds) = date := by
  have back : (Time.wrap (second + seconds) : Int) = (second + seconds) % 86400 := by
    unfold Time.wrap
    omega
  rw [back]
  -- The way back crosses midnight exactly where the way there did.
  by_cases before : second + seconds < 0
  · have after : ¬(second + seconds) % 86400 + -seconds < 0 ∧
        86400 ≤ (second + seconds) % 86400 + -seconds := by omega
    simp only [dateAt, before, after, if_true, if_false, Date.next_previous]
  · by_cases after : 86400 ≤ second + seconds
    · have before' : (second + seconds) % 86400 + -seconds < 0 := by omega
      simp only [dateAt, before, after, before', if_true, if_false, Date.previous_next]
    · have same : ¬(second + seconds) % 86400 + -seconds < 0 ∧
          ¬86400 ≤ (second + seconds) % 86400 + -seconds := by omega
      simp only [dateAt, before, after, same, if_false]

theorem shift_shift_neg (dt : DateTime) {seconds : Int} (h : -86400 < seconds ∧ seconds < 86400) :
    (dt.shift seconds).shift (-seconds) = dt := by
  obtain ⟨date, second, nano, second_lt, nano_lt⟩ := dt
  have clock : Time.wrap (Time.wrap (second + seconds) + -seconds) = second := by
    unfold Time.wrap
    omega
  simp only [shift, dateAt_dateAt date second_lt h, clock]

end DateTime

namespace ZonedDateTime

theorem ofLocal?_wall (dt : ZonedDateTime) : ofLocal? dt.wall dt.offset = some dt := by
  have utc : dt.wall.shift (-dt.offset.seconds) = dt.utc := dt.utc.shift_shift_neg dt.offset.small
  simp only [ofLocal?, utc, dif_pos dt.inCalendar]

theorem wall_of_ofLocal? {dt : ZonedDateTime} {wall : DateTime} {offset : Offset}
    (h : ofLocal? wall offset = some dt) : dt.wall = wall ∧ dt.offset = offset := by
  have small : -86400 < -offset.seconds ∧ -offset.seconds < 86400 := by
    have := offset.small
    omega
  have back := wall.shift_shift_neg small
  rw [Int.neg_neg] at back
  simp only [ofLocal?] at h
  split at h
  · cases h
    exact ⟨back, rfl⟩
  · cases h

end ZonedDateTime

end SqlClient
