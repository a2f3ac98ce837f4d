import SqlClient.Calendar.Text
import SqlClient.Proofs.Numerals
import SqlClient.Proofs.RoundTrips

namespace SqlClient

open Calendar Text

attribute [local instance (high)] instPowNat

variable {c : Char} {cs ds rest : List Char} {n limit : Nat} {spaced : Bool}

namespace Calendar

theorem daysInMonth_le (year : Int) (month : Nat) : daysInMonth year month ≤ 31 := by
  unfold daysInMonth
  split
  · split <;> decide
  · split <;> decide

theorem takeField_append (h : Denotes ds n) (hl : ds.length = limit) (rest : List Char) :
    takeField limit (ds ++ rest) = some (n, rest) := by
  subst hl
  rw [takeField, skipBlanks_of_unblank (unblank_of_isNumeral h.isNumeral) h.isNumeral.1,
    takeNumber_full h]

theorem takeField_twoDigits (h : n < 100) (rest : List Char) :
    takeField 2 (twoDigits n ++ rest) = some (n, rest) :=
  takeField_append (denotes_twoDigits n) (length_twoDigits h) rest

theorem expect_cons (c : Char) (cs : List Char) : expect c (c :: cs) = some cs := by
  simp [expect]

theorem skipBlanks_cons (hc : isBlank c = false) (cs : List Char) : skipBlanks (c :: cs) = c :: cs :=
  skipBlanks_of_head fun d hd => by cases hd; exact hc

theorem skipIf_cons (hc : isBlank c = false) (cs : List Char) : skipIf spaced (c :: cs) = c :: cs := by
  unfold skipIf
  split
  · exact skipBlanks_cons hc cs
  · rfl

def EndsFraction (rest : List Char) : Prop :=
  ∀ c ∈ rest.head?, isDigit c = false ∧ c ≠ '.'

theorem takeFraction_append (h : Denotes ds n) (hl : ds.length ≤ 9) (hr : EndsNumeral rest) :
    takeFraction ('.' :: (ds ++ rest)) = some (n * 10 ^ (9 - ds.length), rest) := by
  have run := takeWhile_digits h.isNumeral.2 hr
  have kept : ds.take 9 = ds := List.take_of_length_le hl
  simp only [takeFraction, run, List.isEmpty_iff, if_neg h.isNumeral.1, kept, h.value, List.drop_left]

theorem takeFraction_none (hr : EndsFraction rest) : takeFraction rest = some (0, rest) := by
  unfold takeFraction
  split
  next => exact absurd rfl (hr '.' rfl).2
  next => rfl

theorem takeFraction_padded {width value : Nat} (hw : 0 < width ∧ width ≤ 9)
    (hv : value < 10 ^ width) (hr : EndsFraction rest) :
    takeFraction ('.' :: (padLeft width (digits value) ++ rest)) =
      some (value * 10 ^ (9 - width), rest) := by
  have length := length_padded hw.1 hv
  have ends : EndsNumeral rest := fun c hc => (hr c hc).1
  rw [takeFraction_append (denotes_padded width value) (by omega) ends, length]

theorem takeFraction_fractionText {nano : Nat} (h : nano < 1000000000) (hr : EndsFraction rest) :
    takeFraction (fractionText nano ++ rest) = some (nano, rest) := by
  unfold fractionText
  split
  next none =>
    rw [none, List.nil_append, takeFraction_none hr]
  next =>
    split
    next =>
      rw [List.cons_append, takeFraction_padded (by decide) (by omega) hr]
      congr 2
      omega
    next =>
      split
      next =>
        rw [List.cons_append, takeFraction_padded (by decide) (by omega) hr]
        congr 2
        omega
      next =>
        rw [List.cons_append, takeFraction_padded (by decide) (by omega) hr]
        congr 2
        omega

def yearText (year : Int) : List Char :=
  let ds := padLeft 4 (digits year.natAbs)
  if year < 0 then '-' :: ds else if 9999 < year then '+' :: ds else ds

theorem takeYear_unsigned (h : Denotes ds n) (hl : ds.length = 4) (rest : List Char) :
    takeYear (ds ++ rest) = some ((n : Int), rest) := by
  have front := skipBlanks_of_unblank (unblank_of_isNumeral h.isNumeral) h.isNumeral.1 rest
  have taken := takeNumber_full h rest
  obtain ⟨c, cs, rfl⟩ := List.exists_cons_of_ne_nil h.isNumeral.1
  have digit : isDigit c = true := (Bool.and_eq_true_iff.mp h.isNumeral.2).1
  rw [takeYear, front]
  split
  next same => cases same; exact absurd digit (by decide)
  next same => cases same; exact absurd digit (by decide)
  next => rw [← hl, taken]; rfl

theorem takeYear_append (year : Int) (hr : EndsNumeral rest) :
    takeYear (yearText year ++ rest) = some (year, rest) := by
  have denotes := denotes_padded 4 year.natAbs
  unfold yearText
  split
  next below =>
    rw [List.cons_append, takeYear, skipBlanks_cons (by decide)]
    simp only [takeNumber_append denotes hr, Option.bind_eq_bind, Option.bind_some]
    congr 2
    omega
  next =>
    split
    next above =>
      rw [List.cons_append, takeYear, skipBlanks_cons (by decide)]
      simp only [takeNumber_append denotes hr, Option.bind_eq_bind, Option.bind_some]
      congr 2
      omega
    next =>
      rw [takeYear_unsigned denotes (length_padded (by decide) (by omega))]
      congr 2
      omega

theorem unblank_yearText (year : Int) : Unblank (yearText year) := by
  have digits : Unblank (padLeft 4 (digits year.natAbs)) :=
    unblank_of_isNumeral (denotes_padded 4 year.natAbs).isNumeral
  unfold yearText
  split
  · exact unblank_cons (by decide) digits
  · split
    · exact unblank_cons (by decide) digits
    · exact digits

theorem unblank_twoDigits (n : Nat) : Unblank (twoDigits n) :=
  unblank_of_isNumeral (denotes_twoDigits n).isNumeral

end Calendar

namespace Date

variable {d : Date}

theorem month_lt (d : Date) : d.month < 100 := by
  have := d.isDate.2.1
  omega

theorem day_lt (d : Date) : d.day < 100 := by
  have := d.isDate.2.2.2
  have := daysInMonth_le d.year d.month
  omega

theorem ofFieldsInCalendar?_own (hd : d.InCalendar) :
    ofFieldsInCalendar? d.year d.month d.day = some d := by
  simp [ofFieldsInCalendar?, ofFields?, d.isDate, hd]

theorem text_eq (d : Date) : d.text =
    yearText d.year ++ '-' :: (twoDigits d.month ++ '-' :: twoDigits d.day) := by
  simp [text, yearText]

theorem takeDate_append (spaced : Bool) (hd : d.InCalendar) (rest : List Char) :
    takeDate spaced (d.text ++ rest) = some (d, rest) := by
  have ends : EndsNumeral ('-' :: (twoDigits d.month ++ '-' :: (twoDigits d.day ++ rest))) := by
    intro c hc
    cases hc
    rfl
  have text : d.text ++ rest =
      yearText d.year ++ '-' :: (twoDigits d.month ++ '-' :: (twoDigits d.day ++ rest)) := by
    simp [text_eq]
  have mark : isBlank '-' = false := by decide
  simp only [takeDate, text, takeYear_append d.year ends, skipIf_cons mark, expect_cons,
    takeField_twoDigits d.month_lt, takeField_twoDigits d.day_lt, ofFieldsInCalendar?_own hd,
    Option.bind_eq_bind, Option.bind_some]

theorem unblank_text (d : Date) : Unblank d.text := by
  rw [text_eq]
  refine unblank_append (unblank_yearText d.year) (unblank_cons (by decide) ?_)
  exact unblank_append (unblank_twoDigits d.month) (unblank_cons (by decide) (unblank_twoDigits d.day))

theorem read?_text (hd : d.InCalendar) : read? d.text = some d := by
  have taken := takeDate_append false hd []
  rw [List.append_nil] at taken
  rw [read?, taken]
  rfl

end Date

namespace Time

def LeapEndsMinute (t : Time) : Prop :=
  t.isLeap = true → t.secondOfMinute = 59

instance (t : Time) : Decidable t.LeapEndsMinute :=
  inferInstanceAs (Decidable (_ → _))

def secondShown (t : Time) : Nat :=
  if t.isLeap then t.secondOfMinute + 1 else t.secondOfMinute

theorem hour_lt (t : Time) : t.hour < 24 := by
  have := t.second_lt
  unfold hour
  omega

theorem minute_lt (t : Time) : t.minute < 60 :=
  Nat.mod_lt _ (by decide)

theorem secondOfMinute_lt (t : Time) : t.secondOfMinute < 60 :=
  Nat.mod_lt _ (by decide)

theorem secondShown_lt (t : Time) : t.secondShown < 100 := by
  have := t.secondOfMinute_lt
  unfold secondShown
  split <;> omega

theorem second_eq (t : Time) : t.hour * 3600 + t.minute * 60 + t.secondOfMinute = t.second := by
  unfold hour minute secondOfMinute
  omega

theorem ofFields?_own (t : Time) (h : t.LeapEndsMinute) :
    ofFields? t.hour t.minute t.secondOfMinute t.nano = some t := by
  have fields : t.hour < 24 ∧ t.minute < 60 ∧ t.secondOfMinute < 60 ∧ t.nano < 2000000000 ∧
      (t.nano < nanosPerSecond ∨ t.secondOfMinute = 59) := by
    refine ⟨t.hour_lt, t.minute_lt, t.secondOfMinute_lt, t.nano_lt, ?_⟩
    by_cases leap : t.isLeap = true
    · exact .inr (h leap)
    · exact .inl (by simpa [isLeap] using leap)
  simp only [ofFields?, dif_pos fields, second_eq]

theorem ofClock?_own (t : Time) (h : t.LeapEndsMinute) :
    ofClock? t.hour t.minute t.secondShown (t.nano % nanosPerSecond) = some t := by
  have own := t.ofFields?_own h
  cases leap : t.isLeap with
  | true =>
    have nano : nanosPerSecond + t.nano % nanosPerSecond = t.nano := by
      have above : nanosPerSecond ≤ t.nano := by simpa [isLeap] using leap
      have below := t.nano_lt
      simp only [nanosPerSecond] at above ⊢
      omega
    rw [h leap] at own
    simp only [ofClock?, secondShown, leap, if_true, h leap, nano, own]
  | false =>
    have nano : t.nano % nanosPerSecond = t.nano := nano_mod_of_not_leap leap
    have below : t.secondOfMinute ≠ 60 := Nat.ne_of_lt t.secondOfMinute_lt
    simp only [ofClock?, secondShown, leap, Bool.false_eq_true, if_false, nano, if_neg below, own]

theorem text_eq (t : Time) : t.text = twoDigits t.hour ++ ':' :: (twoDigits t.minute ++
    ':' :: (twoDigits t.secondShown ++ fractionText (t.nano % nanosPerSecond))) := by
  simp [text, secondShown]

theorem unblank_fractionText (nano : Nat) : Unblank (fractionText nano) := by
  have part (width n : Nat) : Unblank ('.' :: padLeft width (digits n)) :=
    unblank_cons (by decide) (unblank_of_isNumeral (denotes_padded width n).isNumeral)
  unfold fractionText
  split
  · exact unblank_nil
  · split
    · exact part _ _
    · split
      · exact part _ _
      · exact part _ _

theorem unblank_text (t : Time) : Unblank t.text := by
  rw [text_eq]
  refine unblank_append (unblank_twoDigits _) (unblank_cons (by decide) ?_)
  refine unblank_append (unblank_twoDigits _) (unblank_cons (by decide) ?_)
  exact unblank_append (unblank_twoDigits _) (unblank_fractionText _)

end Time

theorem takeTime_append (spaced : Bool) {t : Time} (ht : t.LeapEndsMinute) (hr : EndsFraction rest) :
    takeTime spaced (t.text ++ rest) = some (t, rest) := by
  have hour : t.hour < 100 := Nat.lt_trans t.hour_lt (by decide)
  have minute : t.minute < 100 := Nat.lt_trans t.minute_lt (by decide)
  have nano : t.nano % nanosPerSecond < 1000000000 := Nat.mod_lt _ (by decide)
  have text : t.text ++ rest = twoDigits t.hour ++ ':' :: (twoDigits t.minute ++
      ':' :: (twoDigits t.secondShown ++ (fractionText (t.nano % nanosPerSecond) ++ rest))) := by
    simp [Time.text_eq]
  have mark : isBlank ':' = false := by decide
  simp only [takeTime, text, takeField_twoDigits hour, takeField_twoDigits minute,
    takeField_twoDigits t.secondShown_lt, skipIf_cons mark, expect_cons,
    takeFraction_fractionText nano hr, t.ofClock?_own ht, Option.bind_eq_bind, Option.bind_some]

theorem takeTime_text (spaced : Bool) {t : Time} (ht : t.LeapEndsMinute) :
    takeTime spaced t.text = some (t, []) := by
  have taken : takeTime spaced (t.text ++ []) = some (t, []) := takeTime_append spaced ht nofun
  rwa [List.append_nil] at taken

theorem Time.read?_text {t : Time} (ht : t.LeapEndsMinute) : read? t.text = some t := by
  rw [read?, takeTime_text true ht]
  rfl

namespace DateTime

theorem unblank_text (dt : DateTime) : Unblank (dt.text 'T') :=
  unblank_append dt.date.unblank_text (unblank_cons (by decide) dt.time.unblank_text)

theorem read?_text {dt : DateTime} (hd : dt.InCalendar) (ht : dt.time.LeapEndsMinute) :
    read? (dt.text 'T') = some dt := by
  have joined : readJoined? (dt.text 'T') = some dt := by
    rw [readJoined?, text, Date.takeDate_append true hd]
    simp only [skipBlanks_cons (show isBlank 'T' = false by decide), expect_cons, takeTime_text true ht,
      Option.bind_eq_bind, Option.bind_some]
    rfl
  rw [read?, joined]
  rfl

example : (DateTime.atMidnight ⟨-43, 12, 31, Date.december _⟩).text 'T' =
    "-0043-12-31T00:00:00".toList := by decide

end DateTime

end SqlClient
