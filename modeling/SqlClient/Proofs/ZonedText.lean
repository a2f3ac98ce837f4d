import SqlClient.Proofs.CanonicalText
import SqlClient.Proofs.ZoneReadings

namespace SqlClient

open Calendar Text

variable {rest : List Char} {n : Nat}

theorem takeTwo_append {ds : List Char} (h : Denotes ds n) (hl : ds.length = 2) (rest : List Char) :
    takeTwo (ds ++ rest) = some (n, rest) := by
  match ds, hl with
  | [c, d], _ =>
    obtain ⟨⟨-, digits⟩, rfl⟩ := h
    obtain ⟨first, second⟩ : isDigit c = true ∧ isDigit d = true := by simpa using digits
    obtain ⟨a, ha⟩ := Option.isSome_iff_exists.mp first
    obtain ⟨b, hb⟩ := Option.isSome_iff_exists.mp second
    simp [takeTwo, ofDigits, ha, hb]

theorem takeTwo_twoDigits (h : n < 100) (rest : List Char) :
    takeTwo (twoDigits n ++ rest) = some (n, rest) :=
  takeTwo_append (denotes_twoDigits n) (length_twoDigits h) rest

theorem takeTwo_mark {c : Char} (hc : digit? c = none) (rest : List Char) :
    takeTwo (c :: rest) = none := by
  cases rest with
  | nil => rfl
  | cons d rest => simp [takeTwo, hc]

theorem exists_takeTwo_twice {ds : List Char} (h : Denotes ds n) (hl : ds.length = 4) (rest : List Char) :
    ∃ (high low : Nat) (tail : List Char), takeTwo (ds ++ rest) = some (high, tail) ∧
      takeTwo tail = some (low, rest) ∧ high * 100 + low = n := by
  obtain ⟨⟨-, digits⟩, value⟩ := h
  rw [← List.take_append_drop 2 ds] at digits value
  obtain ⟨front, back⟩ := Bool.and_eq_true_iff.mp (List.all_append.symm.trans digits)
  have frontLength : (ds.take 2).length = 2 := by simp [hl]
  have backLength : (ds.drop 2).length = 2 := by simp [hl]
  have high : Denotes (ds.take 2) (ofDigits (ds.take 2)) :=
    ⟨⟨List.ne_nil_of_length_eq_add_one frontLength, front⟩, rfl⟩
  have low : Denotes (ds.drop 2) (ofDigits (ds.drop 2)) :=
    ⟨⟨List.ne_nil_of_length_eq_add_one backLength, back⟩, rfl⟩
  refine ⟨ofDigits (ds.take 2), ofDigits (ds.drop 2), ds.drop 2 ++ rest, ?_,
    takeTwo_append low backLength rest, ?_⟩
  · rw [← takeTwo_append high frontLength, ← List.append_assoc, List.take_append_drop]
  · rwa [ofDigits_append, backLength] at value

namespace Offset

variable {o : Offset} {between : List Char → Option (List Char)}

def IsWholeMinutes (o : Offset) : Prop :=
  o.seconds % 60 = 0

instance (o : Offset) : Decidable o.IsWholeMinutes :=
  inferInstanceAs (Decidable (_ = _))

def minutesOnly (o : Offset) : Int :=
  let n : Int := (o.seconds.natAbs / 3600 * 3600 + o.seconds.natAbs / 60 % 60 * 60 : Nat)
  if o.seconds < 0 then -n else n

def sign (o : Offset) : Char :=
  if o.seconds < 0 then '-' else '+'

def minutesText (o : Offset) : List Char :=
  twoDigits (o.seconds.natAbs / 3600) ++ ':' :: twoDigits (o.seconds.natAbs / 60 % 60)

def secondsText (o : Offset) : List Char :=
  if o.seconds.natAbs % 60 = 0 then [] else ':' :: twoDigits (o.seconds.natAbs % 60)

theorem text_eq (o : Offset) : o.text = o.sign :: (o.minutesText ++ o.secondsText) := by
  by_cases whole : o.seconds.natAbs % 60 = 0
  · simp [text, sign, minutesText, secondsText, whole]
  · simp [text, sign, minutesText, secondsText, whole]

theorem minutesOnly_eq (h : o.IsWholeMinutes) : o.minutesOnly = o.seconds := by
  unfold IsWholeMinutes at h
  simp only [minutesOnly]
  split
  · omega
  · omega

theorem minutesOnly_small (o : Offset) : -86400 < o.minutesOnly ∧ o.minutesOnly < 86400 := by
  have small := o.small
  simp only [minutesOnly]
  split
  · omega
  · omega

def toMinutes (o : Offset) : Offset :=
  ⟨o.minutesOnly, o.minutesOnly_small⟩

theorem toMinutes_eq (h : o.IsWholeMinutes) : o.toMinutes = o :=
  Offset.ext (minutesOnly_eq h)

theorem secondsText_eq_nil_iff : o.secondsText = [] ↔ o.IsWholeMinutes := by
  unfold secondsText IsWholeMinutes
  split
  next whole => simp only [true_iff]; omega
  next part => simp only [List.cons_ne_nil, false_iff]; omega

theorem ofSeconds?_own (o : Offset) : ofSeconds? o.seconds = some o := by
  simp only [ofSeconds?, dif_pos o.small]

theorem takeOffsetSign_cons (o : Offset) (cs : List Char) :
    takeOffsetSign (o.sign :: cs) = some (decide (o.seconds < 0), cs) := by
  by_cases below : o.seconds < 0
  · simp [takeOffsetSign, sign, below]
  · simp [takeOffsetSign, sign, below]

theorem takeOffset_text (o : Offset)
    (hb : ∀ n rest, between (':' :: (twoDigits n ++ rest)) = some (twoDigits n ++ rest)) :
    takeOffset between o.text = some (o.minutesOnly, o.secondsText) := by
  have hours : o.seconds.natAbs / 3600 < 100 := by
    have := o.small
    omega
  have minutes : o.seconds.natAbs / 60 % 60 < 60 := Nat.mod_lt _ (by decide)
  have text : o.text = o.sign :: (twoDigits (o.seconds.natAbs / 3600) ++
      ':' :: (twoDigits (o.seconds.natAbs / 60 % 60) ++ o.secondsText)) := by
    simp [text_eq, minutesText]
  simp only [takeOffset, text, takeOffsetSign_cons, takeTwo_twoDigits hours, hb,
    takeTwo_twoDigits (Nat.lt_trans minutes (by decide)), if_pos minutes, minutesOnly,
    Option.bind_eq_bind, Option.bind_some, decide_eq_true_eq]

theorem isBlank_sign (o : Offset) : isBlank o.sign = false := by
  unfold sign
  split <;> decide

theorem unblank_text (o : Offset) : Unblank o.text := by
  have minutes : Unblank o.minutesText :=
    unblank_append (unblank_twoDigits _) (unblank_cons (by decide) (unblank_twoDigits _))
  have seconds : Unblank o.secondsText := by
    unfold secondsText
    split
    · exact unblank_nil
    · exact unblank_cons (by decide) (unblank_twoDigits _)
  rw [text_eq]
  exact unblank_cons o.isBlank_sign (unblank_append minutes seconds)

theorem endsFraction_text (o : Offset) : EndsFraction o.text := by
  rw [text_eq]
  intro c hc
  cases hc
  unfold sign
  split <;> decide

theorem text_ne_zulu (o : Offset) : o.text ≠ ['z'] ∧ o.text ≠ ['Z'] := by
  have sign : o.sign ≠ 'z' ∧ o.sign ≠ 'Z' := by
    unfold sign
    split <;> decide
  rw [text_eq]
  exact ⟨fun same => sign.1 (List.cons.inj same).1, fun same => sign.2 (List.cons.inj same).1⟩

def isMark (c : Char) : Bool :=
  c = ':' || isBlank c

theorem skipOffsetMarks_append {marks ds : List Char} (h : marks.all isMark = true)
    (digits : IsNumeral ds) (rest : List Char) : skipOffsetMarks (marks ++ (ds ++ rest)) = ds ++ rest := by
  have marked : skipOffsetMarks (marks ++ (ds ++ rest)) = skipOffsetMarks (ds ++ rest) :=
    List.dropWhile_append_of_pos (List.all_eq_true.mp h)
  obtain ⟨c, cs, rfl⟩ := List.exists_cons_of_ne_nil digits.1
  have digit : isDigit c = true := (Bool.and_eq_true_iff.mp digits.2).1
  have colon : c ≠ ':' := by
    rintro rfl
    exact absurd digit (by decide)
  rw [marked]
  simp [skipOffsetMarks, colon, isBlank_of_isDigit digit]

theorem skipOffsetMarks_colon (n : Nat) (rest : List Char) :
    skipOffsetMarks (':' :: (twoDigits n ++ rest)) = twoDigits n ++ rest := by
  have colon : [':'].all isMark = true := by decide
  exact skipOffsetMarks_append colon (denotes_twoDigits n).isNumeral rest

theorem readFront?_text (o : Offset) : readFront? o.text = some o.toMinutes := by
  have taken : takeOffset (fun cs => some (skipOffsetMarks cs)) o.text =
      some (o.minutesOnly, o.secondsText) :=
    takeOffset_text o fun n rest => congrArg some (skipOffsetMarks_colon n rest)
  simp only [readFront?, o.text_ne_zulu, or_self, if_false, taken, Option.bind_eq_bind,
    Option.bind_some]
  exact o.toMinutes.ofSeconds?_own

theorem readStrict?_text (o : Offset) :
    readStrict? o.text = if o.IsWholeMinutes then some o else none := by
  have taken := takeOffset_text o fun n rest => expect_cons ':' (twoDigits n ++ rest)
  unfold readStrict?
  split
  next zulu => exact absurd zulu o.text_ne_zulu.1
  next zulu => exact absurd zulu o.text_ne_zulu.2
  next =>
    simp only [taken, Option.bind_eq_bind, Option.bind_some]
    split
    next whole =>
      rw [secondsText_eq_nil_iff.mpr whole, minutesOnly_eq whole]
      exact o.ofSeconds?_own
    next part =>
      obtain ⟨c, cs, some⟩ := List.exists_cons_of_ne_nil (mt secondsText_eq_nil_iff.mp part)
      rw [some]
      rfl

end Offset

theorem offsetTimeLiteral_eq {s : String} {t : OffsetTime} (h : OffsetTime.read (trim s.toList) = .ok t) :
    offsetTimeLiteral s = .ok t := by
  simp only [offsetTimeLiteral, h]

theorem OffsetTime.read_text {t : OffsetTime} (ht : t.time.LeapEndsMinute) :
    OffsetTime.read t.text = .ok ⟨t.time, t.offset.toMinutes⟩ := by
  have taken : takeTime false t.text = some (t.time, t.offset.text) :=
    takeTime_append false ht t.offset.endsFraction_text
  simp only [OffsetTime.read, taken, Offset.readFront?_text]

theorem bind_of_eq_some {α β : Type} {x : Option α} {a : α} (h : x = some a) (f : α → Option β) :
    x >>= f = f a := by
  rw [h]
  rfl

namespace ZonedDateTime

variable {dt : ZonedDateTime} {wall : DateTime} {tail : List Char}

def text (dt : ZonedDateTime) : List Char :=
  dt.wall.text 'T' ++ dt.offset.text

def HasStrictText (dt : ZonedDateTime) : Prop :=
  (0 ≤ dt.wall.date.year ∧ dt.wall.date.year ≤ 9999) ∧ dt.offset.IsWholeMinutes

instance (dt : ZonedDateTime) : Decidable dt.HasStrictText :=
  inferInstanceAs (Decidable (_ ∧ _))

theorem text_append (wall : DateTime) (tail : List Char) : wall.text 'T' ++ tail =
    yearText wall.date.year ++ '-' :: (twoDigits wall.date.month ++ '-' :: (twoDigits wall.date.day ++
      'T' :: (twoDigits wall.time.hour ++ ':' :: (twoDigits wall.time.minute ++
        ':' :: (twoDigits wall.time.secondShown ++
          (fractionText (wall.time.nano % nanosPerSecond) ++ tail)))))) := by
  simp [DateTime.text, Date.text_eq, Time.text_eq]

theorem exists_takeTwo_year {year : Int} (hy : 0 ≤ year ∧ year ≤ 9999) (rest : List Char) :
    ∃ (century ofCentury : Nat) (tail : List Char),
      takeTwo (yearText year ++ rest) = some (century, tail) ∧
      takeTwo tail = some (ofCentury, rest) ∧ ((century * 100 + ofCentury : Nat) : Int) = year := by
  have unsigned : yearText year = padLeft 4 (digits year.natAbs) := by
    simp only [yearText, if_neg (show ¬year < 0 by omega), if_neg (show ¬9999 < year by omega)]
  have length : (padLeft 4 (digits year.natAbs)).length = 4 := length_padded (by decide) (by omega)
  obtain ⟨century, ofCentury, tail, first, second, value⟩ :=
    exists_takeTwo_twice (denotes_padded 4 year.natAbs) length rest
  exact ⟨century, ofCentury, tail, unsigned ▸ first, second, by omega⟩

theorem read?_of_year (hy : 0 ≤ wall.date.year ∧ wall.date.year ≤ 9999) (hd : wall.InCalendar)
    (ht : wall.time.LeapEndsMinute) (tail : List Char) (he : EndsFraction tail) :
    read? (wall.text 'T' ++ tail) = (Offset.readStrict? tail).bind fun offset => ofLocal? wall offset := by
  obtain ⟨century, ofCentury, rest, first, second, year⟩ := exists_takeTwo_year hy
    ('-' :: (twoDigits wall.date.month ++ '-' :: (twoDigits wall.date.day ++
      'T' :: (twoDigits wall.time.hour ++ ':' :: (twoDigits wall.time.minute ++
        ':' :: (twoDigits wall.time.secondShown ++
          (fractionText (wall.time.nano % nanosPerSecond) ++ tail)))))))
  have hour : wall.time.hour < 100 := Nat.lt_trans wall.time.hour_lt (by decide)
  have minute : wall.time.minute < 100 := Nat.lt_trans wall.time.minute_lt (by decide)
  have nano : wall.time.nano % nanosPerSecond < 1000000000 := Nat.mod_lt _ (by decide)
  rw [text_append]
  refine (bind_of_eq_some first _).trans ?_
  refine (bind_of_eq_some second _).trans ?_
  refine (bind_of_eq_some (expect_cons '-' _) _).trans ?_
  refine (bind_of_eq_some (takeTwo_twoDigits wall.date.month_lt _) _).trans ?_
  refine (bind_of_eq_some (expect_cons '-' _) _).trans ?_
  refine (bind_of_eq_some (takeTwo_twoDigits wall.date.day_lt _) _).trans ?_
  refine (bind_of_eq_some (year ▸ Date.ofFieldsInCalendar?_own hd) _).trans ?_
  -- the letter between date and time
  refine (bind_of_eq_some rfl _).trans ?_
  refine (bind_of_eq_some (takeTwo_twoDigits hour _) _).trans ?_
  refine (bind_of_eq_some (expect_cons ':' _) _).trans ?_
  refine (bind_of_eq_some (takeTwo_twoDigits minute _) _).trans ?_
  refine (bind_of_eq_some (expect_cons ':' _) _).trans ?_
  refine (bind_of_eq_some (takeTwo_twoDigits wall.time.secondShown_lt _) _).trans ?_
  refine (bind_of_eq_some (takeFraction_fractionText nano he) _).trans ?_
  exact bind_of_eq_some (wall.time.ofClock?_own ht) _

theorem read?_of_signed (hy : ¬(0 ≤ wall.date.year ∧ wall.date.year ≤ 9999)) (tail : List Char) :
    read? (wall.text 'T' ++ tail) = none := by
  rw [text_append, read?, yearText]
  split
  next => rw [List.cons_append, takeTwo_mark (by decide)]; rfl
  next =>
    rw [if_pos (by omega), List.cons_append, takeTwo_mark (by decide)]
    rfl

theorem read?_text (hd : dt.wall.InCalendar) (ht : dt.wall.time.LeapEndsMinute) :
    read? dt.text = if dt.HasStrictText then some dt else none := by
  by_cases hy : 0 ≤ dt.wall.date.year ∧ dt.wall.date.year ≤ 9999
  · rw [text, read?_of_year hy hd ht _ dt.offset.endsFraction_text, Offset.readStrict?_text]
    simp only [HasStrictText, hy, and_self, true_and]
    split
    · exact dt.ofLocal?_wall
    · rfl
  · rw [text, read?_of_signed hy]
    exact (if_neg fun strict => hy strict.1).symm

theorem unblank_text (dt : ZonedDateTime) : Unblank dt.text :=
  unblank_append dt.wall.unblank_text dt.offset.unblank_text

end ZonedDateTime

namespace WireValue

variable {writer : ConversionContext} {dt : ZonedDateTime}

theorem read_timeText {t : OffsetTime} (leap : t.time.LeapEndsMinute) :
    (character (String.ofList t.text)).read reader .offsetTime =
      .ok (.offsetTime ⟨t.time, t.offset.toMinutes⟩) := by
  have unblank : Unblank t.text := unblank_append t.time.unblank_text t.offset.unblank_text
  have taken : OffsetTime.read (trim (String.ofList t.text).toList) = .ok ⟨t.time, t.offset.toMinutes⟩ := by
    rw [String.toList_ofList, trim_of_unblank unblank, OffsetTime.read_text leap]
  have reads (s : String) :
      (character s).read reader .offsetTime = (offsetTimeLiteral s).map .offsetTime := rfl
  rw [reads, offsetTimeLiteral_eq taken]
  rfl

theorem write_zonedText (own : dt.wall.InCalendar) :
    (timePointWithTimeZone dt).read writer .string = .ok (.string (String.ofList dt.text)) := by
  have written : zonedText dt = .ok dt.text := by
    rw [zonedText, ownWall_of_inCalendar own]
    rfl
  have writes : (timePointWithTimeZone dt).read writer .string =
      zonedText dt >>= fun cs => .ok (.string (String.ofList cs)) := rfl
  rw [writes, written]
  rfl

theorem read_zonedText (own : dt.wall.InCalendar) (leap : dt.wall.time.LeapEndsMinute) :
    (character (String.ofList dt.text)).read reader .offsetDateTime =
      if dt.HasStrictText then .ok (.offsetDateTime dt)
      else .error (.malformedLiteral .offsetDateTime (String.ofList dt.text) .unreadable) := by
  have reads (s : String) : (character s).read reader .offsetDateTime =
      (temporalLiteral .offsetDateTime s ZonedDateTime.read?).map .offsetDateTime := rfl
  rw [reads, temporalLiteral, String.toList_ofList, trim_of_unblank dt.unblank_text,
    ZonedDateTime.read?_text own leap]
  by_cases strict : dt.HasStrictText
  · rw [if_pos strict, if_pos strict]
    rfl
  · rw [if_neg strict, if_neg strict]
    rfl

/-- Zoned values are always written. A time of day with an offset of whole minutes is read back from its
text; a zoned date-time is if its text is in the strict notation, and is no literal otherwise. -/
theorem zoned_text (writer reader : ConversionContext) :
    (∀ t : OffsetTime, t.time.LeapEndsMinute →
      ∃ s, (timeOfDayWithTimeZone t).read writer .string = .ok (.string s) ∧
        (t.offset.IsWholeMinutes → (character s).read reader .offsetTime = .ok (.offsetTime t))) ∧
    ∀ dt : ZonedDateTime, dt.wall.InCalendar → dt.wall.time.LeapEndsMinute →
      ∃ s, (timePointWithTimeZone dt).read writer .string = .ok (.string s) ∧
        (character s).read reader .offsetDateTime =
          if dt.HasStrictText then .ok (.offsetDateTime dt)
          else .error (.malformedLiteral .offsetDateTime s .unreadable) := by
  constructor
  · intro t leap
    refine ⟨String.ofList t.text, rfl, fun whole => ?_⟩
    rw [read_timeText leap, Offset.toMinutes_eq whole]
  · intro dt own leap
    exact ⟨String.ofList dt.text, write_zonedText own, read_zonedText own leap⟩

theorem timeText_minutes (writer reader : ConversionContext) {t : OffsetTime}
    (leap : t.time.LeapEndsMinute) :
    ∃ s, (timeOfDayWithTimeZone t).read writer .string = .ok (.string s) ∧
      (character s).read reader .offsetTime = .ok (.offsetTime ⟨t.time, t.offset.toMinutes⟩) :=
  ⟨String.ofList t.text, rfl, read_timeText leap⟩

example : (character "01:00:00-00:25:21").read default .offsetTime =
    .ok (.offsetTime ⟨CentralEurope.oneOClock, ⟨-1500, by decide⟩⟩) := rfl

def leapBehind : ZonedDateTime :=
  ⟨leapSecond.utc, ⟨-12600, by decide⟩, leapSecond.inCalendar⟩

theorem zoned_text_leapBehind :
    leapBehind.wall.InCalendar ∧ leapBehind.wall.time.LeapEndsMinute ∧
      leapBehind.offset.IsWholeMinutes ∧ leapBehind.HasStrictText ∧
      (∃ s, (timeOfDayWithTimeZone leapBehind.timeOfDay).read default .string = .ok (.string s) ∧
        (character s).read default .offsetTime = .ok (.offsetTime leapBehind.timeOfDay)) ∧
      ∃ s, (timePointWithTimeZone leapBehind).read default .string = .ok (.string s) ∧
        (character s).read default .offsetDateTime = .ok (.offsetDateTime leapBehind) := by
  have own : leapBehind.wall.InCalendar := by decide
  have leap : leapBehind.wall.time.LeapEndsMinute := by decide
  have whole : leapBehind.offset.IsWholeMinutes := by decide
  have strict : leapBehind.HasStrictText := by decide
  obtain ⟨times, dateTimes⟩ := zoned_text default default
  obtain ⟨s, writes, reads⟩ := times leapBehind.timeOfDay leap
  obtain ⟨s', writes', reads'⟩ := dateTimes leapBehind own leap
  rw [if_pos strict] at reads'
  exact ⟨own, leap, whole, strict, ⟨s, writes, reads whole⟩, s', writes', reads'⟩

def tenThousand : ZonedDateTime :=
  ⟨.atMidnight ⟨10000, 1, 1, Date.january _⟩, .utc, by decide⟩

theorem zoned_text_tenThousand :
    ¬((∀ (ctx : ConversionContext) (t : OffsetTime), t.time.LeapEndsMinute →
        ∃ s, (timeOfDayWithTimeZone t).read ctx .string = .ok (.string s) ∧
          (character s).read ctx .offsetTime = .ok (.offsetTime t)) ∧
      ∀ (ctx : ConversionContext) (dt : ZonedDateTime), dt.wall.InCalendar →
        dt.wall.time.LeapEndsMinute →
          ∃ s dt', (timePointWithTimeZone dt).read ctx .string = .ok (.string s) ∧
            (character s).read ctx .offsetDateTime = .ok (.offsetDateTime dt') ∧
              dt'.wall = dt.wall ∧ dt'.offset = dt.offset) := by
  rintro ⟨-, returns⟩
  have written : (timePointWithTimeZone tenThousand).read default .string =
      .ok (.string "+10000-01-01T00:00:00+00:00") := rfl
  have refused : (character "+10000-01-01T00:00:00+00:00").read default .offsetDateTime =
      .error (.malformedLiteral .offsetDateTime "+10000-01-01T00:00:00+00:00" .unreadable) := rfl
  obtain ⟨s, dt', writes, reads, -⟩ := returns default tenThousand (by decide) (by decide)
  cases written.symm.trans writes
  cases refused.symm.trans reads

end WireValue

end SqlClient
