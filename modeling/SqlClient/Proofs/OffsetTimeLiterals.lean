import Mathlib.Data.List.Basic
import SqlClient.Proofs.ZonedText

namespace SqlClient

open Calendar Text

attribute [local instance (high)] instPowNat

variable {c : Char} {cs ds rest : List Char} {n limit : Nat}

namespace Text

theorem takeWhile_append_skipBlanks (cs : List Char) : cs.takeWhile isBlank ++ skipBlanks cs = cs :=
  List.takeWhile_append_dropWhile

theorem takeNumber_limited (h : Denotes ds n) (hl : ds.length ≤ limit) (hr : EndsNumeral rest) :
    takeNumber (some limit) (ds ++ rest) = some (n, rest) := by
  have run := takeWhile_digits h.isNumeral.2 hr
  simp only [takeNumber, run, List.take_of_length_le hl, List.isEmpty_iff, if_neg h.isNumeral.1, h.value,
    List.drop_left]

theorem denotes_of_takeNumber (h : takeNumber (some limit) cs = some (n, rest)) :
    ∃ ds, cs = ds ++ rest ∧ Denotes ds n ∧ ds.length ≤ limit := by
  simp only [takeNumber] at h
  split at h
  next => cases h
  next some =>
    obtain ⟨value, left⟩ := Prod.mk.inj (Option.some.inj h)
    have front : (cs.takeWhile isDigit).take limit <+: cs :=
      (List.take_prefix ..).trans (List.takeWhile_prefix _)
    refine ⟨_, ?_, ⟨⟨?_, ?_⟩, value⟩, List.length_take_le ..⟩
    · rw [← left]
      exact (List.prefix_iff_eq_append.mp front).symm
    · simpa [List.isEmpty_iff] using some
    · refine List.all_eq_true.mpr fun c hc => ?_
      exact List.all_eq_true.mp List.all_takeWhile c (List.mem_of_mem_take hc)

end Text

namespace Calendar

theorem expect_eq_some_iff : expect c cs = some rest ↔ cs = c :: rest := by
  cases cs with
  | nil => simp [expect]
  | cons d cs => simp [expect]

def FieldText (limit : Nat) (cs : List Char) (n : Nat) : Prop :=
  ∃ blanks ds, cs = blanks ++ ds ∧ blanks.all isBlank = true ∧ Denotes ds n ∧ ds.length ≤ limit

inductive FractionText : List Char → Nat → Prop where
  | none : FractionText [] 0
  | point {ds : List Char} : IsNumeral ds →
    FractionText ('.' :: ds) (ofDigits (ds.take 9) * 10 ^ (9 - (ds.take 9).length))

inductive ClockText : List Char → Time → Prop where
  | fields {hours minutes seconds fraction : List Char} {hour minute second nano : Nat} {t : Time} :
    FieldText 2 hours hour → FieldText 2 minutes minute → FieldText 2 seconds second →
    FractionText fraction nano → ofClock? hour minute second nano = some t →
    ClockText (hours ++ ':' :: (minutes ++ ':' :: (seconds ++ fraction))) t

theorem takeField_of_text (h : FieldText limit cs n) (hr : EndsNumeral rest) :
    takeField limit (cs ++ rest) = some (n, rest) := by
  obtain ⟨blanks, ds, rfl, blank, denotes, short⟩ := h
  have digits := skipBlanks_of_unblank (unblank_of_isNumeral denotes.isNumeral) denotes.isNumeral.1 rest
  rw [takeField, List.append_assoc, skipBlanks_append blank, digits, takeNumber_limited denotes short hr]

theorem text_of_takeField (h : takeField limit cs = some (n, rest)) :
    ∃ front, cs = front ++ rest ∧ FieldText limit front n := by
  obtain ⟨ds, digits, denotes, short⟩ := denotes_of_takeNumber h
  refine ⟨cs.takeWhile isBlank ++ ds, ?_, cs.takeWhile isBlank, ds, rfl, List.all_takeWhile, denotes, short⟩
  rw [List.append_assoc, ← digits, takeWhile_append_skipBlanks]

theorem takeFraction_of_text (h : FractionText cs n) (hr : EndsFraction rest) :
    takeFraction (cs ++ rest) = some (n, rest) := by
  cases h with
  | none => exact takeFraction_none hr
  | point numeral =>
    have ends : EndsNumeral rest := fun c hc => (hr c hc).1
    have run := takeWhile_digits numeral.2 ends
    simp only [List.cons_append, takeFraction, run, List.isEmpty_iff, if_neg numeral.1, List.drop_left]

theorem text_of_takeFraction (h : takeFraction cs = some (n, rest)) :
    ∃ front, cs = front ++ rest ∧ FractionText front n := by
  unfold takeFraction at h
  split at h
  next cs =>
    dsimp only at h
    split at h
    next => cases h
    next some =>
      obtain ⟨rfl, rfl⟩ := Prod.mk.inj (Option.some.inj h)
      have numeral : IsNumeral (cs.takeWhile isDigit) :=
        ⟨by simpa [List.isEmpty_iff] using some, List.all_takeWhile⟩
      have whole : cs.takeWhile isDigit ++ cs.drop (cs.takeWhile isDigit).length = cs :=
        List.prefix_iff_eq_append.mp (List.takeWhile_prefix _)
      refine ⟨_, ?_, .point numeral⟩
      rw [List.cons_append, whole]
  next =>
    obtain ⟨rfl, rfl⟩ := Prod.mk.inj (Option.some.inj h)
    exact ⟨[], rfl, .none⟩

theorem endsNumeral_fraction {fraction : List Char} {nano : Nat} (h : FractionText fraction nano)
    (hr : EndsFraction rest) : EndsNumeral (fraction ++ rest) := by
  cases h with
  | none => exact fun c hc => (hr c hc).1
  | point =>
    intro c hc
    cases hc
    rfl

theorem endsNumeral_colon (cs : List Char) : EndsNumeral (':' :: cs) := by
  intro c hc
  cases hc
  rfl

theorem takeTime_of_text {t : Time} (h : ClockText cs t) (hr : EndsFraction rest) :
    takeTime false (cs ++ rest) = some (t, rest) := by
  obtain ⟨hour, minute, second, fraction, clock⟩ := h
  have skip (cs : List Char) : skipIf false cs = cs := rfl
  simp only [takeTime, List.append_assoc, List.cons_append, skip, expect_cons,
    takeField_of_text hour (endsNumeral_colon _), takeField_of_text minute (endsNumeral_colon _),
    takeField_of_text second (endsNumeral_fraction fraction hr), takeFraction_of_text fraction hr, clock,
    Option.bind_eq_bind, Option.bind_some]

theorem text_of_takeTime {t : Time} (h : takeTime false cs = some (t, rest)) :
    ∃ front, cs = front ++ rest ∧ ClockText front t := by
  simp only [takeTime, Option.bind_eq_bind, Option.bind_eq_some_iff, Prod.exists, expect_eq_some_iff,
    skipIf, Bool.false_eq_true, if_false] at h
  obtain ⟨hour, _, takesHour, _, rfl, minute, _, takesMinute, _, rfl, second, _, takesSecond, nano, left,
    takesNano, time, clock, same⟩ := h
  obtain ⟨rfl, rfl⟩ := Prod.mk.inj (Option.some.inj same)
  obtain ⟨hours, rfl, hourText⟩ := text_of_takeField takesHour
  obtain ⟨minutes, split, minuteText⟩ := text_of_takeField takesMinute
  obtain ⟨seconds, split', secondText⟩ := text_of_takeField takesSecond
  obtain ⟨fraction, rfl, nanoText⟩ := text_of_takeFraction takesNano
  refine ⟨_, ?_, .fields hourText minuteText secondText nanoText clock⟩
  simp only [split, split', List.append_assoc, List.cons_append]

theorem twoDigits_of_takeTwo (h : takeTwo cs = some (n, rest)) :
    ∃ ds, cs = ds ++ rest ∧ Denotes ds n ∧ ds.length = 2 := by
  unfold takeTwo at h
  split at h
  next c d cs =>
    simp only [Option.bind_eq_bind, Option.bind_eq_some_iff] at h
    obtain ⟨a, ha, b, hb, same⟩ := h
    obtain ⟨rfl, rfl⟩ := Prod.mk.inj (Option.some.inj same)
    refine ⟨[c, d], rfl, ⟨⟨List.cons_ne_nil _ _, ?_⟩, ?_⟩, rfl⟩
    · simp [isDigit, ha, hb]
    · simp [ofDigits, ha, hb]
  next => cases h

def isOffsetSign (c : Char) : Bool :=
  c = '+' || c = '-' || c = '\u2212'

theorem cases_of_isOffsetSign (h : isOffsetSign c = true) : c = '+' ∨ c = '-' ∨ c = '\u2212' := by
  simpa [isOffsetSign, or_assoc] using h

theorem takeOffsetSign_cons_eq (c : Char) (cs : List Char) : takeOffsetSign (c :: cs) =
    if isOffsetSign c then some (decide (c ≠ '+'), cs) else none := by
  by_cases plus : c = '+'
  · simp [takeOffsetSign, isOffsetSign, plus]
  · simp [takeOffsetSign, isOffsetSign, plus]

theorem sign_of_takeOffsetSign {negative : Bool} (h : takeOffsetSign cs = some (negative, rest)) :
    ∃ c, cs = c :: rest ∧ isOffsetSign c = true ∧ negative = decide (c ≠ '+') := by
  cases cs with
  | nil => cases h
  | cons c cs =>
    rw [takeOffsetSign_cons_eq] at h
    split at h
    next sign =>
      obtain ⟨rfl, rfl⟩ := Prod.mk.inj (Option.some.inj h)
      exact ⟨c, rfl, sign, rfl⟩
    next => cases h

theorem any_sign_of_all {p : Char → Bool} (h : cs.all p = true)
    (hp : ∀ c, isOffsetSign c = true → p c = false) : cs.any isOffsetSign = false := by
  refine List.any_eq_false.mpr fun c hc sign => ?_
  cases (List.all_eq_true.mp h c hc).symm.trans (hp c sign)

theorem any_sign_blanks (h : cs.all isBlank = true) : cs.any isOffsetSign = false := by
  refine any_sign_of_all h fun c sign => ?_
  rcases cases_of_isOffsetSign sign with rfl | rfl | rfl <;> decide

theorem any_sign_digits (h : cs.all isDigit = true) : cs.any isOffsetSign = false := by
  refine any_sign_of_all h fun c sign => ?_
  rcases cases_of_isOffsetSign sign with rfl | rfl | rfl <;> decide

theorem any_sign_field (h : FieldText limit cs n) : cs.any isOffsetSign = false := by
  obtain ⟨blanks, ds, rfl, blank, denotes, -⟩ := h
  rw [List.any_append, any_sign_blanks blank, any_sign_digits denotes.isNumeral.2]
  rfl

theorem any_sign_fraction (h : FractionText cs n) : cs.any isOffsetSign = false := by
  cases h with
  | none => rfl
  | point numeral =>
    rw [List.any_cons, any_sign_digits numeral.2]
    decide

theorem any_sign_clock {t : Time} (h : ClockText cs t) : cs.any isOffsetSign = false := by
  obtain ⟨hour, minute, second, fraction, -⟩ := h
  have colon : isOffsetSign ':' = false := by decide
  simp only [List.any_append, List.any_cons, any_sign_field hour, any_sign_field minute,
    any_sign_field second, any_sign_fraction fraction, colon, Bool.or_self]

end Calendar

inductive SignedOffset : List Char → Offset → Prop where
  | parts {c : Char} {hours marks minutes : List Char} {hour minute : Nat} {o : Offset} :
    isOffsetSign c = true → Denotes hours hour → hours.length = 2 → marks.all Offset.isMark = true →
    Denotes minutes minute → minutes.length = 2 → minute < 60 →
    o.seconds = (if c = '+' then 1 else -1) * (hour * 3600 + minute * 60) →
    SignedOffset (c :: (hours ++ (marks ++ minutes))) o

/-- A time and the letter `z`, or a time and an offset with a sign. What follows such an offset is not
looked at. -/
inductive OffsetTimeLiteral : List Char → OffsetTime → Prop where
  | zulu {clock : List Char} {time : Time} {c : Char} : ClockText clock time → c = 'z' ∨ c = 'Z' →
    OffsetTimeLiteral (clock ++ [c]) ⟨time, .utc⟩
  | signed {clock offset ignored : List Char} {t : OffsetTime} : ClockText clock t.time →
    SignedOffset offset t.offset → OffsetTimeLiteral (clock ++ (offset ++ ignored)) t

namespace Offset

variable {o : Offset}

theorem takeOffset_of_text (h : SignedOffset cs o) (rest : List Char) :
    takeOffset (fun cs => some (skipOffsetMarks cs)) (cs ++ rest) = some (o.seconds, rest) := by
  cases h with
  | @parts c hours marks minutes hour minute _ sign hourDigits two marked minuteDigits two' small value =>
    simp only [takeOffset, List.cons_append, List.append_assoc, takeOffsetSign_cons_eq, if_pos sign,
      takeTwo_append hourDigits two, skipOffsetMarks_append marked minuteDigits.isNumeral,
      takeTwo_append minuteDigits two', if_pos small, Option.bind_eq_bind, Option.bind_some,
      decide_eq_true_eq, value]
    by_cases plus : c = '+'
    · simp [plus]
    · simp [plus]

theorem text_of_takeOffset {seconds : Int}
    (h : takeOffset (fun cs => some (skipOffsetMarks cs)) cs = some (seconds, rest))
    (ho : o.seconds = seconds) : ∃ front, cs = front ++ rest ∧ SignedOffset front o := by
  simp only [takeOffset, Option.bind_eq_bind, Option.bind_eq_some_iff, Prod.exists,
    Option.some.injEq] at h
  obtain ⟨negative, _, signs, hour, left, takesHour, _, rfl, minute, left', takesMinute, value⟩ := h
  obtain ⟨c, rfl, sign, rfl⟩ := sign_of_takeOffsetSign signs
  split at value
  next small =>
    obtain ⟨rfl, rfl⟩ := Prod.mk.inj (Option.some.inj value)
    obtain ⟨hours, rfl, hourDigits, two⟩ := twoDigits_of_takeTwo takesHour
    obtain ⟨minutes, split, minuteDigits, two'⟩ := twoDigits_of_takeTwo takesMinute
    have whole : left.takeWhile Offset.isMark ++ skipOffsetMarks left = left :=
      List.takeWhile_append_dropWhile
    have marked : (left.takeWhile Offset.isMark).all Offset.isMark = true := List.all_takeWhile
    refine ⟨_, ?_, .parts sign hourDigits two marked minuteDigits two' small ?_⟩
    · rw [List.cons_append, List.append_assoc, List.append_assoc, ← split, whole]
    · rw [ho]
      by_cases plus : c = '+'
      · simp [plus]
      · simp [plus]
  next => cases value

theorem seconds_of_ofSeconds? {seconds : Int} (h : ofSeconds? seconds = some o) :
    o.seconds = seconds := by
  unfold ofSeconds? at h
  split at h
  next => cases h; rfl
  next => cases h

theorem exists_sign (h : SignedOffset cs o) : ∃ c rest, cs = c :: rest ∧ isOffsetSign c = true := by
  cases h with
  | parts sign => exact ⟨_, _, rfl, sign⟩

theorem readFront?_of_text (h : SignedOffset cs o) (rest : List Char) :
    readFront? (cs ++ rest) = some o := by
  have taken := takeOffset_of_text h rest
  obtain ⟨c, left, rfl, sign⟩ := exists_sign h
  have letter : c ≠ 'z' ∧ c ≠ 'Z' := by
    constructor <;> rintro rfl <;> exact absurd sign (by decide)
  have noLetter : ¬(c :: left ++ rest = ['z'] ∨ c :: left ++ rest = ['Z']) := by
    simp [letter]
  simp only [readFront?, if_neg noLetter, taken, ofSeconds?_own, Option.bind_eq_bind, Option.bind_some]

theorem text_of_readFront? (h : readFront? cs = some o) :
    (∃ c, cs = [c] ∧ (c = 'z' ∨ c = 'Z') ∧ o = .utc) ∨
      ∃ front ignored, cs = front ++ ignored ∧ SignedOffset front o := by
  unfold readFront? at h
  split at h
  next letter =>
    obtain rfl := Option.some.inj h
    rcases letter with rfl | rfl
    · exact .inl ⟨'z', rfl, .inl rfl, rfl⟩
    · exact .inl ⟨'Z', rfl, .inr rfl, rfl⟩
  next =>
    simp only [Option.bind_eq_bind, Option.bind_eq_some_iff, Prod.exists] at h
    obtain ⟨seconds, ignored, takes, own⟩ := h
    obtain ⟨front, split, text⟩ := text_of_takeOffset takes (seconds_of_ofSeconds? own)
    exact .inr ⟨front, ignored, split, text⟩

end Offset

namespace OffsetTime

variable {t : OffsetTime} {clock : List Char} {time : Time}

theorem endsFraction_sign (h : isOffsetSign c = true) (cs : List Char) : EndsFraction (c :: cs) := by
  intro d hd
  cases hd
  rcases cases_of_isOffsetSign h with rfl | rfl | rfl <;> decide

theorem endsFraction_zulu (h : c = 'z' ∨ c = 'Z') (cs : List Char) : EndsFraction (c :: cs) := by
  intro d hd
  cases hd
  rcases h with rfl | rfl <;> decide

theorem read_of_literal (h : OffsetTimeLiteral cs t) : OffsetTime.read cs = .ok t := by
  cases h with
  | zulu clock letter =>
    have zulu := takeTime_of_text clock (endsFraction_zulu letter [])
    rcases letter with rfl | rfl <;> simp only [OffsetTime.read, zulu] <;> rfl
  | @signed _ offset ignored _ clock text =>
    have front := Offset.readFront?_of_text text ignored
    obtain ⟨c, rest, rfl, sign⟩ := Offset.exists_sign text
    have taken := takeTime_of_text clock (endsFraction_sign sign (rest ++ ignored))
    simp only [OffsetTime.read, List.cons_append] at taken front ⊢
    simp only [taken, front]

theorem literal_of_read (h : OffsetTime.read cs = .ok t) : OffsetTimeLiteral cs t := by
  unfold OffsetTime.read at h
  split at h
  next => cases h
  next time rest takes =>
    split at h
    next => cases h
    next offset reads =>
      obtain rfl := Except.ok.inj h
      obtain ⟨clock, rfl, text⟩ := text_of_takeTime takes
      rcases Offset.text_of_readFront? reads with ⟨c, rfl, letter, rfl⟩ | ⟨front, ignored, rfl, signed⟩
      · exact .zulu text letter
      · exact .signed text signed

theorem read_eq_ok_iff : OffsetTime.read cs = .ok t ↔ OffsetTimeLiteral cs t :=
  ⟨literal_of_read, read_of_literal⟩

theorem read_of_continued (h : ClockText clock time) (letter : c = 'z' ∨ c = 'Z') (some : rest ≠ []) :
    OffsetTime.read (clock ++ c :: rest) = .error .offset := by
  have taken := takeTime_of_text h (endsFraction_zulu letter rest)
  have noSign : isOffsetSign c = false := by rcases letter with rfl | rfl <;> decide
  have noOffset : Offset.readFront? (c :: rest) = none := by
    simp only [Offset.readFront?, List.cons.injEq, some, and_false, or_self, if_false, takeOffset,
      takeOffsetSign_cons_eq, noSign, Bool.false_eq_true]
    rfl
  simp only [OffsetTime.read, taken, noOffset]

end OffsetTime

namespace Text

theorem isBlank_of_isAlpha (h : c.isAlpha = true) : isBlank c = false := by
  have letter : (decide (c.val ≥ 'A'.val ∧ c.val ≤ 'Z'.val) ||
      (decide (c.val ≥ 'a'.val) && decide (c.val ≤ 'z'.val))) = true := h
  have range : 65 ≤ c.toNat ∧ c.toNat ≤ 90 ∨ 97 ≤ c.toNat ∧ c.toNat ≤ 122 := by
    simp only [Bool.or_eq_true, Bool.and_eq_true, decide_eq_true_eq, ge_iff_le,
      UInt32.le_iff_toNat_le] at letter
    exact letter
  simp only [isBlank, Bool.or_eq_false_iff, Bool.and_eq_false_iff, decide_eq_false_iff_not,
    beq_eq_false_iff_ne]
  omega

def EndsUnblank (cs : List Char) : Prop :=
  ∀ c ∈ cs.getLast?, isBlank c = false

instance (cs : List Char) : Decidable (EndsUnblank cs) :=
  Option.decidableForallMem cs.getLast?

theorem trimEnd_of_ends (h : EndsUnblank cs) : trimEnd cs = cs := by
  rw [trimEnd, skipBlanks_of_head, List.reverse_reverse]
  simpa [EndsUnblank] using h

theorem endsUnblank_append (h : EndsUnblank ds) (some : ds ≠ []) (cs : List Char) :
    EndsUnblank (cs ++ ds) := by
  rw [EndsUnblank, List.getLast?_append_of_ne_nil _ some]
  exact h

theorem trim_of_endsUnblank (h : EndsUnblank cs) : trim cs = skipBlanks cs := by
  by_cases none : skipBlanks cs = []
  · rw [trim, none]
    rfl
  · rw [trim, trimEnd_of_ends]
    rw [← takeWhile_append_skipBlanks cs, EndsUnblank, List.getLast?_append_of_ne_nil _ none] at h
    exact h

theorem trim_append_of_ends (h : EndsUnblank cs) (some : trim cs ≠ []) (hd : EndsUnblank ds)
    (some' : ds ≠ []) : trim (cs ++ ds) = trim cs ++ ds := by
  rw [trim_of_endsUnblank h] at some ⊢
  rw [trim, skipBlanks, List.dropWhile_append, ← skipBlanks, if_neg (by simpa using some),
    trimEnd_of_ends (endsUnblank_append hd some' _)]

end Text

namespace WireValue

variable {ctx : ConversionContext} {s : String} {t : OffsetTime} {host : HostValue}

theorem read_character_offsetTime (ctx : ConversionContext) (s : String) :
    (character s).read ctx .offsetTime = (offsetTimeLiteral s).map .offsetTime :=
  rfl

theorem read_offsetTime_iff : (character s).read ctx .offsetTime = .ok host ↔
    ∃ t, OffsetTimeLiteral (trim s.toList) t ∧ host = .offsetTime t := by
  rw [read_character_offsetTime]
  constructor
  · intro reads
    unfold offsetTimeLiteral at reads
    split at reads
    next t taken => exact ⟨t, OffsetTime.read_eq_ok_iff.mp taken, (Except.ok.inj reads).symm⟩
    next => cases reads
    next => cases reads
  · rintro ⟨t, literal, rfl⟩
    rw [offsetTimeLiteral_eq (OffsetTime.read_of_literal literal)]
    rfl

theorem ne_nil_of_literal {cs : List Char} (h : OffsetTimeLiteral cs t) : cs ≠ [] := by
  cases h with
  | zulu => simp
  | signed _ text =>
    obtain ⟨c, rest, rfl, -⟩ := Offset.exists_sign text
    simp

theorem offsetTimeLiteral_of_continued (h : OffsetTime.read (trim s.toList) = .error .offset) :
    offsetTimeLiteral s = .error (.malformedLiteral .offsetTime s .offset) := by
  simp only [offsetTimeLiteral, h]

theorem any_sign_trim (h : EndsUnblank s.toList) :
    s.toList.any isOffsetSign = (trim s.toList).any isOffsetSign := by
  have blanks : (s.toList.takeWhile isBlank).any isOffsetSign = false :=
    any_sign_blanks List.all_takeWhile
  have parts := congrArg (·.any isOffsetSign) (takeWhile_append_skipBlanks s.toList)
  rw [List.any_append, blanks, Bool.false_or] at parts
  rw [trim_of_endsUnblank h, parts]

/-- Exactly the literals are read. Letters after a literal whose offset has a sign change nothing, and
after any other they are refused. -/
theorem read_offsetTime_continued (ctx : ConversionContext) :
    (∀ (s : String) (host : HostValue), (character s).read ctx .offsetTime = .ok host ↔
      ∃ t, OffsetTimeLiteral (trim s.toList) t ∧ host = .offsetTime t) ∧
    ∀ (s e : String) (host : HostValue), (character s).read ctx .offsetTime = .ok host →
      EndsUnblank s.toList → e ≠ "" → e.toList.all Char.isAlpha = true →
        (character (s ++ e)).read ctx .offsetTime =
          if s.toList.any isOffsetSign then .ok host
          else .error (.malformedLiteral .offsetTime (s ++ e) .offset) := by
  refine ⟨fun s host => read_offsetTime_iff, fun s e host reads ends some letters => ?_⟩
  obtain ⟨t, literal, rfl⟩ := read_offsetTime_iff.mp reads
  have someLetters : e.toList ≠ [] := by simpa using some
  have lettersEnd : EndsUnblank e.toList :=
    fun c hc => isBlank_of_isAlpha (List.all_eq_true.mp letters c (List.mem_of_getLast? hc))
  have text : trim (s ++ e).toList = trim s.toList ++ e.toList := by
    rw [String.toList_append,
      trim_append_of_ends ends (ne_nil_of_literal literal) lettersEnd someLetters]
  rw [any_sign_trim ends]
  generalize trim s.toList = cs at literal text
  cases literal with
  | @zulu clock time c clockText letter =>
    have noSign : isOffsetSign c = false := by rcases letter with rfl | rfl <;> decide
    have refused : OffsetTime.read (trim (s ++ e).toList) = .error .offset := by
      rw [text, List.append_assoc]
      exact OffsetTime.read_of_continued clockText letter someLetters
    rw [read_character_offsetTime, offsetTimeLiteral_of_continued refused, List.any_append,
      any_sign_clock clockText]
    simp only [List.any_cons, noSign, List.any_nil, Bool.or_self, Bool.false_eq_true, if_false]
    rfl
  | @signed clock offset ignored _ clockText offsetText =>
    have signs : (clock ++ (offset ++ ignored)).any isOffsetSign = true := by
      obtain ⟨c, rest, rfl, sign⟩ := Offset.exists_sign offsetText
      simp [sign]
    rw [if_pos signs]
    refine read_offsetTime_iff.mpr ⟨t, ?_, rfl⟩
    rw [text, List.append_assoc, List.append_assoc]
    exact .signed clockText offsetText

theorem read_offsetTime_continued_junk :
    (character "10:00:00+01:00junk").read default .offsetTime =
        (character "10:00:00+01:00").read default .offsetTime ∧
      (character "10:00:00zulu").read default .offsetTime =
        .error (.malformedLiteral .offsetTime "10:00:00zulu" .offset) := by
  have continued := (read_offsetTime_continued default).2
  have signed : (character "10:00:00+01:00").read default .offsetTime =
      .ok (.offsetTime ⟨⟨36000, 0, by decide, by decide⟩, ⟨3600, by decide⟩⟩) := by rfl
  have zulu : (character "10:00:00z").read default .offsetTime =
      .ok (.offsetTime ⟨⟨36000, 0, by decide, by decide⟩, .utc⟩) := by rfl
  refine ⟨?_, ?_⟩
  · rw [signed]
    exact continued "10:00:00+01:00" "junk" _ signed (by decide) (by decide) (by decide)
  · exact continued "10:00:00z" "ulu" _ zulu (by decide) (by decide) (by decide)

theorem read_offsetTime_junk :
    ¬∀ (ctx : ConversionContext) (s e : String) (host : HostValue),
      (character s).read ctx .offsetTime = .ok host → EndsUnblank s.toList → e ≠ "" →
        e.toList.all Char.isAlpha = true →
          ∃ fault, (character (s ++ e)).read ctx .offsetTime =
            .error (.malformedLiteral .offsetTime (s ++ e) fault) := by
  intro law
  have accepted : (character "10:00:00+01:00").read default .offsetTime =
      .ok (.offsetTime ⟨⟨36000, 0, by decide, by decide⟩, ⟨3600, by decide⟩⟩) := by rfl
  obtain ⟨fault, refused⟩ := law default "10:00:00+01:00" "junk" _ accepted (by decide) (by decide)
    (by decide)
  have still : (character ("10:00:00+01:00" ++ "junk")).read default .offsetTime =
      .ok (.offsetTime ⟨⟨36000, 0, by decide, by decide⟩, ⟨3600, by decide⟩⟩) := by rfl
  cases still.symm.trans refused

end WireValue

end SqlClient
