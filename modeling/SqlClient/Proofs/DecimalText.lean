import SqlClient.Proofs.Numerals

namespace SqlClient

open Text

attribute [local instance (high)] instPowNat

namespace Decimal

variable {n : Numeral} {ds whole fraction rest : List Char} {excess : Excess}

def Numeral.pushAll (n : Numeral) (ds : List Char) : Numeral :=
  ds.foldl (fun n c => n.push ((digit? c).getD 0)) n

theorem Numeral.read_digits (digits : ds.all isDigit = true)
    (room : n.pointSeen = true → n.scale + ds.length ≤ maxScale)
    (fits : ds.foldl (fun m c => m * 10 + (digit? c).getD 0) n.mantissa < 2 ^ (96 : Nat)) :
    n.read excess (ds ++ rest) = (n.pushAll ds).read excess rest := by
  induction ds generalizing n with
  | nil => rfl
  | cons c ds ih =>
    obtain ⟨digit, digits⟩ := Bool.and_eq_true_iff.mp digits
    obtain ⟨d, hd⟩ := Option.isSome_iff_exists.mp digit
    have fits' : ds.foldl (fun m c => m * 10 + (digit? c).getD 0) (n.push d).mantissa <
        2 ^ (96 : Nat) := by
      simpa [push, hd] using fits
    have next : (n.push d).mantissa < 2 ^ (96 : Nat) := by
      rw [foldl_digits] at fits'
      have grows : (n.push d).mantissa ≤ (n.push d).mantissa * 10 ^ ds.length :=
        Nat.le_mul_of_pos_right _ (Nat.pow_pos (by decide))
      omega
    have notFull : n.full = false := by
      rw [full]
      cases point : n.pointSeen with
      | false => rfl
      | true =>
        have := room point
        rw [List.length_cons] at this
        simp only [Bool.true_and, decide_eq_false_iff_not]
        omega
    have room' : (n.push d).pointSeen = true → (n.push d).scale + ds.length ≤ maxScale := by
      intro point
      have point : n.pointSeen = true := point
      have := room point
      rw [List.length_cons] at this
      simp only [push, point, if_true]
      omega
    have step : (n.pushAll (c :: ds)) = (n.push d).pushAll ds := by
      simp only [pushAll, List.foldl_cons, hd, Option.getD_some]
    simp only [List.cons_append, read, notFull, Bool.false_eq_true, if_false, hd, if_pos next, step]
    exact ih digits room' fits'

theorem Numeral.pushAll_start (h : ds ≠ []) :
    Numeral.start.pushAll ds = ⟨ofDigits ds, 0, false, true⟩ := by
  have from_any (m : Nat) (cs : List Char) : (⟨m, 0, false, true⟩ : Numeral).pushAll cs =
      ⟨cs.foldl (fun m c => m * 10 + (digit? c).getD 0) m, 0, false, true⟩ := by
    induction cs generalizing m with
    | nil => rfl
    | cons c cs ih => exact ih _
  obtain ⟨c, cs, rfl⟩ := List.exists_cons_of_ne_nil h
  exact from_any _ cs

theorem Numeral.pushAll_fraction (m s : Nat) :
    (⟨m, s, true, true⟩ : Numeral).pushAll ds =
      ⟨ds.foldl (fun m c => m * 10 + (digit? c).getD 0) m, s + ds.length, true, true⟩ := by
  induction ds generalizing m s with
  | nil => rfl
  | cons c ds ih =>
    have step : (⟨m, s, true, true⟩ : Numeral).pushAll (c :: ds) =
        (⟨m * 10 + (digit? c).getD 0, s + 1, true, true⟩ : Numeral).pushAll ds := rfl
    rw [step, ih, List.foldl_cons, List.length_cons, Nat.add_assoc, Nat.add_comm 1]

theorem Numeral.read_point (m : Nat) (cs : List Char) :
    (⟨m, 0, false, true⟩ : Numeral).read excess ('.' :: cs) =
      (⟨m, 0, true, true⟩ : Numeral).read excess cs := by
  have notFull : Numeral.full ⟨m, 0, false, true⟩ = false := rfl
  have noDigit : digit? '.' = none := rfl
  simp only [read, notFull, noDigit]
  rfl

variable {d : Decimal}

def shownDigits (d : Decimal) : List Char :=
  padLeft (d.scale + 1) (digits d.mantissa)

def wholeDigits (d : Decimal) : List Char :=
  d.shownDigits.take (d.shownDigits.length - d.scale)

def fractionDigits (d : Decimal) : List Char :=
  d.shownDigits.drop (d.shownDigits.length - d.scale)

def unsignedText (d : Decimal) : List Char :=
  d.wholeDigits ++ if d.scale = 0 then [] else '.' :: d.fractionDigits

theorem text_eq (d : Decimal) :
    d.text = if d.negative then '-' :: d.unsignedText else d.unsignedText := by
  have body : (if d.scale = 0 then d.wholeDigits else d.wholeDigits ++ '.' :: d.fractionDigits) =
      d.unsignedText := by
    unfold unsignedText
    split
    · rw [List.append_nil]
    · rfl
  rw [← body]
  rfl

theorem denotes_shownDigits (d : Decimal) : Denotes d.shownDigits d.mantissa :=
  denotes_padded (d.scale + 1) d.mantissa

theorem parts_eq (d : Decimal) : d.wholeDigits ++ d.fractionDigits = d.shownDigits :=
  List.take_append_drop ..

theorem scale_lt_length (d : Decimal) : d.scale < d.shownDigits.length := by
  rw [shownDigits, padLeft, List.length_append, List.length_replicate]
  omega

theorem length_fractionDigits (d : Decimal) : d.fractionDigits.length = d.scale := by
  have := d.scale_lt_length
  rw [fractionDigits, List.length_drop]
  omega

theorem all_parts (d : Decimal) :
    d.wholeDigits.all isDigit = true ∧ d.fractionDigits.all isDigit = true := by
  have all := d.denotes_shownDigits.isNumeral.2
  rwa [← parts_eq, List.all_append, Bool.and_eq_true] at all

theorem isNumeral_wholeDigits (d : Decimal) : IsNumeral d.wholeDigits := by
  refine ⟨?_, d.all_parts.1⟩
  have := d.scale_lt_length
  intro none
  have short : d.wholeDigits.length = 0 := by rw [none]; rfl
  rw [wholeDigits, List.length_take] at short
  omega

theorem foldl_fractionDigits (d : Decimal) :
    d.fractionDigits.foldl (fun m c => m * 10 + (digit? c).getD 0) (ofDigits d.wholeDigits) =
      d.mantissa := by
  rw [ofDigits, ← List.foldl_append, parts_eq]
  exact d.denotes_shownDigits.value

theorem ofDigits_wholeDigits_le (d : Decimal) : ofDigits d.wholeDigits ≤ d.mantissa := by
  rw [← d.denotes_shownDigits.value, ← parts_eq]
  exact ofDigits_le_of_prefix (List.prefix_append ..)

theorem read_unsignedText (hs : d.scale ≤ maxScale) :
    Numeral.start.read excess d.unsignedText = some (d.mantissa, d.scale) := by
  have fits : ofDigits d.wholeDigits < 2 ^ (96 : Nat) :=
    Nat.lt_of_le_of_lt d.ofDigits_wholeDigits_le d.mantissa_lt
  have front (rest : List Char) : Numeral.start.read excess (d.wholeDigits ++ rest) =
      (⟨ofDigits d.wholeDigits, 0, false, true⟩ : Numeral).read excess rest := by
    rw [← Numeral.pushAll_start d.isNumeral_wholeDigits.1]
    exact Numeral.read_digits d.all_parts.1 (fun point => nomatch point) fits
  rw [unsignedText, front]
  have value := d.foldl_fractionDigits
  have length := d.length_fractionDigits
  split
  next none =>
    rw [List.length_eq_zero_iff.mp (length.trans none)] at value
    rw [none, ← value]
    rfl
  next =>
    have room : 0 + d.fractionDigits.length ≤ maxScale := by rw [length, Nat.zero_add]; exact hs
    have fits := d.mantissa_lt
    rw [← value] at fits
    have digits : (⟨ofDigits d.wholeDigits, 0, true, true⟩ : Numeral).read excess
        (d.fractionDigits ++ []) = (⟨d.mantissa, d.scale, true, true⟩ : Numeral).read excess [] := by
      rw [Numeral.read_digits d.all_parts.2 (fun _ => room) fits, Numeral.pushAll_fraction, value,
        length, Nat.zero_add]
    rw [List.append_nil] at digits
    rw [Numeral.read_point, digits]
    rfl

theorem takeSign_text (d : Decimal) : takeSign d.text = (d.negative, d.unsignedText) := by
  rw [text_eq]
  cases d.negative with
  | true => rfl
  | false =>
    have whole := d.isNumeral_wholeDigits
    simp only [Bool.false_eq_true, if_false]
    rw [unsignedText, takeSign_append whole.1, takeSign_of_isNumeral whole]

theorem read?_text (hs : d.scale ≤ maxScale) (hz : d.mantissa = 0 → d.negative = false) :
    read? excess d.text = some d := by
  have own : ofParts? d.negative d.mantissa d.scale = some d := by
    have sign : (d.negative && d.mantissa != 0) = d.negative := by
      by_cases zero : d.mantissa = 0
      · simp [zero, hz zero]
      · simp [zero]
    simp only [ofParts?, dif_pos d.mantissa_lt, sign]
  have plain : readPlain? excess d.text = some d := by
    simp only [readPlain?, takeSign_text, read_unsignedText hs, own, Option.bind_eq_bind,
      Option.bind_some]
  rw [read?, plain]
  rfl

theorem unblank_text (d : Decimal) : Unblank d.text := by
  have digits : Unblank d.shownDigits := unblank_of_isNumeral d.denotes_shownDigits.isNumeral
  rw [← parts_eq] at digits
  obtain ⟨whole, fraction⟩ := List.forall_mem_append.mp digits
  have unsigned : Unblank d.unsignedText := by
    refine unblank_append whole ?_
    split
    · exact unblank_nil
    · exact unblank_cons (by decide) fraction
  rw [text_eq]
  split
  · exact unblank_cons (by decide) unsigned
  · exact unsigned

end Decimal

end SqlClient
