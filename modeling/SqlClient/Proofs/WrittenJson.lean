import Mathlib.Data.List.Forall2
import SqlClient.Json.Reader
import SqlClient.Json.Writer
import SqlClient.Proofs.Numerals

namespace SqlClient.Json

open Text (isDigit digits denotes_digits EndsNumeral)

variable {c : Char} {cs rest : List Char} {es : List Element} {fuel n : Nat}

inductive Shows (c : Char) : Element → Prop where
  | plain : Shows c (.plain c)
  | numbered (control : c.toNat < 32) : Shows c (.numbered c.toNat)

theorem hexDigit?_digitChar : ∀ n < 16, hexDigit? (Nat.digitChar n) = some n := by
  decide

theorem takeEscape_control (h : n < 32) (rest : List Char) :
    takeEscape ('u' :: '0' :: '0' :: Nat.digitChar (n / 16) :: Nat.digitChar (n % 16) :: rest) =
      some (.numbered n, rest) := by
  have high := hexDigit?_digitChar (n / 16) (by omega)
  have low := hexDigit?_digitChar (n % 16) (by omega)
  have zero : hexDigit? '0' = some 0 := rfl
  have whole : n / 16 * 16 + n % 16 = n := Nat.div_add_mod' n 16
  simp [takeEscape, takeHex, high, low, zero, whole]

theorem escape_cases (c : Char) :
    (∃ tail e, escape c = '\\' :: tail ∧ Shows c e ∧
      ∀ rest, takeEscape (tail ++ rest) = some (e, rest)) ∨
    (escape c = [c] ∧ c ≠ '"' ∧ c ≠ '\\' ∧ ¬c.toNat < 32) := by
  unfold escape
  split_ifs with quote backslash backspace feed line ret tab control
  iterate 7
    · subst_vars
      exact .inl ⟨_, _, rfl, .plain, fun _ => rfl⟩
  · exact .inl ⟨_, _, rfl, .numbered control, takeEscape_control control⟩
  · exact .inr ⟨rfl, quote, backslash, control⟩

theorem takeElements_escape (c : Char) (h : takeElements fuel cs = some (es, rest)) :
    ∃ e, Shows c e ∧ takeElements (fuel + 1) (escape c ++ cs) = some (e :: es, rest) := by
  obtain ⟨tail, e, written, shows, taken⟩ | ⟨written, quote, backslash, control⟩ := escape_cases c
  · exact ⟨e, shows, by simp [written, takeElements, taken, h]⟩
  · exact ⟨.plain c, .plain, by simp [written, takeElements, quote, backslash, control, h]⟩

theorem takeElements_flatMap (s rest : List Char) (h : s.length < fuel) :
    ∃ es, List.Forall₂ Shows s es ∧
      takeElements fuel (s.flatMap escape ++ '"' :: rest) = some (es, rest) := by
  induction s generalizing fuel with
  | nil =>
    obtain ⟨fuel, rfl⟩ := Nat.exists_eq_add_one.mpr h
    exact ⟨[], .nil, by simp [takeElements]⟩
  | cons c s ih =>
    rw [List.length_cons] at h
    obtain ⟨fuel, rfl⟩ := Nat.exists_eq_add_one.mpr (Nat.zero_lt_of_lt h)
    obtain ⟨es, shows, taken⟩ := ih (Nat.succ_lt_succ_iff.mp h)
    obtain ⟨e, shown, first⟩ := takeElements_escape c taken
    exact ⟨e :: es, .cons shown shows, by rw [List.flatMap_cons, List.append_assoc, first]⟩

theorem joinElements_control (h : n < 32) (es : List Element) :
    joinElements (.numbered n :: es) = (joinElements es).map (Char.ofNat n :: ·) := by
  have high : isHighSurrogate n = false := by
    simp only [isHighSurrogate, Bool.and_eq_false_iff, decide_eq_false_iff_not]
    omega
  have low : isLowSurrogate n = false := by
    simp only [isLowSurrogate, Bool.and_eq_false_iff, decide_eq_false_iff_not]
    omega
  match es with
  | [] | .plain _ :: _ | .numbered _ :: _ => simp [joinElements, high, low]

theorem joinElements_of_shows {s : List Char} (h : List.Forall₂ Shows s es) :
    joinElements es = some s := by
  induction h with
  | nil => rfl
  | cons shown _ ih =>
    cases shown with
    | plain => simp [joinElements, ih]
    | numbered control => simp [joinElements_control control, ih]

theorem length_le_length_flatMap_escape (s : List Char) : s.length ≤ (s.flatMap escape).length := by
  induction s with
  | nil => exact Nat.le_refl 0
  | cons c s ih =>
    have first : 1 ≤ (escape c).length := by
      obtain ⟨_, _, written, _⟩ | ⟨written, _⟩ := escape_cases c <;> simp [written]
    rw [List.flatMap_cons, List.length_append, List.length_cons]
    omega

theorem takeText_flatMap (s : String) (rest : List Char) :
    takeText (s.toList.flatMap escape ++ '"' :: rest) = some (some s, rest) := by
  have enough : s.toList.length < (s.toList.flatMap escape ++ '"' :: rest).length := by
    have le := length_le_length_flatMap_escape s.toList
    simp only [List.length_append, List.length_cons]
    omega
  obtain ⟨es, shows, taken⟩ := takeElements_flatMap s.toList rest enough
  rw [takeText, taken]
  simp [joinElements_of_shows shows]

def EndsNumber (rest : List Char) : Prop :=
  ∀ c ∈ rest.head?, isDigit c = false ∧ c ≠ '.' ∧ c ≠ 'e' ∧ c ≠ 'E'

theorem EndsNumber.endsNumeral (h : EndsNumber rest) : EndsNumeral rest :=
  fun c hc => (h c hc).1

theorem exists_digits_eq (n : Nat) : ∃ c cs, digits n = c :: cs ∧ isDigit c = true := by
  obtain ⟨filled, all⟩ := (denotes_digits n).isNumeral
  obtain ⟨c, cs, front⟩ := List.exists_cons_of_ne_nil filled
  rw [front] at all
  exact ⟨c, cs, front, (Bool.and_eq_true_iff.mp all).1⟩

theorem ne_of_isDigit {d : Char} (h : isDigit c = true) (hd : isDigit d = false) : c ≠ d := by
  rintro rfl
  exact absurd (h.symm.trans hd) (by decide)

theorem eq_zero_of_digits {ds : List Char} (h : digits n = '0' :: ds) : n = 0 := by
  induction n using Nat.strongRecOn generalizing ds with
  | ind n ih =>
    rw [digits, Nat.toDigits_eq_if (by decide)] at h
    by_cases small : n < 10
    · rw [if_pos small] at h
      have first : ∀ d < 10, Nat.digitChar d = '0' → d = 0 := by decide
      exact first n small (List.cons.inj h).1
    · rw [if_neg small] at h
      obtain ⟨d, ds, front, -⟩ := exists_digits_eq (n / 10)
      rw [← digits, front, List.cons_append] at h
      obtain ⟨rfl, -⟩ := List.cons.inj h
      have := ih (n / 10) (by omega) front
      omega

theorem takeDigits_digits (h : EndsNumeral rest) (n : Nat) :
    takeDigits (digits n ++ rest) = some (digits n, rest) := by
  obtain ⟨filled, all⟩ := (denotes_digits n).isNumeral
  simp [takeDigits, Text.takeWhile_digits all h, filled]

theorem takeWhole_digits (h : EndsNumeral rest) (n : Nat) :
    takeWhole (digits n ++ rest) = some (digits n, rest) := by
  unfold takeWhole
  split
  next cs zero =>
    obtain ⟨d, ds, front, -⟩ := exists_digits_eq n
    rw [front, List.cons_append] at zero
    obtain ⟨rfl, rfl⟩ := List.cons.inj zero
    -- No digit may follow the zero, and none of the text does.
    obtain rfl := eq_zero_of_digits front
    obtain rfl : [] = ds := (List.cons.inj front).2
    cases rest with
    | nil => rfl
    | cons c rest => simp [h c rfl, front]
  next => exact takeDigits_digits h n

theorem takeFraction_of_ends (h : EndsNumber rest) : takeFraction rest = some ([], rest) := by
  unfold takeFraction
  split
  next => exact absurd rfl (h _ rfl).2.1
  next => rfl

theorem takeExponent_of_ends (h : EndsNumber rest) : takeExponent rest = some ([], rest) := by
  cases rest with
  | nil => rfl
  | cons c rest => simp [takeExponent, (h c rfl).2.2]

theorem takeNumber_digits (h : EndsNumber rest) (n : Nat) :
    takeNumber (digits n ++ rest) = some (digits n, rest) := by
  obtain ⟨c, cs, front, digit⟩ := exists_digits_eq n
  have unsigned : c ≠ '-' := ne_of_isDigit digit rfl
  have whole := takeWhole_digits h.endsNumeral n
  rw [front, List.cons_append] at whole ⊢
  simp [takeNumber, unsigned, whole, takeFraction_of_ends h, takeExponent_of_ends h]

inductive Plain : Json → Prop where
  | null : Plain .null
  | boolean (b : Bool) : Plain (.boolean b)
  | number (n : Nat) : Plain (.number (digits n))
  | string (s : String) : Plain (.ofString s)
  | array {items : List Json} (plain : ∀ item ∈ items, Plain item) : Plain (.array items)
  | object {members : List (Option String × Json)} (named : ∀ m ∈ members, m.1.isSome = true)
      (plain : ∀ m ∈ members, Plain m.2) : Plain (.object members)

theorem isBlank_of_isDigit (h : isDigit c = true) : isBlank c = false := by
  have unequal {d : Char} (hd : isDigit d = false) : c ≠ d := ne_of_isDigit h hd
  simp [isBlank, @unequal ' ' rfl, @unequal '\n' rfl, @unequal '\t' rfl, @unequal '\r' rfl]

def Opens (cs : List Char) : Prop :=
  ∃ c rest, cs = c :: rest ∧ isBlank c = false ∧ c ≠ ']'

theorem opens_cons (c : Char) (cs : List Char) (blank : isBlank c = false) (close : c ≠ ']') :
    Opens (c :: cs) :=
  ⟨c, cs, rfl, blank, close⟩

theorem skipBlanks_cons (h : isBlank c = false) (cs : List Char) : skipBlanks (c :: cs) = c :: cs := by
  simp [skipBlanks, h]

theorem Opens.append (h : Opens cs) (rest : List Char) : Opens (cs ++ rest) := by
  obtain ⟨c, cs, rfl, blank, close⟩ := h
  exact ⟨c, cs ++ rest, rfl, blank, close⟩

/-- With fuel for its text, the reader takes the document off the front of any text. -/
structure Reads (j : Json) : Prop where
  opens : Opens j.write
  take : ∀ fuel rest, 2 * j.write.length ≤ fuel + 1 → EndsNumber rest →
    takeValue (fuel + 1) (j.write ++ rest) = some (j, rest)

variable {j : Json} {items : List Json} {members : List (Option String × Json)}

theorem Reads.takeValue (h : Reads j) (fuel : Nat) (rest : List Char)
    (enough : 2 * j.write.length ≤ fuel) (ends : EndsNumber rest) :
    takeValue fuel (j.write ++ rest) = some (j, rest) := by
  cases fuel with
  | zero =>
    obtain ⟨c, cs, front, -⟩ := h.opens
    rw [front, List.length_cons] at enough
    omega
  | succ fuel => exact h.take fuel rest enough ends

theorem reads_null : Reads .null :=
  ⟨opens_cons _ _ rfl (by decide), fun _ _ _ _ => rfl⟩

theorem reads_boolean (b : Bool) : Reads (.boolean b) := by
  cases b <;> exact ⟨opens_cons _ _ rfl (by decide), fun _ _ _ _ => rfl⟩

theorem reads_number (n : Nat) : Reads (.number (digits n)) := by
  obtain ⟨c, cs, front, digit⟩ := exists_digits_eq n
  have unequal {d : Char} (hd : isDigit d = false) : c ≠ d := ne_of_isDigit digit hd
  have blank := isBlank_of_isDigit digit
  refine ⟨⟨c, cs, front, blank, unequal rfl⟩, fun fuel rest _ ends => ?_⟩
  have taken := takeNumber_digits ends n
  rw [write]
  rw [front, List.cons_append] at taken ⊢
  rw [Json.takeValue, skipBlanks_cons blank]
  -- A digit opens nothing else, so the reading comes to the case of a number.
  simp [taken, @unequal '[' rfl, @unequal '\x7b' rfl, @unequal '"' rfl, @unequal 'n' rfl,
    @unequal 't' rfl, @unequal 'f' rfl]

theorem reads_string (s : String) : Reads (.ofString s) := by
  refine ⟨opens_cons _ _ rfl (by decide), fun fuel rest _ _ => ?_⟩
  have taken := takeText_flatMap s rest
  simp [ofString, write, writeText, Json.takeValue, skipBlanks_cons, isBlank, taken]

theorem endsNumber_cons (c : Char) (cs : List Char) (digit : isDigit c = false)
    (ends : c ≠ '.' ∧ c ≠ 'e' ∧ c ≠ 'E') : EndsNumber (c :: cs) := by
  rintro _ ⟨⟩
  exact ⟨digit, ends⟩

theorem takeItems_writeItems (filled : items ≠ []) (h : ∀ item ∈ items, Reads item)
    (enough : 2 * (writeItems items).length < fuel) (rest : List Char) :
    takeItems fuel (writeItems items ++ ']' :: rest) = some (items, rest) := by
  -- each item takes one unit of fuel and leaves two for each of its characters and the comma
  induction items generalizing fuel with
  | nil => exact absurd rfl filled
  | cons item items ih =>
    obtain ⟨first, others⟩ := List.forall_mem_cons.mp h
    obtain ⟨fuel, rfl⟩ := Nat.exists_eq_add_one.mpr (Nat.zero_lt_of_lt enough)
    cases items with
    | nil =>
      simp only [writeItems] at enough ⊢
      have taken := first.takeValue fuel (']' :: rest) (by omega)
        (endsNumber_cons _ _ rfl (by decide))
      simp [takeItems, taken, skipBlanks_cons, isBlank]
    | cons next items =>
      simp only [writeItems, List.length_append, List.length_cons, List.append_assoc,
        List.cons_append] at enough ⊢
      have taken := first.takeValue fuel (',' :: (writeItems (next :: items) ++ ']' :: rest))
        (by omega) (endsNumber_cons _ _ rfl (by decide))
      have following := ih (List.cons_ne_nil _ _) others (by omega : _ < fuel)
      simp [takeItems, taken, skipBlanks_cons, isBlank, following]

theorem takeMembers_writeMembers (filled : members ≠ []) (named : ∀ m ∈ members, m.1.isSome = true)
    (h : ∀ m ∈ members, Reads m.2) (enough : 2 * (writeMembers members).length < fuel)
    (rest : List Char) :
    takeMembers fuel (writeMembers members ++ '\x7d' :: rest) = some (members, rest) := by
  induction members generalizing fuel with
  | nil => exact absurd rfl filled
  | cons m members ih =>
    obtain ⟨fuel, rfl⟩ := Nat.exists_eq_add_one.mpr (Nat.zero_lt_of_lt enough)
    obtain ⟨name, value⟩ := m
    obtain ⟨isSome, names⟩ := List.forall_mem_cons.mp named
    obtain ⟨first : Reads value, others⟩ := List.forall_mem_cons.mp h
    obtain ⟨name, rfl⟩ := Option.isSome_iff_exists.mp isSome
    cases members with
    | nil =>
      simp only [writeMembers, writeText, Option.getD_some, List.length_append, List.length_cons,
        List.append_assoc, List.cons_append, List.nil_append] at enough ⊢
      have taken := first.takeValue fuel ('\x7d' :: rest) (by omega)
        (endsNumber_cons _ _ rfl (by decide))
      simp [takeMembers, taken, takeText_flatMap, skipBlanks_cons, isBlank]
    | cons next members =>
      simp only [writeMembers, writeText, Option.getD_some, List.length_append, List.length_cons,
        List.append_assoc, List.cons_append, List.nil_append] at enough ⊢
      have taken := first.takeValue fuel
        (',' :: (writeMembers (next :: members) ++ '\x7d' :: rest)) (by omega)
        (endsNumber_cons _ _ rfl (by decide))
      have following := ih (List.cons_ne_nil _ _) names others (by omega : _ < fuel)
      simp [takeMembers, taken, takeText_flatMap, skipBlanks_cons, isBlank, following]

theorem opens_writeItems (h : Opens j.write) (items : List Json) : Opens (writeItems (j :: items)) := by
  cases items with
  | nil => exact h
  | cons next items => exact h.append _

theorem reads_array (h : ∀ item ∈ items, Reads item) : Reads (.array items) := by
  refine ⟨opens_cons _ _ rfl (by decide), fun fuel rest enough _ => ?_⟩
  cases items with
  | nil => rfl
  | cons item items =>
    simp only [write, List.length_cons, List.length_append, List.cons_append, List.append_assoc,
      List.nil_append] at enough ⊢
    have taken := takeItems_writeItems (List.cons_ne_nil _ _) h (by omega : _ < fuel) rest
    obtain ⟨c, cs, front, blank, close⟩ := opens_writeItems (h item List.mem_cons_self).opens items
    rw [front, List.cons_append] at taken ⊢
    rw [Json.takeValue, skipBlanks_cons rfl]
    simp [skipBlanks_cons blank, close, taken]

theorem reads_object (named : ∀ m ∈ members, m.1.isSome = true) (h : ∀ m ∈ members, Reads m.2) :
    Reads (.object members) := by
  refine ⟨opens_cons _ _ rfl (by decide), fun fuel rest enough _ => ?_⟩
  cases members with
  | nil => rfl
  | cons m members =>
    simp only [write, List.length_cons, List.length_append, List.cons_append, List.append_assoc,
      List.nil_append] at enough ⊢
    have taken := takeMembers_writeMembers (List.cons_ne_nil _ _) named h (by omega : _ < fuel) rest
    obtain ⟨cs, front⟩ : ∃ cs, writeMembers (m :: members) = '"' :: cs := by
      cases members <;> exact ⟨_, rfl⟩
    rw [front, List.cons_append] at taken ⊢
    rw [Json.takeValue, skipBlanks_cons rfl]
    simp [skipBlanks_cons, isBlank, taken]

theorem reads_of_plain (h : Plain j) : Reads j := by
  induction h with
  | null => exact reads_null
  | boolean b => exact reads_boolean b
  | number n => exact reads_number n
  | string s => exact reads_string s
  | array _ ih => exact reads_array ih
  | object named _ ih => exact reads_object named ih

theorem read?_write (h : Plain j) : read? j.write = some j := by
  have taken := (reads_of_plain h).takeValue (2 * j.write.length + 2) [] (by omega) nofun
  rw [List.append_nil] at taken
  rw [read?, taken]
  rfl

end SqlClient.Json
