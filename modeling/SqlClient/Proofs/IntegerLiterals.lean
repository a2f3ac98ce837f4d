import SqlClient.Proofs.Readings

namespace SqlClient

open Text

attribute [local instance (high)] instPowNat

def IsNumeral (cs : List Char) : Prop :=
  cs ≠ [] ∧ cs.all isDigit = true

def withSign (negative : Bool) (n : Nat) : Int :=
  if negative then -n else n

inductive IntegerLiteral : List Char → Int → Prop where
  | unsigned {ds : List Char} : IsNumeral ds → IntegerLiteral ds (ofDigits ds)
  | plus {ds : List Char} : IsNumeral ds → IntegerLiteral ('+' :: ds) (ofDigits ds)
  | minus {ds : List Char} : IsNumeral ds → IntegerLiteral ('-' :: ds) (-ofDigits ds)

theorem foldl_digits (n : Nat) (ds : List Char) :
    ds.foldl (fun n c => n * 10 + (digit? c).getD 0) n = n * 10 ^ ds.length + ofDigits ds := by
  induction ds generalizing n with
  | nil => simp [ofDigits]
  | cons d ds ih =>
    rw [ofDigits, List.foldl_cons, List.foldl_cons, ih, ih, Nat.zero_mul, Nat.zero_add, Nat.add_mul,
      List.length_cons, Nat.pow_succ, Nat.mul_assoc, Nat.mul_comm 10, Nat.add_assoc]

theorem ofDigits_append (ds rest : List Char) :
    ofDigits (ds ++ rest) = ofDigits ds * 10 ^ rest.length + ofDigits rest := by
  rw [ofDigits, List.foldl_append, foldl_digits, ← ofDigits]

theorem ofDigits_le_of_prefix {ds cs : List Char} (h : ds <+: cs) : ofDigits ds ≤ ofDigits cs := by
  obtain ⟨rest, rfl⟩ := h
  rw [ofDigits_append]
  exact Nat.le_trans (Nat.le_mul_of_pos_right _ (Nat.pow_pos (by decide))) (Nat.le_add_right _ _)

theorem takeSign_of_isNumeral {ds : List Char} (h : IsNumeral ds) : takeSign ds = (false, ds) := by
  obtain ⟨some, digits⟩ := h
  cases ds with
  | nil => exact absurd rfl some
  | cons c ds =>
    have first : isDigit c = true := (Bool.and_eq_true_iff.mp digits).1
    unfold takeSign
    split
    next same =>
      cases same
      exact absurd first (by decide)
    next same =>
      cases same
      exact absurd first (by decide)
    next => rfl

theorem takeSign_append {cs : List Char} (h : cs ≠ []) (rest : List Char) :
    takeSign (cs ++ rest) = ((takeSign cs).1, (takeSign cs).2 ++ rest) := by
  cases cs with
  | nil => exact absurd rfl h
  | cons c cs =>
    rw [List.cons_append]
    unfold takeSign
    split
    next same => cases same; rfl
    next same => cases same; rfl
    next minus plus =>
      split
      next same => cases same; exact absurd rfl (minus _)
      next same => cases same; exact absurd rfl (plus _)
      next => rfl

theorem integerLiteral_iff {cs : List Char} {n : Int} : IntegerLiteral cs n ↔
    IsNumeral (takeSign cs).2 ∧ n = withSign (takeSign cs).1 (ofDigits (takeSign cs).2) := by
  constructor
  · rintro (numeral | numeral | numeral)
    · rw [takeSign_of_isNumeral numeral]
      exact ⟨numeral, rfl⟩
    · exact ⟨numeral, rfl⟩
    · exact ⟨numeral, rfl⟩
  · rintro ⟨numeral, rfl⟩
    revert numeral
    unfold takeSign
    split
    · exact .minus
    · exact .plus
    · exact .unsigned

theorem IntegerLiteral.unique {cs : List Char} {n m : Int} (h : IntegerLiteral cs n)
    (h' : IntegerLiteral cs m) : m = n := by
  rw [(integerLiteral_iff.mp h).2, (integerLiteral_iff.mp h').2]

def continued (negative : Bool) (n : Int) (ds : List Char) : Int :=
  ds.foldl (fun n c => n * 10 + withSign negative ((digit? c).getD 0)) n

theorem continued_zero (negative : Bool) (ds : List Char) :
    continued negative 0 ds = withSign negative (ofDigits ds) := by
  have from_any (n : Nat) : continued negative (withSign negative n) ds =
      withSign negative (ds.foldl (fun n c => n * 10 + (digit? c).getD 0) n) := by
    induction ds generalizing n with
    | nil => rfl
    | cons d ds ih =>
      rw [List.foldl_cons, ← ih, continued, List.foldl_cons]
      congr 1
      cases negative <;> simp [withSign]
      omega
  have zero : withSign negative 0 = 0 := by cases negative <;> rfl
  rw [← zero, from_any, ofDigits]

namespace Width

variable {w : Width} {negative : Bool} {n : Int} {c : Char} {cs ds : List Char}

def Has (w : Width) (n : Int) : Prop :=
  w.low ≤ n ∧ n ≤ w.high

instance (w : Width) (n : Int) : Decidable (w.Has n) :=
  inferInstanceAs (Decidable (_ ∧ _))

def Overruns (w : Width) (negative : Bool) (n : Int) (cs : List Char) : Prop :=
  ∃ ds, ds <+: cs ∧ ds.all isDigit = true ∧ ¬w.Has (continued negative n ds)

theorem has_zero (w : Width) : w.Has 0 := by
  cases w <;> decide

theorem not_overruns_nil (h : w.Has n) : ¬w.Overruns negative n [] := by
  rintro ⟨ds, front, -, out⟩
  rw [List.prefix_nil] at front
  subst front
  exact out h

theorem overruns_cons (h : w.Has n) : w.Overruns negative n (c :: cs) ↔
    isDigit c = true ∧ w.Overruns negative (continued negative n [c]) cs := by
  constructor
  · rintro ⟨ds, front, digits, out⟩
    cases ds with
    | nil => exact absurd h out
    | cons d ds =>
      obtain ⟨rfl, rest⟩ := List.cons_prefix_cons.mp front
      obtain ⟨digit, digits⟩ := Bool.and_eq_true_iff.mp digits
      exact ⟨digit, ds, rest, digits, out⟩
  · rintro ⟨digit, ds, front, digits, out⟩
    exact ⟨c :: ds, List.cons_prefix_cons.mpr ⟨rfl, front⟩,
      Bool.and_eq_true_iff.mpr ⟨digit, digits⟩, out⟩

theorem overruns_of_not_has (h : ¬w.Has n) : w.Overruns negative n cs :=
  ⟨[], List.nil_prefix, rfl, h⟩

open scoped Classical in
theorem accumulate_eq (h : w.Has n) (cs : List Char) : accumulate w negative n cs =
    if w.Overruns negative n cs then .error .overflow
    else if cs.all isDigit then .ok (continued negative n cs)
    else .error .invalidDigit := by
  -- Along the recursion of the reader: every number that it goes on from is in the range.
  induction cs generalizing n with
  | nil => rw [if_neg (not_overruns_nil h)]; rfl
  | cons c cs ih =>
    rw [overruns_cons h, List.all_cons, accumulate]
    cases hd : digit? c with
    | none => simp [isDigit, hd]
    | some d =>
      have digit : isDigit c = true := by simp [isDigit, hd]
      have next : (if negative then n * 10 - (d : Int) else n * 10 + d) = continued negative n [c] := by
        cases negative <;> simp [continued, withSign, hd, Int.sub_eq_add_neg]
      simp only [next, digit, true_and, Bool.true_and]
      split
      next inside => exact ih inside
      next outside => rw [if_pos (overruns_of_not_has outside)]

theorem not_overruns (h : w.Has (withSign negative (ofDigits ds))) : ¬w.Overruns negative 0 ds := by
  rintro ⟨front, before, -, out⟩
  rw [continued_zero] at out
  -- Digits only lead further away from zero, so what a front denotes lies between zero and the number.
  have grows : ofDigits front ≤ ofDigits ds := ofDigits_le_of_prefix before
  obtain ⟨below, above⟩ := w.has_zero
  obtain ⟨low, high⟩ := h
  refine out ?_
  cases negative with
  | false =>
    simp only [withSign, Bool.false_eq_true, if_false] at low high ⊢
    exact ⟨by omega, by omega⟩
  | true =>
    simp only [withSign, if_true] at low high ⊢
    exact ⟨by omega, by omega⟩

/-- A literal at the front of `cs` denotes a number outside the range. -/
def Overflows (w : Width) (cs : List Char) : Prop :=
  ∃ front n, front <+: cs ∧ IntegerLiteral front n ∧ ¬w.Has n

theorem overflows_iff : w.Overflows cs ↔ w.Overruns (takeSign cs).1 0 (takeSign cs).2 := by
  constructor
  · rintro ⟨front, n, ⟨rest, rfl⟩, literal, out⟩
    obtain ⟨numeral, rfl⟩ := integerLiteral_iff.mp literal
    have some : front ≠ [] := by
      rintro rfl
      exact numeral.1 rfl
    rw [takeSign_append some]
    exact ⟨_, List.prefix_append .., numeral.2, continued_zero .. ▸ out⟩
  · rintro ⟨ds, before, digits, out⟩
    rw [continued_zero] at out
    have numeral : IsNumeral ds := by
      refine ⟨?_, digits⟩
      rintro rfl
      cases h : (takeSign cs).1 <;> exact out (h ▸ w.has_zero)
    revert before out
    unfold takeSign
    split
    · exact fun before out => ⟨_, _, List.cons_prefix_cons.mpr ⟨rfl, before⟩, .minus numeral, out⟩
    · exact fun before out => ⟨_, _, List.cons_prefix_cons.mpr ⟨rfl, before⟩, .plus numeral, out⟩
    · exact fun before out => ⟨_, _, before, .unsigned numeral, out⟩

theorem not_overflows (h : IntegerLiteral cs n) (hn : w.Has n) : ¬w.Overflows cs := by
  obtain ⟨-, rfl⟩ := integerLiteral_iff.mp h
  rw [overflows_iff]
  exact not_overruns hn

theorem readInteger_eq_accumulate (h : (takeSign cs).2 ≠ []) :
    readInteger w cs = accumulate w (takeSign cs).1 0 (takeSign cs).2 := by
  have some : cs ≠ [] := by
    rintro rfl
    exact h rfl
  simp only [readInteger, List.isEmpty_iff, if_neg some, if_neg h]

theorem readInteger_of_literal (h : IntegerLiteral cs n) (hn : w.Has n) :
    readInteger w cs = .ok n := by
  obtain ⟨⟨some, digits⟩, rfl⟩ := integerLiteral_iff.mp h
  rw [readInteger_eq_accumulate some, accumulate_eq w.has_zero, if_neg (not_overruns hn), if_pos digits,
    continued_zero]

theorem readInteger_of_overflows (h : w.Overflows cs) : readInteger w cs = .error .overflow := by
  have overruns := overflows_iff.mp h
  have some : (takeSign cs).2 ≠ [] := by
    intro none
    exact not_overruns_nil w.has_zero (none ▸ overruns)
  rw [readInteger_eq_accumulate some, accumulate_eq w.has_zero, if_pos overruns]

theorem readInteger_of_malformed (h : ¬∃ n, IntegerLiteral cs n) (ho : ¬w.Overflows cs) :
    readInteger w cs = .error (if cs = [] then .empty else .invalidDigit) := by
  by_cases none : (takeSign cs).2 = []
  · simp only [readInteger, List.isEmpty_iff, none, if_true]
    split <;> rfl
  · have noDigits : (takeSign cs).2.all isDigit = false := by
      rw [Bool.eq_false_iff]
      exact fun digits => h ⟨_, integerLiteral_iff.mpr ⟨⟨none, digits⟩, rfl⟩⟩
    have some : cs ≠ [] := by
      rintro rfl
      exact none rfl
    rw [readInteger_eq_accumulate none, accumulate_eq w.has_zero, if_neg (mt overflows_iff.mpr ho),
      noDigits, if_neg some]
    rfl

theorem readInteger_cases (w : Width) (cs : List Char) :
    (∃ n, IntegerLiteral cs n ∧ w.Has n) ∨ w.Overflows cs ∨
      (¬∃ n, IntegerLiteral cs n) ∧ ¬w.Overflows cs := by
  by_cases literal : ∃ n, IntegerLiteral cs n
  · obtain ⟨n, literal⟩ := literal
    by_cases hn : w.Has n
    · exact .inl ⟨n, literal, hn⟩
    · exact .inr (.inl ⟨cs, n, List.prefix_rfl, literal, hn⟩)
  · by_cases overflows : w.Overflows cs
    · exact .inr (.inl overflows)
    · exact .inr (.inr ⟨literal, overflows⟩)

theorem eq_wrap_iff {host : HostValue} (hn : w.Has n) :
    host = w.wrap n ↔ host.kind? = some w.target ∧ host.integer? = some n := by
  have same : (w.wrap n).integer? = some n := by
    obtain ⟨low, high⟩ := hn
    have above : n < w.high + 1 := Int.lt_add_one_of_le high
    cases w with
    | byte => exact congrArg some (Int8.toInt_ofInt_of_le low above)
    | short => exact congrArg some (Int16.toInt_ofInt_of_le low above)
    | int => exact congrArg some (Int32.toInt_ofInt_of_le low above)
    | long => exact congrArg some (Int64.toInt_ofInt_of_le low above)
  constructor
  · rintro rfl
    exact ⟨by cases w <;> rfl, same⟩
  · rintro ⟨kind, number⟩
    cases w <;> cases host <;> cases kind <;> cases number
    · exact congrArg HostValue.byte (Int8.ofInt_toInt _).symm
    · exact congrArg HostValue.short (Int16.ofInt_toInt _).symm
    · exact congrArg HostValue.int (Int32.ofInt_toInt _).symm
    · exact congrArg HostValue.long (Int64.ofInt_toInt _).symm

end Width

namespace WireValue

variable {w : Width} {s : String} {n : Int}

theorem read_character_integer (ctx : ConversionContext) (w : Width) (s : String) :
    (character s).read ctx w.target = (integerLiteral w s).map w.wrap := by
  cases w <;> rfl

theorem read_of_literal (ctx : ConversionContext) (h : IntegerLiteral (trim s.toList) n)
    (hn : w.Has n) : (character s).read ctx w.target = .ok (w.wrap n) := by
  rw [read_character_integer, integerLiteral, Width.readInteger_of_literal h hn]
  rfl

theorem read_of_overflows (ctx : ConversionContext) (h : w.Overflows (trim s.toList)) :
    (character s).read ctx w.target = .error (.outOfRange w.target (.integerLiteral s)) := by
  rw [read_character_integer, integerLiteral, Width.readInteger_of_overflows h]
  rfl

theorem read_of_malformed (ctx : ConversionContext) (h : ¬∃ n, IntegerLiteral (trim s.toList) n)
    (ho : ¬w.Overflows (trim s.toList)) :
    ∃ fault, (character s).read ctx w.target = .error (.malformedLiteral w.target s fault) := by
  rw [read_character_integer, integerLiteral, Width.readInteger_of_malformed h ho]
  by_cases none : trim s.toList = []
  · exact ⟨.emptyInteger, by rw [if_pos none]; rfl⟩
  · exact ⟨.invalidDigit, by rw [if_neg none]; rfl⟩

/-- An integer is read exactly from its literals. A literal of a number outside the range is out of range,
and so is every text with such a literal at its front; all other texts are malformed. -/
theorem read_integer_literal (ctx : ConversionContext) (w : Width) (s : String) :
    (∀ host, (character s).read ctx w.target = .ok host ↔
      ∃ n, IntegerLiteral (trim s.toList) n ∧ w.Has n ∧
        host.kind? = some w.target ∧ host.integer? = some n) ∧
    ((character s).read ctx w.target = .error (.outOfRange w.target (.integerLiteral s)) ↔
      w.Overflows (trim s.toList)) ∧
    ((∃ fault, (character s).read ctx w.target = .error (.malformedLiteral w.target s fault)) ↔
      (¬∃ n, IntegerLiteral (trim s.toList) n) ∧ ¬w.Overflows (trim s.toList)) := by
  rcases w.readInteger_cases (trim s.toList) with ⟨n, literal, has⟩ | overflows | ⟨malformed, stays⟩
  · have stays := Width.not_overflows literal has
    rw [read_of_literal ctx literal has]
    refine ⟨fun host => ⟨fun same => ?_, ?_⟩, ⟨nofun, fun overflows => absurd overflows stays⟩,
      ⟨fun ⟨_, fails⟩ => (nomatch fails), fun ⟨malformed, _⟩ => absurd ⟨n, literal⟩ malformed⟩⟩
    · exact ⟨n, literal, has, (Width.eq_wrap_iff has).mp (Except.ok.inj same).symm⟩
    · rintro ⟨m, literal', has', value⟩
      rw [(Width.eq_wrap_iff has').mpr value, literal.unique literal']
  · rw [read_of_overflows ctx overflows]
    exact ⟨fun host => ⟨nofun, fun ⟨n, literal, has, _⟩ =>
        absurd overflows (Width.not_overflows literal has)⟩,
      ⟨fun _ => overflows, fun _ => rfl⟩,
      ⟨fun ⟨_, fails⟩ => (nomatch fails), fun ⟨_, stays⟩ => absurd overflows stays⟩⟩
  · obtain ⟨fault, fails⟩ := read_of_malformed ctx malformed stays
    rw [fails]
    exact ⟨fun host => ⟨nofun, fun ⟨n, literal, _⟩ => absurd ⟨n, literal⟩ malformed⟩,
      ⟨nofun, fun overflows => absurd overflows stays⟩,
      ⟨fun _ => ⟨malformed, stays⟩, fun _ => ⟨fault, rfl⟩⟩⟩

theorem read_integer_literal_front :
    ¬∀ (ctx : ConversionContext) (w : Width) (s : String), (¬∃ n, IntegerLiteral (trim s.toList) n) →
      ∃ fault, (character s).read ctx w.target = .error (.malformedLiteral w.target s fault) := by
  intro malformed
  have fails : (character "300x").read default .byte =
      .error (.outOfRange .byte (.integerLiteral "300x")) := rfl
  have noLiteral : ¬∃ n, IntegerLiteral (trim "300x".toList) n := by
    rintro ⟨n, literal⟩
    exact absurd (integerLiteral_iff.mp literal).1.2 (by decide)
  obtain ⟨fault, same⟩ := malformed default .byte "300x" noLiteral
  cases fails.symm.trans same

end WireValue

end SqlClient
