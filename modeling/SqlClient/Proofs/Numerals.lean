import SqlClient.Proofs.IntegerLiterals

namespace SqlClient

open Text

attribute [local instance (high)] instPowNat

variable {c : Char} {cs ds rest : List Char} {n width : Nat}

structure Denotes (ds : List Char) (n : Nat) : Prop where
  isNumeral : IsNumeral ds
  value : ofDigits ds = n

namespace Text

theorem isDigit_eq (c : Char) : isDigit c = c.isDigit := by
  simp only [isDigit, digit?, Char.isDigit, ge_iff_le]
  split
  next h => simpa [Char.le_def] using h
  next h => simpa [Char.le_def] using h

theorem digit?_getD (h : isDigit c = true) : (digit? c).getD 0 = c.toNat - '0'.toNat := by
  simp only [isDigit, digit?] at h ⊢
  split
  next => rfl
  next none => rw [if_neg none] at h; cases h

theorem ofDigits_eq (h : ds.all isDigit = true) : ofDigits ds = Nat.ofDigitChars 10 ds 0 := by
  have from_any (n : Nat) : ds.foldl (fun n c => n * 10 + (digit? c).getD 0) n =
      Nat.ofDigitChars 10 ds n := by
    induction ds generalizing n with
    | nil => rfl
    | cons c ds ih =>
      obtain ⟨digit, digits⟩ := Bool.and_eq_true_iff.mp h
      rw [List.foldl_cons, ih digits, Nat.ofDigitChars_cons, digit?_getD digit, Nat.mul_comm]
  exact from_any 0

theorem denotes_digits (n : Nat) : Denotes (digits n) n := by
  have all : (digits n).all isDigit = true := by
    rw [List.all_eq_true]
    intro c hc
    rw [isDigit_eq]
    exact Nat.isDigit_of_mem_toDigits (by decide) (by decide) hc
  refine ⟨⟨Nat.toDigits_ne_nil, all⟩, ?_⟩
  rw [ofDigits_eq all, digits, Nat.ofDigitChars_ten_toDigits]

theorem length_digits_le_iff (h : 0 < width) : (digits n).length ≤ width ↔ n < 10 ^ width :=
  Nat.length_toDigits_le_iff (by decide) h

theorem denotes_padLeft (h : Denotes ds n) (width : Nat) : Denotes (padLeft width ds) n := by
  obtain ⟨⟨some, digits⟩, value⟩ := h
  have zeros (k : Nat) : (List.replicate k '0').all isDigit = true := by
    rw [List.all_replicate]
    split <;> rfl
  refine ⟨⟨?_, ?_⟩, ?_⟩
  · simp [padLeft, some]
  · rw [padLeft, List.all_append, zeros, digits]
    rfl
  · rw [padLeft, ofDigits_append, ofDigits_eq (zeros _), Nat.ofDigitChars_replicate_zero, value,
      Nat.mul_zero, Nat.zero_mul, Nat.zero_add]

theorem length_padLeft (h : ds.length ≤ width) : (padLeft width ds).length = width := by
  rw [padLeft, List.length_append, List.length_replicate]
  omega

theorem denotes_padded (width n : Nat) : Denotes (padLeft width (digits n)) n :=
  denotes_padLeft (denotes_digits n) width

theorem length_padded (h : 0 < width) (hn : n < 10 ^ width) :
    (padLeft width (digits n)).length = width :=
  length_padLeft ((length_digits_le_iff h).mpr hn)

theorem denotes_twoDigits (n : Nat) : Denotes (twoDigits n) n :=
  denotes_padded 2 n

theorem length_twoDigits (h : n < 100) : (twoDigits n).length = 2 :=
  length_padded (by decide) h

def EndsNumeral (rest : List Char) : Prop :=
  ∀ c ∈ rest.head?, isDigit c = false

theorem takeWhile_digits (h : ds.all isDigit = true) (hr : EndsNumeral rest) :
    (ds ++ rest).takeWhile isDigit = ds := by
  rw [List.takeWhile_append_of_pos (List.all_eq_true.mp h)]
  cases rest with
  | nil => simp
  | cons c rest => simp [hr c rfl]

theorem takeNumber_append (h : Denotes ds n) (hr : EndsNumeral rest) :
    takeNumber none (ds ++ rest) = some (n, rest) := by
  have run := takeWhile_digits h.isNumeral.2 hr
  simp only [takeNumber, run, List.isEmpty_iff, if_neg h.isNumeral.1, h.value, List.drop_left]

theorem takeNumber_full (h : Denotes ds n) (rest : List Char) :
    takeNumber (some ds.length) (ds ++ rest) = some (n, rest) := by
  have taken : ((ds ++ rest).takeWhile isDigit).take ds.length = ds := by
    rw [List.takeWhile_append_of_pos (List.all_eq_true.mp h.isNumeral.2), List.take_left]
  simp only [takeNumber, taken, List.isEmpty_iff, if_neg h.isNumeral.1, h.value, List.drop_left]

def Unblank (cs : List Char) : Prop :=
  ∀ c ∈ cs, isBlank c = false

instance (cs : List Char) : Decidable (Unblank cs) :=
  List.decidableBAll _ cs

theorem isBlank_of_isDigit (h : isDigit c = true) : isBlank c = false := by
  have range : 48 ≤ c.toNat ∧ c.toNat ≤ 57 := by
    rw [isDigit_eq, Char.isDigit, Bool.and_eq_true, decide_eq_true_eq, decide_eq_true_eq] at h
    exact ⟨UInt32.le_iff_toNat_le.mp h.1, UInt32.le_iff_toNat_le.mp h.2⟩
  simp only [isBlank, Bool.or_eq_false_iff, Bool.and_eq_false_iff, decide_eq_false_iff_not,
    beq_eq_false_iff_ne]
  omega

theorem unblank_nil : Unblank [] :=
  nofun

theorem unblank_cons (hc : isBlank c = false) (h : Unblank cs) : Unblank (c :: cs) :=
  List.forall_mem_cons.mpr ⟨hc, h⟩

theorem unblank_append (h : Unblank cs) (hr : Unblank rest) : Unblank (cs ++ rest) :=
  List.forall_mem_append.mpr ⟨h, hr⟩

theorem unblank_of_isNumeral (h : IsNumeral ds) : Unblank ds :=
  fun c hc => isBlank_of_isDigit (List.all_eq_true.mp h.2 c hc)

theorem skipBlanks_of_unblank (h : Unblank cs) (hn : cs ≠ []) (rest : List Char) :
    skipBlanks (cs ++ rest) = cs ++ rest := by
  obtain ⟨c, cs, rfl⟩ := List.exists_cons_of_ne_nil hn
  exact skipBlanks_of_head fun d hd => by cases hd; exact h c (by simp)

theorem trim_of_unblank (h : Unblank cs) : trim cs = cs :=
  trim_of_ends (fun c hc => h c (List.mem_of_mem_head? hc)) fun c hc => h c (List.mem_of_getLast? hc)

theorem skipBlanks_append {before : List Char} (h : before.all isBlank = true) (rest : List Char) :
    skipBlanks (before ++ rest) = skipBlanks rest :=
  List.dropWhile_append_of_pos (List.all_eq_true.mp h)

theorem trim_append {before after : List Char} (hb : before.all isBlank = true)
    (ha : after.all isBlank = true) (h : Unblank cs) : trim (before ++ cs ++ after) = cs := by
  rw [trim, List.append_assoc, skipBlanks_append hb]
  by_cases empty : cs = []
  · have gone := skipBlanks_append ha []
    rw [List.append_nil] at gone
    rw [empty, List.nil_append, gone]
    rfl
  · have turned : Unblank cs.reverse := fun c hc => h c (List.mem_reverse.mp hc)
    have front := skipBlanks_of_unblank turned (by simpa using empty) []
    rw [List.append_nil] at front
    have blank : after.reverse.all isBlank = true := by rw [List.all_reverse, ha]
    rw [skipBlanks_of_unblank h empty, trimEnd, List.reverse_append, skipBlanks_append blank, front,
      List.reverse_reverse]

end Text

end SqlClient
