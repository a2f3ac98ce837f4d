import SqlClient.Proofs.FailedBinds
import SqlClient.Proofs.RoundTrips

namespace SqlClient.Bindings

inductive Use where
  | change (c : Change)
  | placeholders
  | encode (ctx : ConversionContext)

def use (b : Bindings) : Use → Bindings
  | .change c => (b.change c).2
  | .placeholders | .encode _ => b

def run (b : Bindings) (us : List Use) : Bindings :=
  us.foldl use b

def typeAt (b : Bindings) : (index : Nat) → Option Atom
  | 0 => none
  | position + 1 => b.established position

def Retypes (b : Bindings) : Use → Prop
  | .change (.bind index value declared) =>
    (b.bind index value declared).1 = .ok () ∧
      (b.bind index value declared).2.typeAt index ≠ b.typeAt index
  | _ => False

variable {b : Bindings} {index j : Nat} {value : HostValue} {declared : Option Atom} {us : List Use}
  {u : Use} {q q' : List Placeholder}

theorem run_append (b : Bindings) (us vs : List Use) : b.run (us ++ vs) = (b.run us).run vs :=
  List.foldl_append

theorem typeAt_grow (b : Bindings) (n j : Nat) : (b.grow n).typeAt j = b.typeAt j := by
  cases j with
  | zero => rfl
  | succ position => exact b.established_grow n position

theorem typeAt_clear (b : Bindings) (j : Nat) : b.clear.typeAt j = b.typeAt j := by
  cases j with
  | zero => rfl
  | succ position =>
    simp only [typeAt, established, clear, List.getElem?_map]
    cases b.slots[position]? with
    | none => rfl
    | some slot => cases slot <;> rfl

theorem bind_ok (h : (b.bind index value declared).1 = .ok ()) :
    ∃ position atom, index = position + 1 ∧ b.typeFor position value declared = some atom ∧
      (b.bind index value declared).2 =
        { slots := (b.grow index).slots.set position (some ⟨atom, some value⟩)
          changed := b.changed || b.typeAt index != some atom } := by
  cases index with
  | zero => cases h
  | succ position =>
    have sameType : (b.grow (position + 1)).typeFor position value declared =
        b.typeFor position value declared := by
      simp only [typeFor, established_grow]
    simp only [bind, sameType] at h ⊢
    cases ht : b.typeFor position value declared with
    | none =>
      rw [ht] at h
      cases h
    | some atom =>
      refine ⟨position, atom, rfl, ht, ?_⟩
      simp only [established_grow]
      rfl

theorem bind_of_typeFor {position : Nat} {atom : Atom} (h : b.typeFor position value declared = some atom) :
    (b.bind (position + 1) value declared).1 = .ok () ∧
      (b.bind (position + 1) value declared).2.slots[position]? = some (some ⟨atom, some value⟩) := by
  have room : position < (b.grow (position + 1)).slots.length := by
    have := b.size_grow (position + 1)
    simp only [size] at this
    omega
  have typed : (b.grow (position + 1)).typeFor position value declared = some atom := by
    rw [← h]
    simp only [typeFor, established_grow]
  simp only [bind, typed]
  exact ⟨trivial, List.getElem?_set_self room⟩

theorem bind_typed (positive : 0 < index) (typed : declared ≠ none ∨ value ≠ .null) :
    (b.bind index value declared).1 = .ok () ∧ ∃ atom, declared.or value.atom? = some atom ∧
      (b.bind index value declared).2.slots[index - 1]? = some (some ⟨atom, some value⟩) := by
  obtain ⟨position, rfl⟩ := Nat.exists_eq_succ_of_ne_zero (Nat.ne_of_gt positive)
  obtain ⟨atom, given, typeFor⟩ : ∃ atom, declared.or value.atom? = some atom ∧
      b.typeFor position value declared = some atom := by
    cases declared with
    | some atom =>
      refine ⟨atom, rfl, ?_⟩
      unfold typeFor
      split <;> rfl
    | none =>
      have present : value ≠ .null := typed.resolve_left fun given => given rfl
      obtain ⟨atom, inferred⟩ := HostValue.exists_atom present
      refine ⟨atom, inferred, ?_⟩
      rw [typeFor, if_neg present]
      exact inferred
  obtain ⟨succeeds, fills⟩ := bind_of_typeFor typeFor
  exact ⟨succeeds, atom, given, fills⟩

theorem typeAt_bind_self (h : (b.bind index value declared).1 = .ok ()) :
    (b.bind index value declared).2.typeAt index =
      declared.or (if value = .null then b.typeAt index else value.atom?) := by
  obtain ⟨position, atom, rfl, typed, -⟩ := bind_ok h
  rw [typeAt, established, (bind_of_typeFor typed).2]
  change some atom = _
  rw [← typed, typeFor]
  split <;> rfl

theorem typeAt_bind_of_ne (h : j ≠ index) (b : Bindings) (value : HostValue) (declared : Option Atom) :
    (b.bind index value declared).2.typeAt j = b.typeAt j := by
  cases answered : (b.bind index value declared).1 with
  | error e => rw [bind_error answered, typeAt_grow]
  | ok _ =>
    obtain ⟨position, atom, rfl, -, bound⟩ := bind_ok answered
    rw [bound]
    cases j with
    | zero => rfl
    | succ other =>
      have elsewhere : position ≠ other := fun same => h (congrArg Nat.succ same.symm)
      rw [typeAt, established, List.getElem?_set_ne elsewhere]
      exact b.typeAt_grow (position + 1) (other + 1)

theorem typeAt_use (b : Bindings) (u : Use) (j : Nat)
    (h : ∀ value declared, u = .change (.bind j value declared) → (b.bind j value declared).1 ≠ .ok ()) :
    (b.use u).typeAt j = b.typeAt j := by
  cases u with
  | placeholders | encode => rfl
  | change c =>
    cases c with
    | clear => exact b.typeAt_clear j
    | takeChanged => cases j <;> rfl
    | bind index value declared =>
      by_cases here : j = index
      · subst here
        cases answered : (b.bind j value declared).1 with
        | error e =>
          change (b.bind j value declared).2.typeAt j = b.typeAt j
          rw [bind_error answered, typeAt_grow]
        | ok _ => exact absurd answered (h value declared rfl)
      · exact typeAt_bind_of_ne here b value declared

theorem changed_bind (h : (b.bind index value declared).1 = .ok ()) :
    (b.bind index value declared).2.changed =
      (b.changed || (b.bind index value declared).2.typeAt index != b.typeAt index) := by
  have given := typeAt_bind_self h
  obtain ⟨position, atom, rfl, typed, bound⟩ := bind_ok h
  have same : (b.bind (position + 1) value declared).2.typeAt (position + 1) = some atom := by
    rw [given, ← typed, typeFor]
    split <;> rfl
  rw [same, bound, bne_comm]

theorem changed_use_iff (b : Bindings) (u : Use) :
    (b.use u).changed = true ↔ (b.changed = true ∧ u ≠ .change .takeChanged) ∨ b.Retypes u := by
  cases u with
  | placeholders | encode => simp [use, Retypes]
  | change c =>
    cases c with
    | clear => simp [use, change, clear, Retypes]
    | takeChanged => simp [use, change, takeChanged, Retypes]
    | bind index value declared =>
      change (b.bind index value declared).2.changed = true ↔ _
      cases answered : (b.bind index value declared).1 with
      | error e => simp [bind_error answered, grow, Retypes, answered]
      | ok _ =>
        rw [changed_bind answered]
        simp [Retypes, answered]

theorem changed_run_iff (b : Bindings) (us : List Use) :
    (b.run us).changed = true ↔
      (b.changed = true ∧ .change .takeChanged ∉ us) ∨
        ∃ before u rest, us = before ++ u :: rest ∧ .change .takeChanged ∉ rest ∧
          (b.run before).Retypes u := by
  induction us generalizing b with
  | nil => simp [run]
  | cons u us ih =>
    change ((b.use u).run us).changed = true ↔ _
    rw [ih, changed_use_iff, List.mem_cons, not_or]
    constructor
    · rintro (⟨⟨up, kept⟩ | retypes, untaken⟩ | ⟨before, v, rest, rfl, untaken, retypes⟩)
      · exact .inl ⟨up, Ne.symm kept, untaken⟩
      · exact .inr ⟨[], u, us, rfl, untaken, retypes⟩
      · exact .inr ⟨u :: before, v, rest, rfl, untaken, retypes⟩
    · rintro (⟨up, kept, untaken⟩ | ⟨before, v, rest, split, untaken, retypes⟩)
      · exact .inl ⟨.inl ⟨up, Ne.symm kept⟩, untaken⟩
      · rcases List.cons_eq_append_iff.mp split with ⟨rfl, first⟩ | ⟨before, rfl, rfl⟩
        · cases first
          exact .inl ⟨.inr retypes, untaken⟩
        · exact .inr ⟨before, v, rest, rfl, untaken, retypes⟩

theorem atoms_use (down : (b.use u).changed = false) (kept : u ≠ .change .takeChanged)
    (complete : (b.use u).placeholders = .ok q) : (b.use u).atoms = b.atoms ∧ b.changed = false := by
  cases u with
  | placeholders | encode => exact ⟨rfl, down⟩
  | change c =>
    cases c with
    | bind index value declared => exact atoms_bind down complete
    | clear => exact ⟨atoms_clear, down⟩
    | takeChanged => exact absurd rfl kept

theorem atoms_run (down : (b.run us).changed = false) (untaken : .change .takeChanged ∉ us)
    (complete : (b.run us).placeholders = .ok q) : (b.run us).atoms = b.atoms ∧ b.changed = false := by
  -- from the end, since a bind that fails leaves a position open which only a later one can fill
  induction us generalizing b with
  | nil => exact ⟨rfl, down⟩
  | cons u us ih =>
    rw [List.mem_cons, not_or] at untaken
    obtain ⟨same, downBefore⟩ := ih (b := b.use u) down untaken.2 complete
    have completeBefore : (b.use u).placeholders = .ok q := placeholders_congr same ▸ complete
    obtain ⟨sameFirst, downFirst⟩ := atoms_use downBefore (Ne.symm untaken.1) completeBefore
    exact ⟨same.trans sameFirst, downFirst⟩

structure Exact (us : List Use) (b : Bindings) : Prop where
  taken : b.takeChanged.1 = true ↔ ∃ before u rest,
    us = before ++ u :: rest ∧ .change .takeChanged ∉ rest ∧ (empty.run before).Retypes u
  untouched : b.takeChanged.1 = false → ∀ before rest, us = before ++ .change .takeChanged :: rest →
    .change .takeChanged ∉ rest → ∀ q q', (empty.run before).placeholders = .ok q →
      b.placeholders = .ok q' → q = q'
  typed : ∀ index value declared, (b.bind index value declared).1 = .ok () →
    (b.bind index value declared).2.typeAt index =
      declared.or (if value = .null then b.typeAt index else value.atom?)
  kept : ∀ u j, (∀ value declared, u = .change (.bind j value declared) →
    (b.bind j value declared).1 ≠ .ok ()) → (b.use u).typeAt j = b.typeAt j
  placeholders : ∀ ctx parameters, b.encode ctx = .ok parameters →
    b.placeholders = .ok (parameters.map Parameter.placeholder)

theorem exact_run (us : List Use) : Exact us (empty.run us) where
  taken := by
    have flag := empty.changed_run_iff us
    exact flag.trans (or_iff_right fun up => Bool.false_ne_true up.1)
  untouched := by
    rintro down before rest rfl untaken q q' complete complete'
    rw [run_append] at down complete'
    have same := (atoms_run (b := (empty.run before).takeChanged.2) down untaken complete').1
    have taken : (empty.run before).takeChanged.2.placeholders = (empty.run before).placeholders := rfl
    rw [← taken, ← placeholders_congr same] at complete
    exact Except.ok.inj (complete.symm.trans complete')
  typed _ _ _ h := typeAt_bind_self h
  kept u j h := typeAt_use _ u j h
  placeholders _ _ h := placeholders_of_encode h

example : (empty.run [.change (.bind 1 (.int 1) none), .change .takeChanged,
    .change (.bind 1 (.int 1) (some .int8)), .change (.bind 1 (.int 2) (some .int4))]).takeChanged.1 = true :=
  rfl

end SqlClient.Bindings
