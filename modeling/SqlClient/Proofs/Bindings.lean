import SqlClient.Parameter.Bindings

namespace SqlClient

section MapM

variable {ε α β γ : Type} {f : α → Except ε β} {l : List α} {bs : List β}

theorem mapM_cons_eq_ok {a : α} (h : (a :: l).mapM f = .ok bs) :
    ∃ b bs', f a = .ok b ∧ l.mapM f = .ok bs' ∧ bs = b :: bs' := by
  rw [List.mapM_cons] at h
  cases hb : f a with
  | error e =>
    rw [hb] at h
    cases h
  | ok b =>
    cases hbs : l.mapM f with
    | error e =>
      rw [hb, hbs] at h
      cases h
    | ok bs' =>
      rw [hb, hbs] at h
      exact ⟨b, bs', rfl, rfl, (Except.ok.inj h).symm⟩

theorem mapM_eq_ok_of_imp {g : α → Except ε γ} {c : β → γ} (hg : ∀ a b, f a = .ok b → g a = .ok (c b))
    (h : l.mapM f = .ok bs) : l.mapM g = .ok (bs.map c) := by
  induction l generalizing bs with
  | nil =>
    cases h
    rfl
  | cons a l ih =>
    obtain ⟨b, bs', hb, hbs, rfl⟩ := mapM_cons_eq_ok h
    rw [List.mapM_cons, hg a b hb, ih hbs]
    rfl

end MapM

theorem HostValue.placeholder_of_encode {ctx : ConversionContext} {name : String} {v : HostValue}
    {atom : Atom} {p : Parameter} (h : v.encode ctx name (some atom) = .ok p) :
    p.placeholder = ⟨name, atom⟩ := by
  simp only [encode, Option.some_or] at h
  split at h
  · cases h
  · split at h
    · cases h
      rfl
    · cases hw : v.wireAs ctx atom with
      | error e =>
        rw [hw] at h
        cases h
      | ok wire =>
        rw [hw] at h
        cases h
        rfl

namespace Bindings

variable {b : Bindings} {q : List Placeholder}

def atoms (b : Bindings) : List (Option Atom) :=
  b.slots.map (Option.map Slot.atom)

theorem placeholders_of_encode {ctx : ConversionContext} {parameters : List Parameter}
    (h : b.encode ctx = .ok parameters) :
    b.placeholders = .ok (parameters.map Parameter.placeholder) := by
  refine mapM_eq_ok_of_imp ?_ h
  rintro ⟨slot, i⟩ p hp
  match slot, hp with
  | some ⟨atom, some value⟩, hp =>
    simp only [placeholderAt, HostValue.placeholder_of_encode hp]

theorem of_placeholders_from {slots : List (Option Slot)} {n : Nat}
    (h : (slots.zipIdx n).mapM placeholderAt = .ok q) :
    q.map Placeholder.name = (List.range' n q.length).map (fun i => placeholderName (i + 1)) ∧
      none ∉ slots := by
  induction slots generalizing n q with
  | nil =>
    cases h
    exact ⟨rfl, by simp⟩
  | cons slot slots ih =>
    rw [List.zipIdx_cons] at h
    obtain ⟨p, ps, hp, hps, rfl⟩ := mapM_cons_eq_ok h
    obtain ⟨names, set⟩ := ih hps
    cases slot with
    | none => cases hp
    | some slot =>
      cases hp
      refine ⟨?_, by simpa using set⟩
      simp only [List.map_cons, List.length_cons, List.range'_succ, names]

theorem names_of_placeholders (h : b.placeholders = .ok q) :
    q.map Placeholder.name = (List.range q.length).map fun i => placeholderName (i + 1) := by
  rw [List.range_eq_range']
  exact (of_placeholders_from h).1

theorem placeholderAt_congr {slot slot' : Option Slot} {n : Nat}
    (h : slot.map Slot.atom = slot'.map Slot.atom) :
    placeholderAt (slot, n) = placeholderAt (slot', n) := by
  cases slot with
  | none =>
    rw [Option.map_none, eq_comm, Option.map_eq_none_iff] at h
    rw [h]
  | some slot =>
    obtain ⟨slot', rfl, atom⟩ := Option.map_eq_some_iff.mp h.symm
    simp only [placeholderAt, atom]

theorem placeholders_congr_from {slots slots' : List (Option Slot)} {n : Nat}
    (h : slots.map (Option.map Slot.atom) = slots'.map (Option.map Slot.atom)) :
    (slots.zipIdx n).mapM placeholderAt = (slots'.zipIdx n).mapM placeholderAt := by
  induction slots generalizing slots' n with
  | nil =>
    rw [List.map_nil, eq_comm, List.map_eq_nil_iff] at h
    rw [h]
  | cons slot slots ih =>
    cases slots' with
    | nil => cases h
    | cons slot' slots' =>
      obtain ⟨first, rest⟩ := List.cons.inj h
      rw [List.zipIdx_cons, List.zipIdx_cons, List.mapM_cons, List.mapM_cons,
        placeholderAt_congr first, ih rest]

theorem placeholders_congr {b' : Bindings} (h : b.atoms = b'.atoms) :
    b.placeholders = b'.placeholders :=
  placeholders_congr_from h

theorem atoms_clear : b.clear.atoms = b.atoms := by
  simp only [atoms, clear, List.map_map]
  congr 1
  funext slot
  cases slot <;> rfl

theorem grow_eq_of_le {count : Nat} (h : count ≤ b.slots.length) : b.grow count = b := by
  simp only [grow, Nat.sub_eq_zero_of_le h, List.replicate_zero, List.append_nil]

theorem grow_eq_of_set {count : Nat} (h : none ∉ (b.grow count).slots) : b.grow count = b := by
  refine grow_eq_of_le (Nat.le_of_not_lt fun hlt => h ?_)
  exact List.mem_append.mpr (.inr (List.mem_replicate.mpr ⟨by omega, rfl⟩))

theorem grow_eq_of_established {position : Nat} {atom : Atom}
    (h : (b.grow (position + 1)).established position = some atom) : b.grow (position + 1) = b := by
  by_cases hp : position < b.slots.length
  · exact grow_eq_of_le hp
  · have new : (b.grow (position + 1)).slots[position]?.join = none := by
      simp only [grow, List.getElem?_append_right (Nat.le_of_not_lt hp), List.getElem?_replicate]
      split <;> rfl
    rw [established, new] at h
    cases h

theorem atoms_set {slots : List (Option Slot)} {position : Nat} {atom : Atom} {value : Option HostValue}
    (h : (slots[position]?.join).map Slot.atom = some atom) :
    (slots.set position (some ⟨atom, value⟩)).map (Option.map Slot.atom) =
      slots.map (Option.map Slot.atom) := by
  apply List.ext_getElem?
  intro i
  rw [List.getElem?_map, List.getElem?_map, List.getElem?_set]
  split
  next hi =>
    subst hi
    obtain ⟨slot, hslot, rfl⟩ := Option.map_eq_some_iff.mp h
    have bound := Option.join_eq_some_iff.mp hslot
    rw [bound, if_pos (List.getElem?_eq_some_iff.mp bound).1]
    rfl
  next => rfl

theorem atoms_bind {index : Nat} {value : HostValue} {declared : Option Atom}
    (hc : (b.bind index value declared).2.changed = false)
    (hq : (b.bind index value declared).2.placeholders = .ok q) :
    (b.bind index value declared).2.atoms = b.atoms ∧ b.changed = false := by
  cases index with
  | zero => exact ⟨rfl, hc⟩
  | succ position =>
    simp only [bind] at hc hq ⊢
    cases ht : (b.grow (position + 1)).typeFor position value declared with
    | none =>
      rw [ht] at hc hq
      have grown := grow_eq_of_set (of_placeholders_from hq).2
      dsimp only at hc ⊢
      rw [grown] at hc ⊢
      exact ⟨rfl, hc⟩
    | some atom =>
      rw [ht] at hc hq
      rw [Bool.or_eq_false_iff, bne_eq_false_iff_eq] at hc
      have grown := grow_eq_of_established hc.2
      dsimp only
      rw [grown] at hc ⊢
      exact ⟨atoms_set hc.2, hc.1⟩

end Bindings

end SqlClient
