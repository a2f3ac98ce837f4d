import SqlClient.Proofs.Bindings

namespace SqlClient.Bindings

inductive Change where
  | bind (index : Nat) (value : HostValue) (declared : Option Atom)
  | clear
  | takeChanged
deriving DecidableEq, Repr

abbrev Change.Answer : Change → Type
  | bind .. => Except Error Unit
  | clear => Unit
  | takeChanged => Bool

def change (b : Bindings) : (c : Change) → c.Answer × Bindings
  | .bind index value declared => b.bind index value declared
  | .clear => ((), b.clear)
  | .takeChanged => b.takeChanged

def after (b : Bindings) (cs : List Change) : Bindings :=
  cs.foldl (fun b c => (b.change c).2) b

structure Alike (b b' : Bindings) : Prop where
  size : b.size = b'.size
  isEmpty : b.slots.isEmpty = b'.slots.isEmpty
  takeChanged : b.takeChanged.1 = b'.takeChanged.1
  placeholders : b.placeholders = b'.placeholders
  encode : ∀ ctx, b.encode ctx = b'.encode ctx

variable {b b' : Bindings} {n : Nat}

theorem Alike.refl (b : Bindings) : b.Alike b :=
  ⟨rfl, rfl, rfl, rfl, fun _ => rfl⟩

theorem size_grow (b : Bindings) (n : Nat) : (b.grow n).size = max b.size n := by
  simp only [size, grow, List.length_append, List.length_replicate]
  omega

theorem grow_grow (b : Bindings) (m n : Nat) : (b.grow m).grow n = b.grow (max m n) := by
  simp only [grow, List.length_append, List.length_replicate, List.append_assoc, List.replicate_append_replicate]
  congr 3
  omega

theorem grow_comm (b : Bindings) (m n : Nat) : (b.grow m).grow n = (b.grow n).grow m := by
  rw [grow_grow, grow_grow, Nat.max_comm]

theorem established_grow (b : Bindings) (n position : Nat) :
    (b.grow n).established position = b.established position := by
  simp only [established, grow, List.getElem?_append, List.getElem?_replicate]
  split
  next => rfl
  next h =>
    rw [List.getElem?_eq_none (Nat.le_of_not_lt h)]
    split <;> rfl

theorem clear_grow (b : Bindings) (n : Nat) : (b.grow n).clear = b.clear.grow n := by
  simp only [clear, grow, List.map_append, List.map_replicate, List.length_map, Option.map_none]

theorem bind_error {index : Nat} {value : HostValue} {declared : Option Atom} {e : Error}
    (fails : (b.bind index value declared).1 = .error e) :
    (b.bind index value declared).2 = b.grow index := by
  cases index with
  | zero => exact (grow_eq_of_le (Nat.zero_le _)).symm
  | succ position =>
    simp only [bind] at fails ⊢
    cases ht : (b.grow (position + 1)).typeFor position value declared with
    | none => rfl
    | some atom =>
      rw [ht] at fails
      cases fails

theorem bind_grow (b : Bindings) (n index : Nat) (value : HostValue) (declared : Option Atom) :
    (b.grow n).bind index value declared =
      ((b.bind index value declared).1, (b.bind index value declared).2.grow n) := by
  cases index with
  | zero => rfl
  | succ position =>
    have sameType : ((b.grow n).grow (position + 1)).typeFor position value declared =
        (b.grow (position + 1)).typeFor position value declared := by
      simp only [typeFor, established_grow]
    simp only [bind, sameType, established_grow]
    cases (b.grow (position + 1)).typeFor position value declared with
    | none => simp only [grow_comm b n]
    | some atom =>
      have room : position < (b.grow (position + 1)).slots.length := by
        have := b.size_grow (position + 1)
        simp only [size] at this
        omega
      rw [grow_comm, grow]
      simp only [grow, List.length_set] at room ⊢
      rw [List.set_append_left _ _ room]

theorem change_grow (b : Bindings) (n : Nat) (c : Change) :
    (b.grow n).change c = ((b.change c).1, (b.change c).2.grow n) := by
  cases c with
  | bind index value declared => exact b.bind_grow n index value declared
  | clear => exact Prod.ext rfl (b.clear_grow n)
  | takeChanged => rfl

theorem after_grow (b : Bindings) (n : Nat) (cs : List Change) :
    (b.grow n).after cs = (b.after cs).grow n := by
  -- on the changes, from whatever bindings they start
  induction cs generalizing b with
  | nil => rfl
  | cons c cs ih =>
    simp only [after, List.foldl_cons] at ih ⊢
    rw [change_grow, ih]

theorem alike_grow_iff : (b.grow n).Alike b ↔ n ≤ b.size := by
  constructor
  · intro alike
    have same := alike.size
    rw [size_grow] at same
    omega
  · intro h
    rw [grow_eq_of_le h]
    exact .refl b

theorem mapM_grow {β : Type} {f : Option Slot × Nat → Except Error β} {bs : List β}
    (hf : ∀ i, f (none, i) = .error (.parameter (.notSet (i + 1))))
    (complete : b.slots.zipIdx.mapM f = .ok bs) (h : b.size < n) :
    (b.grow n).slots.zipIdx.mapM f = .error (.parameter (.notSet (b.size + 1))) := by
  obtain ⟨k, hk⟩ : ∃ k, n - b.slots.length = k + 1 := ⟨n - b.slots.length - 1, by simp only [size] at h; omega⟩
  have unset : ((List.replicate (k + 1) none).zipIdx b.slots.length).mapM f =
      .error (.parameter (.notSet (b.size + 1))) := by
    rw [List.replicate_succ, List.zipIdx_cons, List.mapM_cons, hf]
    rfl
  rw [grow, hk, List.zipIdx_append, Nat.zero_add, List.mapM_append, complete, unset]
  rfl

theorem placeholders_grow {q : List Placeholder} (complete : b.placeholders = .ok q) (h : b.size < n) :
    (b.grow n).placeholders = .error (.parameter (.notSet (b.size + 1))) :=
  mapM_grow (fun _ => rfl) complete h

theorem encode_grow {ctx : ConversionContext} {parameters : List Parameter}
    (complete : b.encode ctx = .ok parameters) (h : b.size < n) :
    (b.grow n).encode ctx = .error (.parameter (.notSet (b.size + 1))) :=
  mapM_grow (fun _ => rfl) complete h

/-- After a bind that fails, whatever is done next is answered as without it, and from the moment on when
the bindings reach to its position nothing tells that it was tried. Up to then they are too long, and lack
a position even where they were complete. -/
theorem bind_error_alike_iff {index : Nat} {value : HostValue} {declared : Option Atom} {e : Error}
    (fails : (b.bind index value declared).1 = .error e) (cs : List Change) :
    (∀ c, (((b.bind index value declared).2.after cs).change c).1 = ((b.after cs).change c).1) ∧
      (((b.bind index value declared).2.after cs).Alike (b.after cs) ↔ index ≤ (b.after cs).size) ∧
      ((b.after cs).size < index →
        (∀ q, (b.after cs).placeholders = .ok q →
          ((b.bind index value declared).2.after cs).placeholders =
            .error (.parameter (.notSet ((b.after cs).size + 1)))) ∧
        ∀ ctx parameters, (b.after cs).encode ctx = .ok parameters →
          ((b.bind index value declared).2.after cs).encode ctx =
            .error (.parameter (.notSet ((b.after cs).size + 1)))) := by
  rw [bind_error fails, after_grow]
  refine ⟨fun c => ?_, alike_grow_iff, fun short => ⟨fun q complete => ?_, fun ctx parameters complete => ?_⟩⟩
  · rw [change_grow]
  · exact placeholders_grow complete short
  · exact encode_grow complete short

def oneBound : Bindings :=
  empty.after [.bind 1 (.int 1) none]

theorem bind_error_alike_second :
    ¬((oneBound.bind 2 .null none).2.after []).Alike (oneBound.after []) ∧
      ((oneBound.bind 2 .null none).2.after [.bind 2 (.int 2) none]).Alike
        (oneBound.after [.bind 2 (.int 2) none]) := by
  have fails : (oneBound.bind 2 .null none).1 = .error (.parameter (.nullWithoutType 2)) := rfl
  refine ⟨fun alike => ?_, ?_⟩
  · exact absurd ((bind_error_alike_iff fails []).2.1.mp alike) (by decide)
  · exact (bind_error_alike_iff fails [.bind 2 (.int 2) none]).2.1.mpr (by decide)

theorem bind_error_unsets_second :
    ¬∀ (cs : List Change) (index : Nat) (value : HostValue) (declared : Option Atom) (e : Error),
      ((empty.after cs).bind index value declared).1 = .error e → ∀ cs' : List Change,
        (((empty.after cs).bind index value declared).2.after cs').Alike ((empty.after cs).after cs') := by
  intro law
  have alike := law [.bind 1 (.int 1) none] 2 .null none _ rfl []
  have complete : oneBound.placeholders = .ok [⟨placeholderName 1, .int4⟩] := rfl
  have lacking : (oneBound.bind 2 .null none).2.placeholders = .error (.parameter (.notSet 2)) := rfl
  cases (lacking.symm.trans alike.placeholders).trans complete

end SqlClient.Bindings
