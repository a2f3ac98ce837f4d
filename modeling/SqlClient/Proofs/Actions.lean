import Mathlib.Logic.Relation
import SqlClient.Session.State

namespace SqlClient.Action

open Relation

variable {σ τ υ α β : Type}

def outcome (x : Action σ α) (s : σ) : Except Error α :=
  match x s with
  | .ok a _ => .ok a
  | .error e _ => .error e

def final (x : Action σ α) (s : σ) : σ :=
  match x s with
  | .ok _ t => t
  | .error _ t => t

theorem outcome_bind (x : Action σ α) (f : α → Action σ β) (s : σ) :
    (x >>= f).outcome s =
      match x.outcome s with
      | .ok a => (f a).outcome (x.final s)
      | .error e => .error e := by
  simp only [outcome, final, bind, EStateM.bind]
  cases x s <;> rfl

theorem final_bind (x : Action σ α) (f : α → Action σ β) (s : σ) :
    (x >>= f).final s =
      match x.outcome s with
      | .ok a => (f a).final (x.final s)
      | .error _ => x.final s := by
  simp only [outcome, final, bind, EStateM.bind]
  cases x s <;> rfl

theorem outcome_map (f : α → β) (x : Action σ α) (s : σ) :
    (f <$> x).outcome s = (x.outcome s).map f := by
  rw [map_eq_pure_bind, outcome_bind]
  cases x.outcome s <;> rfl

@[simp]
theorem final_map (f : α → β) (x : Action σ α) (s : σ) : (f <$> x).final s = x.final s := by
  rw [map_eq_pure_bind, final_bind]
  cases x.outcome s <;> rfl

@[simp]
theorem outcome_pure (a : α) (s : σ) : (pure a : Action σ α).outcome s = .ok a :=
  rfl

@[simp]
theorem final_pure (a : α) (s : σ) : (pure a : Action σ α).final s = s :=
  rfl

@[simp]
theorem outcome_throw (e : Error) (s : σ) : (throw e : Action σ α).outcome s = .error e :=
  rfl

@[simp]
theorem final_throw (e : Error) (s : σ) : (throw e : Action σ α).final s = s :=
  rfl

@[simp]
theorem outcome_get (s : σ) : (get : Action σ σ).outcome s = .ok s :=
  rfl

@[simp]
theorem final_get (s : σ) : (get : Action σ σ).final s = s :=
  rfl

@[simp]
theorem outcome_set (s t : σ) : (set t : Action σ PUnit).outcome s = .ok () :=
  rfl

@[simp]
theorem final_set (s t : σ) : (set t : Action σ PUnit).final s = t :=
  rfl

@[simp]
theorem outcome_modify (f : σ → σ) (s : σ) : (modify f : Action σ PUnit).outcome s = .ok () :=
  rfl

@[simp]
theorem final_modify (f : σ → σ) (s : σ) : (modify f : Action σ PUnit).final s = f s :=
  rfl

@[simp]
theorem outcome_attempt (x : Action σ α) (s : σ) : x.attempt.outcome s = .ok (x.outcome s) := by
  simp only [outcome, attempt]
  cases x s <;> rfl

@[simp]
theorem final_attempt (x : Action σ α) (s : σ) : x.attempt.final s = x.final s := by
  simp only [final, attempt]
  cases x s <;> rfl

@[simp]
theorem outcome_bestEffort (x : Action σ Unit) (s : σ) : x.bestEffort.outcome s = .ok () := by
  rw [bestEffort, outcome_bind, outcome_attempt]
  rfl

@[simp]
theorem final_bestEffort (x : Action σ Unit) (s : σ) : x.bestEffort.final s = x.final s := by
  simp only [bestEffort, final_bind, outcome_attempt, final_attempt, final_pure]

@[simp]
theorem outcome_ofExcept (e : Except Error α) (s : σ) : (ofExcept e : Action σ α).outcome s = e := by
  cases e <;> rfl

@[simp]
theorem final_ofExcept (e : Except Error α) (s : σ) : (ofExcept e : Action σ α).final s = s := by
  cases e <;> rfl

@[simp]
theorem final_both (first second : Except Error Unit) (s : σ) :
    (both first second : Action σ Unit).final s = s := by
  cases first <;> cases second <;> rfl

theorem outcome_zoom (view : σ → τ) (place : σ → τ → σ) (x : Action τ α) (s : σ) :
    (x.zoom view place).outcome s = x.outcome (view s) := by
  simp only [outcome, zoom]
  cases x (view s) <;> rfl

theorem final_zoom (view : σ → τ) (place : σ → τ → σ) (x : Action τ α) (s : σ) :
    (x.zoom view place).final s = place s (x.final (view s)) := by
  simp only [final, zoom]
  cases x (view s) <;> rfl

@[simp]
theorem outcome_onSecond {ο : Type} (x : Action σ α) (s : ο × σ) :
    (onSecond x).outcome s = x.outcome s.2 :=
  outcome_zoom _ _ x s

@[simp]
theorem final_onSecond {ο : Type} (x : Action σ α) (s : ο × σ) :
    (onSecond x).final s = (s.1, x.final s.2) :=
  final_zoom _ _ x s

/-- Wherever an action starts and however it ends, the part of the state that `view` shows goes through
steps of `R` only. -/
def Follows (R : τ → τ → Prop) (view : σ → τ) (x : Action σ α) : Prop :=
  ∀ s, ReflTransGen R (view s) (view (x.final s))

section Follows

variable {R : τ → τ → Prop} {view : σ → τ}

theorem follows_of_final_eq {x : Action σ α} (h : ∀ s, view (x.final s) = view s) :
    x.Follows R view := by
  intro s
  rw [h s]

theorem follows_pure (a : α) : (pure a : Action σ α).Follows R view :=
  fun _ => .refl

theorem follows_throw (e : Error) : (throw e : Action σ α).Follows R view :=
  fun _ => .refl

theorem follows_throw_bind (e : Error) (f : α → Action σ β) :
    (throw e >>= f).Follows R view :=
  fun _ => .refl

theorem follows_get : (get : Action σ σ).Follows R view :=
  fun _ => .refl

theorem follows_ofExcept (e : Except Error α) : (ofExcept e : Action σ α).Follows R view :=
  follows_of_final_eq fun s => by rw [final_ofExcept]

theorem follows_both (first second : Except Error Unit) :
    (both first second : Action σ Unit).Follows R view :=
  follows_of_final_eq fun s => by rw [final_both]

theorem reaches_bind {s : σ} {x : Action σ α} {f : α → Action σ β}
    (hx : ReflTransGen R (view s) (view (x.final s))) (hf : ∀ a, (f a).Follows R view) :
    ReflTransGen R (view s) (view ((x >>= f).final s)) := by
  rw [final_bind]
  cases x.outcome s with
  | ok a => exact hx.trans (hf a _)
  | error e => exact hx

theorem Follows.bind {x : Action σ α} {f : α → Action σ β} (hx : x.Follows R view)
    (hf : ∀ a, (f a).Follows R view) : (x >>= f).Follows R view :=
  fun s => reaches_bind (hx s) hf

theorem Follows.attempt {x : Action σ α} (hx : x.Follows R view) : x.attempt.Follows R view := by
  intro s
  rw [final_attempt]
  exact hx s

theorem Follows.bestEffort {x : Action σ Unit} (hx : x.Follows R view) :
    x.bestEffort.Follows R view := by
  intro s
  rw [final_bestEffort]
  exact hx s

theorem Follows.zoom {part : υ → τ} {look : σ → υ} {place : σ → υ → σ} {x : Action υ α}
    (hx : x.Follows R part) (hl : ∀ s, part (look s) = view s)
    (hp : ∀ s u, view (place s u) = part u) : (x.zoom look place).Follows R view := by
  intro s
  rw [final_zoom, hp, ← hl]
  exact hx _

theorem Follows.onSecond {ο : Type} {x : Action σ α} (hx : x.Follows R view) :
    (onSecond x : Action (ο × σ) α).Follows R (fun s => view s.2) :=
  hx.zoom (fun _ => rfl) fun _ _ => rfl

theorem follows_mapM {ι : Type} {f : ι → Action σ α} {l : List ι}
    (hf : ∀ i ∈ l, (f i).Follows R view) : (l.mapM f).Follows R view := by
  induction l with
  | nil => exact follows_pure _
  | cons i l ih =>
    rw [List.mapM_cons]
    have rest := ih fun j hj => hf j (List.mem_cons_of_mem i hj)
    exact (hf i List.mem_cons_self).bind fun a => rest.bind fun as => follows_pure _

end Follows

theorem Follows.keeps {R : τ → τ → Prop} {view : σ → τ} {x : Action σ α} (hx : x.Follows R view)
    {I : τ → Prop} (step : ∀ s t, R s t → I s → I t) {s : σ} (hs : I (view s)) :
    I (view (x.final s)) := by
  have run := hx s
  generalize view s = u, view (x.final s) = v at run hs
  induction run with
  | refl => exact hs
  | tail _ last ih => exact step _ _ last ih

/-- From a state in `P` an action ends with `Q` of its answer and of the state, or it fails in a state
in `E`. -/
def Ensures (P : σ → Prop) (x : Action σ α) (Q : α → σ → Prop) (E : σ → Prop) : Prop :=
  ∀ s, P s → match x.outcome s with
    | .ok a => Q a (x.final s)
    | .error _ => E (x.final s)

section Ensures

variable {P P' : σ → Prop} {Q Q' : α → σ → Prop} {R : β → σ → Prop} {E : σ → Prop}

theorem Ensures.bind {x : Action σ α} {f : α → Action σ β} (hx : Ensures P x Q E)
    (hf : ∀ a, Ensures (Q a) (f a) R E) : Ensures P (x >>= f) R E := by
  intro s hs
  have first := hx s hs
  rw [outcome_bind, final_bind]
  cases h : x.outcome s with
  | error e =>
    rw [h] at first
    exact first
  | ok a =>
    rw [h] at first
    exact hf a _ first

theorem Ensures.imp {x : Action σ α} (hx : Ensures P x Q E) {E' : σ → Prop} (hp : ∀ s, P' s → P s)
    (hq : ∀ a s, Q a s → Q' a s) (he : ∀ s, E s → E' s) : Ensures P' x Q' E' := by
  intro s hs
  have ends := hx s (hp s hs)
  cases h : x.outcome s with
  | error e =>
    rw [h] at ends
    exact he _ ends
  | ok a =>
    rw [h] at ends
    exact hq a _ ends

theorem Ensures.pre {x : Action σ α} (hx : Ensures P x Q E) (hp : ∀ s, P' s → P s) :
    Ensures P' x Q E :=
  hx.imp hp (fun _ _ h => h) fun _ h => h

theorem Ensures.post {x : Action σ α} (hx : Ensures P x Q E) (hq : ∀ a s, Q a s → Q' a s) :
    Ensures P x Q' E :=
  hx.imp (fun _ h => h) hq fun _ h => h

theorem Ensures.fails {x : Action σ α} (hx : Ensures P x Q E) {E' : σ → Prop}
    (he : ∀ s, E s → E' s) : Ensures P x Q E' :=
  hx.imp (fun _ h => h) (fun _ _ h => h) he

theorem ensures_pure {a : α} (h : ∀ s, P s → Q a s) : Ensures P (pure a) Q E :=
  fun s hs => h s hs

theorem ensures_throw {e : Error} (h : ∀ s, P s → E s) : Ensures P (throw e : Action σ α) Q E :=
  fun s hs => h s hs

theorem ensures_get : Ensures P (get : Action σ σ) (fun a s => P s ∧ s = a) E :=
  fun _ hs => ⟨hs, rfl⟩

theorem ensures_modify {f : σ → σ} {Q : PUnit → σ → Prop} (h : ∀ s, P s → Q () (f s)) :
    Ensures P (modify f) Q E :=
  fun s hs => h s hs

theorem ensures_ofExcept {e : Except Error α} (ok : ∀ a s, e = .ok a → P s → Q a s)
    (error : ∀ e' s, e = .error e' → P s → E s) : Ensures P (ofExcept e) Q E := by
  intro s hs
  rw [outcome_ofExcept, final_ofExcept]
  cases h : e with
  | error e' => exact error e' s h hs
  | ok a => exact ok a s h hs

theorem ensures_of_final_eq {x : Action σ α} (h : ∀ s, x.final s = s)
    (ok : ∀ a s, x.outcome s = .ok a → P s → Q a s) (error : ∀ s, P s → E s) : Ensures P x Q E := by
  intro s hs
  rw [h s]
  cases ho : x.outcome s with
  | error e => exact error s hs
  | ok a => exact ok a s ho hs

theorem Ensures.of_kept {x : Action σ α} (h : Ensures P x (fun _ => E) E) {s : σ} (hs : P s) :
    E (x.final s) := by
  have ends := h s hs
  cases ho : x.outcome s with
  | error e =>
    rw [ho] at ends
    exact ends
  | ok a =>
    rw [ho] at ends
    exact ends

theorem Ensures.attempt {x : Action σ α} (hx : Ensures P x Q E) {E' : σ → Prop} :
    Ensures P x.attempt (fun o s => match o with
      | .ok a => Q a s
      | .error _ => E s) E' := by
  intro s hs
  rw [outcome_attempt, final_attempt]
  exact hx s hs

theorem Ensures.along {x : Action σ α} {S : τ → τ → Prop} {view : σ → τ} {I : τ → Prop}
    (hx : Ensures P x Q E) (steps : x.Follows S view) (keep : ∀ s t, S s t → I s → I t) :
    Ensures (fun s => P s ∧ I (view s)) x (fun a s => Q a s ∧ I (view s))
      (fun s => E s ∧ I (view s)) := by
  rintro s ⟨hp, hi⟩
  have kept := steps.keeps keep hi
  have ends := hx s hp
  cases ho : x.outcome s with
  | error e =>
    rw [ho] at ends
    exact ⟨ends, kept⟩
  | ok a =>
    rw [ho] at ends
    exact ⟨ends, kept⟩

theorem ensures_mapM {ι γ : Type} {f : ι → Action σ α} {J : List γ → σ → Prop} {g : ι → List γ}
    {l : List ι} (hf : ∀ i ∈ l, ∀ w, Ensures (J w) (f i) (fun _ => J (w ++ g i)) E) (w : List γ) :
    Ensures (J w) (l.mapM f) (fun _ => J (w ++ l.flatMap g)) E := by
  -- on the list, for whatever the actions before have added
  induction l generalizing w with
  | nil =>
    rw [List.flatMap_nil, List.append_nil]
    exact ensures_pure fun _ h => h
  | cons i l ih =>
    rw [List.mapM_cons, List.flatMap_cons, ← List.append_assoc]
    have rest := ih (fun j hj => hf j (List.mem_cons_of_mem i hj)) (w ++ g i)
    exact (hf i List.mem_cons_self w).bind fun _ => rest.bind fun _ => ensures_pure fun _ h => h

theorem Ensures.zoom {x : Action σ α} {look : υ → σ} {place : υ → σ → υ} {P' : υ → Prop}
    {Q' : α → υ → Prop} {E' : υ → Prop} (hx : Ensures P x Q E) (hp : ∀ s, P' s → P (look s))
    (hq : ∀ a s t, Q a t → Q' a (place s t)) (he : ∀ s t, E t → E' (place s t)) :
    Ensures P' (x.zoom look place) Q' E' := by
  intro s hs
  have ends := hx (look s) (hp s hs)
  rw [outcome_zoom, final_zoom]
  cases ho : x.outcome (look s) with
  | error e =>
    rw [ho] at ends
    exact he s _ ends
  | ok a =>
    rw [ho] at ends
    exact hq a s _ ends

end Ensures

def FailsWith (F : Error → Prop) (x : Action σ α) : Prop :=
  ∀ s e, x.outcome s = .error e → F e

section FailsWith

variable {F : Error → Prop}

theorem failsWith_pure (a : α) : (pure a : Action σ α).FailsWith F :=
  fun _ _ h => nomatch h

theorem failsWith_throw {e : Error} (h : F e) : (throw e : Action σ α).FailsWith F := by
  rintro s _ ⟨⟩
  exact h

theorem failsWith_get : (get : Action σ σ).FailsWith F :=
  fun _ _ h => nomatch h

theorem failsWith_modify (f : σ → σ) : (modify f : Action σ PUnit).FailsWith F :=
  fun _ _ h => nomatch h

theorem failsWith_ofExcept {r : Except Error α} (h : ∀ e, r = .error e → F e) :
    (ofExcept r : Action σ α).FailsWith F := by
  intro s e he
  rw [outcome_ofExcept] at he
  exact h e he

theorem FailsWith.bind {x : Action σ α} {f : α → Action σ β} (hx : x.FailsWith F)
    (hf : ∀ a, (f a).FailsWith F) : (x >>= f).FailsWith F := by
  intro s e he
  rw [outcome_bind] at he
  cases h : x.outcome s with
  | ok a =>
    rw [h] at he
    exact hf a _ e he
  | error e' =>
    rw [h] at he
    cases he
    exact hx s e h

theorem failsWith_bestEffort (x : Action σ Unit) : x.bestEffort.FailsWith F := by
  intro s e he
  rw [outcome_bestEffort] at he
  cases he

theorem FailsWith.zoom {view : σ → τ} {place : σ → τ → σ} {x : Action τ α} (hx : x.FailsWith F) :
    (x.zoom view place).FailsWith F := by
  intro s e he
  rw [outcome_zoom] at he
  exact hx _ e he

theorem failsWith_mapM {ι : Type} {f : ι → Action σ α} {l : List ι} (hf : ∀ i ∈ l, (f i).FailsWith F) :
    (l.mapM f).FailsWith F := by
  induction l with
  | nil => exact failsWith_pure _
  | cons i l ih =>
    rw [List.mapM_cons]
    have rest := ih fun j hj => hf j (List.mem_cons_of_mem i hj)
    exact (hf i List.mem_cons_self).bind fun a => rest.bind fun as => failsWith_pure _

end FailsWith

def Agree (x y : Action σ α) (s : σ) : Prop :=
  x.outcome s = y.outcome s ∧ x.final s = y.final s

section Agree

variable {s : σ} {x y z : Action σ α}

theorem Agree.bind {f g : α → Action σ β} (h : x.Agree y s)
    (rest : ∀ a, x.outcome s = .ok a → (f a).Agree (g a) (x.final s)) :
    (x >>= f).Agree (y >>= g) s := by
  obtain ⟨outcome, final⟩ := h
  simp only [Agree, outcome_bind, final_bind, ← outcome, ← final]
  cases answered : x.outcome s with
  | error e => exact ⟨rfl, rfl⟩
  | ok a => exact rest a answered

theorem Agree.symm (h : x.Agree y s) : y.Agree x s :=
  ⟨h.1.symm, h.2.symm⟩

theorem Agree.trans (h : x.Agree y s) (h' : y.Agree z s) : x.Agree z s :=
  ⟨h.1.trans h'.1, h.2.trans h'.2⟩

end Agree

def Refused (x : Action σ α) (s : σ) : Prop :=
  (∃ what, x.outcome s = .error (.closed what)) ∧ x.final s = s

theorem Refused.bind {x : Action σ α} {s : σ} (hx : x.Refused s) (f : α → Action σ β) :
    (x >>= f).Refused s := by
  obtain ⟨⟨what, fails⟩, same⟩ := hx
  rw [Refused, outcome_bind, final_bind, fails]
  exact ⟨⟨what, rfl⟩, same⟩

theorem Refused.zoom {view : σ → τ} {place : σ → τ → σ} {x : Action τ α} {s : σ}
    (hx : x.Refused (view s)) (hp : place s (view s) = s) : (x.zoom view place).Refused s := by
  obtain ⟨fails, same⟩ := hx
  refine ⟨?_, ?_⟩
  · rw [outcome_zoom]
    exact fails
  · rw [final_zoom, same, hp]

end SqlClient.Action
