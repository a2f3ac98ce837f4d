import SqlClient.Proofs.Executions
import SqlClient.Proofs.Ownership
import SqlClient.Proofs.PreparedExecutions

namespace SqlClient

open SqlClient.Action Relation Session

variable {ps : List PreparedId} {cs : List CursorId} {α : Type}

abbrev Opening {σ : Type} (kept : List PreparedId → List CursorId → σ → Prop) (x : Action σ α)
    (opens : α → Option Cursor) : Prop :=
  ∀ ps cs, Ensures (kept ps cs) x
    (fun a => kept ((opens a).elim [] Cursor.adHoc ++ ps) ((opens a).elim [] Cursor.results ++ cs))
    (kept ps cs)

namespace Statement

theorem sparing_withPrepared (st : Statement) (sql : String) {work : Prepared → Action Session α}
    (hw : ∀ prepared, Sparing (work prepared)) : Sparing (st.withPrepared sql work) := by
  intro ps cs
  refine (gaining_prepare _ sql []).bind fun prepared =>
    (hw prepared _ cs).attempt.bind fun outcome => ?_
  cases outcome with
  | ok a => exact (losing_dispose prepared).bind fun _ => ensures_pure fun _ owns => owns
  | error e => exact (losing_dispose prepared).bind fun _ => ensures_throw fun _ owns => owns

theorem sparing_ensureOpen (st : Statement) : Sparing st.ensureOpen :=
  sparing_of_moving st.moving_ensureOpen

theorem sparing_executeOnly (st : Statement) (tx : TransactionId) (prepared : Prepared) :
    Sparing (st.executeOnly tx prepared) := by
  intro ps cs
  unfold executeOnly
  split
  · exact ensures_throw fun _ owns => owns
  · exact sparing_execute _ tx prepared [] ps cs

theorem opening_executeQuery (st : Statement) (sql : String) :
    Opening Owns (st.executeQuery sql) some := by
  intro ps cs
  refine (st.sparing_ensureOpen ps cs).bind fun _ => (gaining_prepare _ sql []).bind fun prepared => ?_
  split
  · exact gaining_query _ prepared true []
  · exact (losing_dispose prepared).bind fun _ => ensures_throw fun _ owns => owns

theorem opening_executeUpdate (st : Statement) (sql : String) :
    Opening Owns (st.executeUpdate sql) fun _ => none := by
  intro ps cs
  refine (st.sparing_ensureOpen ps cs).bind fun _ => ?_
  exact sparing_inTransaction (fun tx => st.sparing_withPrepared sql (st.sparing_executeOnly tx)) ps cs

theorem opening_execute (st : Statement) (sql : String) :
    Opening Owns (st.execute sql) Outcome.cursor? := by
  intro ps cs
  refine (st.sparing_ensureOpen ps cs).bind fun _ => (gaining_prepare _ sql []).bind fun prepared => ?_
  split
  · exact (gaining_query _ prepared true []).bind fun c => ensures_pure fun _ owns => owns
  · have works := sparing_inTransaction fun tx => sparing_execute st.limits tx prepared []
    refine (works _ cs).attempt.bind fun outcome => ?_
    cases outcome with
    | ok count =>
      exact (losing_dispose prepared).bind fun _ =>
        Ensures.bind (Q := fun _ => Owns ps cs) (ensures_pure fun _ owns => owns) fun _ =>
          ensures_pure fun _ owns => owns
    | error e =>
      exact (losing_dispose prepared).bind fun _ => Ensures.bind (Q := fun _ _ => False)
        (ensures_throw fun _ owns => owns) fun _ _ never => never.elim

theorem opening_executeAll (st : Statement) (batch : List String) :
    Opening Owns (st.executeAll batch) fun _ => none := by
  intro ps cs
  refine (st.sparing_ensureOpen ps cs).bind fun _ => ?_
  split
  · exact ensures_pure fun _ owns => owns
  · have one (tx : TransactionId) (sql : String) := st.sparing_withPrepared sql fun prepared =>
      sparing_execute st.limits tx prepared []
    exact sparing_inTransaction (fun tx => sparing_mapM (one tx) batch) ps cs

theorem IsExecution.opening {early : Bool} {x : Action Session α} {opens : α → Option Cursor}
    (hx : IsExecution early x opens) : Opening Owns x opens := by
  cases hx with
  | query st sql => exact st.opening_executeQuery sql
  | update st sql => exact st.opening_executeUpdate sql
  | execute st sql => exact st.opening_execute sql
  | batch st batch => exact st.opening_executeAll batch

end Statement

namespace PreparedStatement

variable {closed : Bool} {remote : Option Prepared} {σ : PreparedStatement × Session}

def held (p : PreparedStatement) : List PreparedId :=
  p.remote.toList.map Prepared.id

def Bears (closed : Bool) (remote : Option Prepared) (ps : List PreparedId) (cs : List CursorId)
    (σ : PreparedStatement × Session) : Prop :=
  (σ.1.closed = closed ∧ σ.1.remote = remote) ∧ Owns ps cs σ.2

def Holds (ps : List PreparedId) (cs : List CursorId) (σ : PreparedStatement × Session) : Prop :=
  σ.1.closed = false ∧ Owns (σ.1.held ++ ps) cs σ.2

def Kept (ps : List PreparedId) (cs : List CursorId) (σ : PreparedStatement × Session) : Prop :=
  (σ.1.closed = true → σ.1.remote = none) ∧ Owns (σ.1.held ++ ps) cs σ.2

theorem Holds.kept (h : Holds ps cs σ) : Kept ps cs σ := by
  refine ⟨fun closed => ?_, h.2⟩
  cases h.1.symm.trans closed

theorem Bears.holds {ids : List PreparedId} (h : Bears false remote ids cs σ)
    (perm : ids.Perm (remote.toList.map Prepared.id ++ ps)) : Holds ps cs σ := by
  obtain ⟨⟨isOpen, rfl⟩, owns⟩ := h
  exact ⟨isOpen, owns.perm perm (.refl _)⟩

theorem ensures_sent (closed : Bool) (remote : Option Prepared) {ps' : List PreparedId}
    {cs' : List CursorId} {f : α → List PreparedId} {g : α → List CursorId} {x : Action Session α}
    (hx : Ensures (Owns ps cs) x (fun a => Owns (f a) (g a)) (Owns ps' cs')) :
    Ensures (Bears closed remote ps cs) (send x) (fun a => Bears closed remote (f a) (g a))
      (Bears closed remote ps' cs') := by
  rintro ⟨p, s⟩ ⟨same, owns⟩
  have ends := hx s owns
  rw [outcome_send, final_send]
  cases ho : x.outcome s with
  | ok a =>
    rw [ho] at ends
    exact ⟨same, ends⟩
  | error e =>
    rw [ho] at ends
    exact ⟨same, ends⟩

theorem holding_prepareNow (placeholders : List Placeholder) :
    Ensures (Bears false none ps cs)
      (do
        let p ← statement
        let prepared ← send (Session.prepare p.limits p.sql placeholders)
        change fun p => { p with remote := some prepared }
        return prepared)
      (fun _ => Holds ps cs) (Holds ps cs) := by
  refine ensures_statement.bind fun p => ?_
  have prepares := ensures_sent false none (@gaining_prepare ps cs p.limits p.sql placeholders)
  refine ((prepares.pre fun _ h => h.1).fails fun _ h => h.holds (.refl _)).bind fun prepared => ?_
  refine Ensures.bind (ensures_change (Q := Holds ps cs) ?_) fun _ => ensures_pure fun _ h => h
  rintro σ ⟨⟨isOpen, -⟩, owns⟩
  exact ⟨isOpen, owns⟩

theorem holding_prepareAgain :
    Ensures (Holds ps cs) prepareAgain (fun _ => Holds ps cs) (Holds ps cs) := by
  refine ensures_statement.bind fun _ => ?_
  refine (ensures_ofExcept (Q := fun _ => Holds ps cs) (fun _ _ _ h => h.1) fun _ _ _ h => h.1).bind
    fun placeholders => ensures_statement.bind fun p => ?_
  -- what was prepared before is forgotten first, and given back after that
  refine (ensures_change (Q := Bears false none (p.held ++ ps) cs) ?_).bind fun _ => ?_
  · rintro σ ⟨⟨isOpen, owns⟩, rfl⟩
    exact ⟨⟨isOpen, rfl⟩, owns⟩
  · dsimp only
    split
    next r stale =>
      have held : p.held = [r.id] := by rw [PreparedStatement.held, stale]; rfl
      rw [held]
      have disposes := ensures_sent false none (@losing_dispose ps cs r (Owns ps cs))
      exact (disposes.fails fun _ h => h.holds (.refl _)).bind fun _ => holding_prepareNow placeholders
    next stale =>
      have held : p.held = [] := by rw [PreparedStatement.held, stale]; rfl
      rw [held]
      exact holding_prepareNow placeholders

theorem holding_ensurePrepared :
    Ensures (Holds ps cs) ensurePrepared (fun _ => Holds ps cs) (Holds ps cs) := by
  refine ensures_statement.bind fun p => ?_
  dsimp only
  refine (ensures_change (Q := Holds ps cs) fun σ h => h.1).bind fun _ =>
    ensures_statement.bind fun p' => ?_
  split
  · split
    · exact holding_prepareAgain.pre fun _ h => h.1
    · exact ensures_pure fun _ h => h.1
  · exact holding_prepareAgain.pre fun _ h => h.1

theorem holding_ensureOpen : Ensures (Kept ps cs) ensureOpen (fun _ => Holds ps cs) (Kept ps cs) := by
  refine ensures_of_final_eq final_ensureOpen (fun a σ opens h => ⟨?_, h.2⟩) fun _ h => h
  by_contra closed
  rw [Bool.not_eq_false] at closed
  simp only [ensureOpen, statement, outcome_bind, outcome_get, final_get, outcome_pure, closed,
    ↓reduceIte, outcome_throw] at opens
  cases opens

theorem holding_ready : Ensures (Kept ps cs) ready (fun _ => Holds ps cs) (Kept ps cs) := by
  have bound : Ensures (Holds ps cs) boundParameters (fun _ => Holds ps cs) (Holds ps cs) :=
    ensures_get.bind fun _ => ensures_ofExcept (fun _ _ _ h => h.1) fun _ _ _ h => h.1
  refine holding_ensureOpen.bind fun _ => (bound.fails fun _ h => h.kept).bind fun parameters => ?_
  refine (holding_ensurePrepared.fails fun _ h => h.kept).bind fun prepared => ?_
  exact ensures_pure fun _ h => h

theorem holding_query (prepared : Prepared) (parameters : List Parameter) :
    Ensures (Holds ps cs) (query prepared parameters)
      (fun c => Holds (c.adHoc ++ ps) (c.results ++ cs)) (Holds ps cs) := by
  refine ensures_statement.bind fun p => ?_
  have queries := ensures_sent false p.remote
    (@gaining_query (p.held ++ ps) cs p.limits prepared false parameters)
  refine queries.imp ?_ (fun c σ h => h.holds ?_) fun σ h => h.holds (.refl _)
  · rintro σ ⟨⟨isOpen, owns⟩, rfl⟩
    exact ⟨⟨isOpen, rfl⟩, owns⟩
  · exact List.perm_append_comm_assoc _ _ _

theorem holding_send {x : PreparedStatement → Action Session α} (hx : ∀ p, Sparing (x p)) :
    Ensures (Holds ps cs) (do
      let p ← statement
      send (x p)) (fun _ => Holds ps cs) (Holds ps cs) := by
  refine ensures_statement.bind fun p => ?_
  have sends := ensures_sent false p.remote (hx p (p.held ++ ps) cs)
  refine sends.imp ?_ (fun _ _ h => h.holds (.refl _)) fun _ h => h.holds (.refl _)
  rintro σ ⟨⟨isOpen, owns⟩, rfl⟩
  exact ⟨⟨isOpen, rfl⟩, owns⟩

theorem holding_update (prepared : Prepared) (parameters : List Parameter) :
    Ensures (Holds ps cs) (update prepared parameters) (fun _ => Holds ps cs) (Holds ps cs) :=
  holding_send fun p => sparing_inTransaction fun tx => sparing_execute p.limits tx prepared parameters

theorem holding_executeAll (prepared : Prepared) (batch : List (List Parameter)) :
    Ensures (Holds ps cs) (executeAll prepared batch) (fun _ => Holds ps cs) (Holds ps cs) :=
  holding_send fun p => sparing_inTransaction fun tx =>
    sparing_mapM (fun parameters => sparing_execute p.limits tx prepared parameters) batch

theorem opening_executeQuery : Opening Kept executeQuery some := by
  intro ps cs
  refine holding_ready.bind fun r => ?_
  dsimp only
  split
  · exact (holding_query r.2 r.1).imp (fun _ h => h) (fun _ _ h => h.kept) fun _ h => h.kept
  · exact ensures_throw fun _ h => h.kept

theorem opening_executeUpdate : Opening Kept executeUpdate fun _ => none := by
  intro ps cs
  refine holding_ready.bind fun r => ?_
  dsimp only
  split
  · exact ensures_throw fun _ h => h.kept
  · exact (holding_update r.2 r.1).imp (fun _ h => h) (fun _ _ h => h.kept) fun _ h => h.kept

theorem opening_execute : Opening Kept execute Outcome.cursor? := by
  intro ps cs
  refine holding_ready.bind fun r => ?_
  dsimp only
  split
  · refine ((holding_query r.2 r.1).fails fun _ h => h.kept).bind fun c => ?_
    exact ensures_pure fun _ h => h.kept
  · refine ((holding_update r.2 r.1).fails fun _ h => h.kept).bind fun count => ?_
    exact ensures_pure fun _ h => h.kept

theorem opening_executeBatch : Opening Kept executeBatch fun _ => none := by
  intro ps cs
  refine holding_ensureOpen.bind fun _ => ensures_statement.bind fun p => ?_
  refine (ensures_change (Q := Holds ps cs) fun σ h => h.1).bind fun _ => ?_
  split
  · exact ensures_pure fun _ h => h.kept
  · refine (ensures_ofExcept (Q := fun _ => Holds ps cs) (fun _ _ _ h => h) fun _ _ _ h => h.kept).bind
      fun placeholders => ?_
    dsimp only
    split
    · exact Ensures.bind (Q := fun _ _ => False) (ensures_throw fun _ h => h.kept) fun _ _ never =>
        never.elim
    · refine (holding_ensurePrepared.fails fun _ h => h.kept).bind fun prepared => ?_
      exact (holding_executeAll prepared p.batch).imp (fun _ h => h) (fun _ _ h => h.kept)
        fun _ h => h.kept

theorem IsExecution.opening {x : Method α} {opens : α → Option Cursor} (hx : IsExecution x opens) :
    Opening Kept x opens := by
  cases hx with
  | query => exact opening_executeQuery
  | update => exact opening_executeUpdate
  | execute => exact opening_execute
  | batch => exact opening_executeBatch

theorem kept_close : Ensures (Kept ps cs) close (fun _ => Kept ps cs) (Kept ps cs) := by
  have closes {σ : PreparedStatement × Session} (h : Bears true none ps cs σ) : Kept ps cs σ := by
    obtain ⟨⟨-, remote⟩, owns⟩ := h
    refine ⟨fun _ => remote, ?_⟩
    rw [held, remote]
    exact owns
  refine ensures_statement.bind fun p => ?_
  split
  · exact ensures_pure fun _ h => h.1
  · refine (ensures_change (Q := Bears true none (p.held ++ ps) cs) ?_).bind fun _ => ?_
    · rintro σ ⟨⟨-, owns⟩, rfl⟩
      exact ⟨⟨rfl, rfl⟩, owns⟩
    · split
      next r remote =>
        have held : p.held = [r.id] := by rw [PreparedStatement.held, remote]; rfl
        rw [held]
        have disposes := ensures_sent true none (@losing_dispose ps cs r (Owns ps cs))
        exact disposes.imp (fun _ h => h) (fun _ _ h => closes h) fun _ h => closes h
      next remote =>
        have held : p.held = [] := by rw [PreparedStatement.held, remote]; rfl
        rw [held]
        exact ensures_pure fun _ h => closes h

end PreparedStatement

namespace Cursor

variable {c c' : Cursor} {s : Session} {σ σ' : Cursor × Session}

def Kept (ps : List PreparedId) (cs : List CursorId) (σ : Cursor × Session) : Prop :=
  Owns (σ.1.adHoc ++ ps) (σ.1.results ++ cs) σ.2

theorem kept_congr (h : Kept ps cs (c, s)) (resources : c'.resources = c.resources) :
    Kept ps cs (c', s) := by
  unfold Kept adHoc results at h ⊢
  rw [resources]
  exact h

theorem owns_release {r : CursorResources}
    (h : Owns (r.prepared.toList.map Prepared.id ++ ps) (r.result :: cs) s) :
    Owns ps cs ((release r).final s) := by
  unfold release
  cases hr : r.prepared with
  | none =>
    rw [hr] at h
    simp only [final_bind, outcome_pure, final_pure, outcome_attempt, final_attempt, final_both]
    exact h.closeCursor none
  | some prepared =>
    rw [hr] at h
    simp only [final_bind, outcome_attempt, final_attempt, final_both]
    exact (h.dispose none).closeCursor none

theorem kept_close (h : Kept ps cs (c, s)) : Kept ps cs (close.final (c, s)) := by
  rw [final_close]
  cases hr : c.resources with
  | none => exact h
  | some r =>
    simp only [Kept, adHoc, results, hr] at h
    have finishes := moving_finish controls_allots c.transaction ((release r).final s)
    exact (owns_release h).puts (puts_of_moves finishes)

theorem Turns.kept (turns : Turns σ σ') (h : Kept ps cs σ) : Kept ps cs σ' := by
  cases turns with
  | change _ resources => exact kept_congr h resources
  | @read r hr timeout =>
    have leaves : r.allots = false := by
      cases r <;> first | rfl | cases hr
    exact h.call leaves timeout
  | close => exact kept_close h
  | exhaust c s =>
    rw [final_exhaust]
    split
    · exact kept_close (kept_congr h rfl)
    · exact kept_congr h rfl

theorem IsMethod.kept {x : Method α} (hx : IsMethod x) (h : Kept ps cs (c, s)) :
    Kept ps cs (x.final (c, s)) := by
  have turn (σ σ' : Cursor × Session) (turns : Turns σ σ') (hσ : Kept ps cs σ) : Kept ps cs σ' :=
    turns.kept hσ
  exact hx.turning.keeps turn h

end Cursor

end SqlClient
