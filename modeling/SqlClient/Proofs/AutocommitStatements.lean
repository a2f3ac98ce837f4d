import Mathlib.Data.List.Basic
import SqlClient.Proofs.AutocommitWork
import SqlClient.Proofs.PreparedExecutions

namespace SqlClient

open SqlClient.Action Relation Session

namespace Session

theorem ensures_query (s₀ : Session) (limits : StatementLimits) (prepared : Prepared)
    (owned : Bool) (parameters : List Parameter) :
    Ensures (Idle s₀) (query limits prepared owned parameters) (fun _ _ => True) (Spent s₀) := by
  have gives {K : Session → Prop} {β : Type} {x : Action Session β}
      (aside : ∀ s, K s → K ((call (.dispose prepared.id) none).final s))
      (hx : Ensures K x (fun _ _ => True) (Spent s₀)) :
      Ensures K (if owned then dispose prepared >>= fun _ => x else x) (fun _ _ => True)
        (Spent s₀) := by
    split
    · exact (ensures_dispose prepared aside).bind fun _ => hx
    · exact hx
  refine ensures_getOrBegin.attempt.bind fun begun => ?_
  cases begun with
  | error e =>
    exact gives (fun s h => h.calm (calm_aside none s rfl)) (ensures_throw fun _ h => h)
  | ok tx =>
    have queries : Ensures (Inside s₀ tx []) (call (.query tx prepared.id parameters) limits.timeout)
        (fun _ _ => True) (Failing s₀ tx) := by
      intro s inside
      have after := inside.asked limits.timeout (r := .query tx prepared.id parameters) (.inr rfl)
      split
      · trivial
      · exact ⟨_, after⟩
    refine queries.attempt.bind fun opened => ?_
    cases opened with
    | ok result => exact ensures_get.bind fun _ => ensures_pure fun _ _ => trivial
    | error e =>
      refine gives (fun s h => ?_) ((ensures_abortAfter e).bind fun _ => ensures_throw fun _ h => h)
      obtain ⟨w, inside⟩ := h
      exact ⟨w, inside.aside none rfl⟩

end Session

namespace Statement

variable {α : Type} {s₀ : Session} {tx : TransactionId} {w : List Write}

theorem ensures_ensureOpen (st : Statement) {P E : Session → Prop} (h : ∀ s, P s → E s) :
    Ensures P st.ensureOpen (fun _ => P) E :=
  ensures_of_final_eq st.final_ensureOpen (fun _ _ _ hs => hs) h

theorem ensures_withPrepared (st : Statement) (sql : String) {work : Prepared → Action Session α}
    (hw : ∀ prepared, Ensures (fun s => Inside s₀ tx w s ∧ s.server.Names prepared.id sql)
      (work prepared) (fun _ => Inside s₀ tx (w ++ (Sql.write? sql []).toList)) (Failing s₀ tx)) :
    Ensures (Inside s₀ tx w) (st.withPrepared sql work)
      (fun _ => Inside s₀ tx (w ++ (Sql.write? sql []).toList)) (Failing s₀ tx) := by
  have prepares := ensures_prepare (K := Inside s₀ tx w) (E := Failing s₀ tx) st.limits sql []
    (fun s h => h.aside st.limits.timeout rfl) fun s h => ⟨w, h⟩
  refine prepares.bind fun prepared => (hw prepared).attempt.bind fun outcome => ?_
  cases outcome with
  | ok a =>
    exact (ensures_dispose prepared fun s h => h.aside none rfl).bind fun _ =>
      ensures_pure fun _ h => h
  | error e =>
    refine (ensures_dispose prepared fun s h => ?_).bind fun _ => ensures_throw fun _ h => h
    obtain ⟨w, inside⟩ := h
    exact ⟨w, inside.aside none rfl⟩

theorem ensures_executeOnly (st : Statement) (sql : String) (prepared : Prepared) :
    Ensures (fun s => Inside s₀ tx w s ∧ s.server.Names prepared.id sql) (st.executeOnly tx prepared)
      (fun _ => Inside s₀ tx (w ++ (Sql.write? sql []).toList)) (Failing s₀ tx) := by
  unfold executeOnly
  split
  · exact ensures_throw fun _ h => ⟨w, h.1⟩
  · exact (ensures_execute st.limits prepared []).post fun _ _ h => h.1

theorem ensures_executeUpdate (st : Statement) (sql : String) :
    Ensures (Idle s₀) (st.executeUpdate sql) (fun _ => Done s₀ (Sql.write? sql []).toList)
      (Spent s₀) := by
  refine (st.ensures_ensureOpen fun _ h => h.spent).bind fun _ => ?_
  have stages (tx : TransactionId) : Ensures (Inside s₀ tx [])
      (st.withPrepared sql (st.executeOnly tx))
      (fun _ => Inside s₀ tx (Sql.write? sql []).toList) (Failing s₀ tx) := by
    have one := @ensures_withPrepared _ s₀ tx [] st sql _ (st.ensures_executeOnly sql)
    rwa [List.nil_append] at one
  exact ensures_inTransaction ensures_getOrBegin stages

theorem ensures_execute (st : Statement) (sql : String) :
    Ensures (Idle s₀) (st.execute sql)
      (fun outcome s => ∀ count, outcome = .updated count → Done s₀ (Sql.write? sql []).toList s)
      (Spent s₀) := by
  have prepares := ensures_prepare (K := Idle s₀) (E := Spent s₀) st.limits sql []
    (fun s h => h.aside st.limits.timeout rfl) fun s h => h.spent
  refine (st.ensures_ensureOpen fun _ h => h.spent).bind fun _ => prepares.bind fun prepared => ?_
  split
  · have queries := ensures_query s₀ st.limits prepared true []
    refine (queries.pre fun _ h => h.1).bind fun c => ensures_pure ?_
    rintro s - count ⟨⟩
  · have works := ensures_executes s₀ st.limits prepared sql []
    refine works.attempt.bind fun outcome => ?_
    cases outcome with
    | ok count =>
      refine (ensures_dispose prepared fun s h => h.calm (calm_aside none s rfl)).bind fun _ => ?_
      exact Ensures.bind (Q := fun _ => Done s₀ (Sql.write? sql []).toList)
        (ensures_pure fun s h => h) fun _ => ensures_pure fun s h _ _ => h
    | error e =>
      refine (ensures_dispose prepared fun s h => h.calm (calm_aside none s rfl)).bind fun _ => ?_
      exact ensures_throw fun s h => h

theorem ensures_executeAll (st : Statement) (batch : List String) :
    Ensures (fun s => s = s₀ ∧ Idle s₀ s) (st.executeAll batch)
      (fun _ s => Done s₀ (batch.filterMap (Sql.write? · [])) s ∨ batch = [] ∧ s = s₀) (Spent s₀) := by
  refine (st.ensures_ensureOpen fun _ h => h.2.spent).bind fun _ => ?_
  split
  next empty => exact ensures_pure fun s h => .inr ⟨List.isEmpty_iff.mp empty, h.1⟩
  · have one (tx : TransactionId) (sql : String) (w : List Write) : Ensures (Inside s₀ tx w)
        (st.withPrepared sql fun prepared => Session.execute st.limits tx prepared [])
        (fun _ => Inside s₀ tx (w ++ (Sql.write? sql []).toList)) (Failing s₀ tx) :=
      st.ensures_withPrepared sql fun prepared =>
        (Session.ensures_execute st.limits prepared []).post fun _ _ h => h.1
    have stages (tx : TransactionId) :=
      ensures_mapM (J := Inside s₀ tx) (l := batch) (fun sql _ w => one tx sql w) []
    simp only [List.nil_append, ← List.filterMap_eq_flatMap_toList] at stages
    have works := ensures_inTransaction ensures_getOrBegin stages
    exact (works.pre fun _ h => h.2).post fun _ _ h => .inl h

theorem ensures_executeBatch (st : Statement) :
    Ensures (fun σ => σ = (st, s₀) ∧ Idle s₀ s₀) executeBatch
      (fun _ σ => Done s₀ (st.batch.filterMap (Sql.write? · [])) σ.2 ∨ st.batch = [] ∧ σ.2 = s₀)
      (fun σ => Spent s₀ σ.2) := by
  rintro _ ⟨rfl, idle⟩
  rw [outcome_executeBatch, final_executeBatch]
  exact st.ensures_executeAll st.batch s₀ ⟨rfl, idle⟩

end Statement

namespace PreparedStatement

variable {α : Type} {s₀ : Session} {p : PreparedStatement} {P E : Session → Prop}
  {Q : α → Session → Prop}

theorem ensures_send {x : Action Session α} (hx : Ensures P x Q E) :
    Ensures (fun σ => P σ.2) (send x) (fun a σ => Q a σ.2) (fun σ => E σ.2) := by
  rintro ⟨p, s⟩ hs
  rw [outcome_send, final_send]
  exact hx s hs

theorem InOrder.names {σ : PreparedStatement × Session} (h : InOrder σ) {id : PreparedId}
    {q : List Placeholder} (stands : Stands σ.1.sql σ.1.sent id q) :
    σ.2.server.Names id σ.1.sql := by
  obtain ⟨prepared, rfl, sent⟩ := stands.prepared
  exact h.2 _ _ prepared (h.1.known _ sent)

def Readying (s₀ : Session) (p : PreparedStatement) (σ : PreparedStatement × Session) : Prop :=
  σ.1.sql = p.sql ∧ Idle s₀ σ.2

theorem Readying.move {σ σ' : PreparedStatement × Session} (h : Readying s₀ p σ)
    (move : Moves (fun r => r.isAside) σ σ') : Readying s₀ p σ' := by
  obtain ⟨sql, idle⟩ := h
  cases move with
  | change s same => exact ⟨same.trans sql, idle⟩
  | send hx =>
    rw [final_send]
    exact ⟨sql, idle.run (hx _)⟩

def writes (p : PreparedStatement) (settings : ConversionSettings) : List Write :=
  match p.bindings.encode (.ofSettings settings) with
  | .ok parameters => (Sql.write? p.sql parameters).toList
  | .error _ => []

theorem parameters_of_ready {r : List Parameter × Prepared}
    (h : ready.outcome (p, s₀) = .ok r) :
    p.bindings.encode (.ofSettings s₀.conversion) = .ok r.1 := by
  rw [ready, outcome_bind, final_ensureOpen] at h
  cases opened : ensureOpen.outcome (p, s₀) with
  | error e =>
    rw [opened] at h
    cases h
  | ok _ =>
    rw [opened] at h
    simp only [boundParameters, outcome_bind, outcome_get, final_get, outcome_ofExcept] at h
    cases encoded : p.bindings.encode (.ofSettings s₀.conversion) with
    | error e =>
      rw [encoded] at h
      cases h
    | ok parameters =>
      rw [encoded] at h
      dsimp only at h
      split at h
      · cases h
        rfl
      · cases h

structure Begins (s₀ : Session) (p : PreparedStatement) (σ : PreparedStatement × Session) : Prop where
  same : σ = (p, s₀)
  inOrder : InOrder σ
  idle : Idle s₀ s₀

theorem moving_readyAside : Moving (fun r => r.isAside) ready :=
  moving_ready (fun _ _ => rfl) fun _ => rfl

theorem ensures_bound :
    Ensures (Begins s₀ p) ready
      (fun r σ => (Idle s₀ σ.2 ∧ σ.2.server.Names r.2.id p.sql) ∧
        p.writes s₀.conversion = (Sql.write? p.sql r.1).toList) (fun σ => Spent s₀ σ.2) := by
  rintro _ ⟨rfl, inOrder, idle⟩
  have readies := ensures_ready.along (I := Readying s₀ p) moving_readyAside fun _ _ move h => h.move move
  have ends := readies (p, s₀) ⟨inOrder, rfl, idle⟩
  cases ho : ready.outcome (p, s₀) with
  | error e =>
    rw [ho] at ends
    exact ends.2.2.spent
  | ok r =>
    rw [ho] at ends
    obtain ⟨⟨inOrder, fits⟩, sql, idle⟩ := ends
    have named := inOrder.names fits.stands
    have sql : (ready.final (p, s₀)).1.sql = p.sql := sql
    rw [sql] at named
    refine ⟨⟨idle, named⟩, ?_⟩
    rw [writes, parameters_of_ready ho]

theorem ensures_update (prepared : Prepared) (sql : String) (parameters : List Parameter) :
    Ensures (fun σ => Idle s₀ σ.2 ∧ σ.2.server.Names prepared.id sql) (update prepared parameters)
      (fun _ σ => Done s₀ (Sql.write? sql parameters).toList σ.2) (fun σ => Spent s₀ σ.2) := by
  refine ensures_statement.bind fun p => ?_
  exact (ensures_send (ensures_executes s₀ p.limits prepared sql parameters)).pre fun _ h => h.1

theorem ensures_updateBound (r : List Parameter × Prepared) :
    Ensures (fun σ => (Idle s₀ σ.2 ∧ σ.2.server.Names r.2.id p.sql) ∧
        p.writes s₀.conversion = (Sql.write? p.sql r.1).toList) (update r.2 r.1)
      (fun _ σ => Done s₀ (p.writes s₀.conversion) σ.2) (fun σ => Spent s₀ σ.2) := by
  rintro σ ⟨ready, same⟩
  rw [same]
  exact ensures_update r.2 p.sql r.1 σ ready

theorem ensures_executeUpdate :
    Ensures (Begins s₀ p) executeUpdate (fun _ σ => Done s₀ (p.writes s₀.conversion) σ.2)
      (fun σ => Spent s₀ σ.2) := by
  refine ensures_bound.bind fun r => ?_
  dsimp only
  split
  · exact ensures_throw fun _ h => h.1.1.spent
  · exact ensures_updateBound r

theorem ensures_execute :
    Ensures (Begins s₀ p) execute
      (fun outcome σ => ∀ count, outcome = .updated count → Done s₀ (p.writes s₀.conversion) σ.2)
      (fun σ => Spent s₀ σ.2) := by
  refine ensures_bound.bind fun r => ?_
  dsimp only
  split
  · have queries (p : PreparedStatement) :=
      ensures_send (ensures_query s₀ p.limits r.2 false r.1)
    refine Ensures.bind (Q := fun _ _ => True) ?_ fun c => ensures_pure ?_
    · exact ensures_statement.bind fun p => (queries p).pre fun _ h => h.1.1.1
    · rintro σ - count ⟨⟩
  · exact (ensures_updateBound r).bind fun count => ensures_pure fun σ h _ _ => h

theorem ensures_executeAll (prepared : Prepared) (sql : String) (batch : List (List Parameter)) :
    Ensures (fun σ => Idle s₀ σ.2 ∧ σ.2.server.Names prepared.id sql) (executeAll prepared batch)
      (fun _ σ => Done s₀ (batch.filterMap (Sql.write? sql)) σ.2) (fun σ => Spent s₀ σ.2) := by
  refine ensures_statement.bind fun p => ?_
  have stages (tx : TransactionId) :=
    ensures_mapM (J := fun w s => Inside s₀ tx w s ∧ s.server.Names prepared.id sql) (l := batch)
      (fun parameters _ _ => Session.ensures_execute p.limits prepared parameters) []
  simp only [List.nil_append, ← List.filterMap_eq_flatMap_toList] at stages
  have works := ensures_inTransaction (ensures_getOrBegin_named prepared.id sql) fun tx =>
    (stages tx).post fun _ _ h => h.1
  exact (ensures_send works).pre fun _ h => h.1

def Emptied (s₀ : Session) (p : PreparedStatement) (σ : PreparedStatement × Session) : Prop :=
  (InOrder σ ∧ σ.1.bindings.placeholders = p.bindings.placeholders) ∧ Readying s₀ p σ ∧ σ.2 = s₀ ∧
    ∀ parameters ∈ p.batch, p.batchPlaceholders = some (parameters.map Parameter.placeholder)

theorem ensures_executeBatch :
    Ensures (Begins s₀ p) executeBatch
      (fun _ σ => Done s₀ (p.batch.filterMap (Sql.write? p.sql)) σ.2 ∨ p.batch = [] ∧ σ.2 = s₀)
      (fun σ => Spent s₀ σ.2) := by
  have opens : Ensures (Begins s₀ p) ensureOpen (fun _ => Begins s₀ p) (fun σ => Spent s₀ σ.2) := by
    refine ensures_of_final_eq final_ensureOpen (fun _ _ _ h => h) fun σ h => ?_
    rw [h.same]
    exact h.idle.spent
  refine opens.bind fun _ => ensures_statement_of_eq (fun σ h => congrArg Prod.fst h.same) ?_
  refine Ensures.bind (ensures_change (Q := Emptied s₀ p) ?_) fun _ => ?_
  · rintro _ ⟨rfl, inOrder, idle⟩
    have emptied : InOrder (p.clearBatch, s₀) :=
      ⟨{ inOrder.1 with queued := fun _ h => by cases h }, inOrder.2⟩
    exact ⟨⟨emptied, rfl⟩, ⟨rfl, idle⟩, rfl, inOrder.1.queued⟩
  · split
    next idle =>
      -- without noted placeholders the queue was empty
      refine ensures_pure fun σ h => .inr ⟨List.eq_nil_iff_forall_not_mem.mpr fun entry he => ?_, h.2.2.1⟩
      cases idle.symm.trans (h.2.2.2 entry he)
    next =>
      have prepares (q : List Placeholder) :=
        (ensures_ensurePrepared q).along (I := Readying s₀ p)
          (moving_ensurePrepared (fun _ _ => rfl) fun _ => rfl) fun _ _ move h => h.move move
      refine (ensures_ofExcept (Q := fun q σ =>
        (InOrder σ ∧ σ.1.bindings.placeholders = .ok q) ∧ Readying s₀ p σ) ?_ ?_).bind fun q => ?_
      · exact fun q σ hq h => ⟨⟨h.1.1, h.1.2.trans hq⟩, h.2.1⟩
      · exact fun _ σ _ h => h.2.1.2.spent
      · dsimp only
        split
        · exact fun σ h => h.2.2.spent
        · refine Ensures.bind (Q := fun r σ => Idle s₀ σ.2 ∧ σ.2.server.Names r.id p.sql) ?_ fun r =>
            (ensures_executeAll r p.sql p.batch).post fun _ _ h => .inl h
          intro σ hσ
          have ends := prepares q σ hσ
          split at ends
          · obtain ⟨⟨inOrder, stands⟩, sql, idle⟩ := ends
            exact ⟨idle, sql ▸ inOrder.names stands⟩
          · exact ends.2.2.spent

end PreparedStatement

end SqlClient
