import SqlClient.Proofs.Executions
import SqlClient.Proofs.Runs

namespace SqlClient

open SqlClient.Action Relation Session

namespace Session

variable {α β ι : Type} {kind : Request → Prop} {s t : Session} {tx : TransactionId}

theorem returnsRows_of_asks (h : ReflTransGen (Asks kind) s t) (sql : String) :
    t.server.returnsRows sql = s.server.returnsRows sql := by
  have scripts : t.server.scripts = s.server.scripts := by
    induction h with
    | refl => rfl
    | tail _ ask ih =>
      cases ask with
      | ask timeout _ _ => exact (call_attempts _ timeout _).scripts.trans ih
  simp only [Server.returnsRows, scripts]

theorem failsWith_call (r : Request) (timeout : Option Milliseconds) :
    (call r timeout).FailsWith (· ≠ .execution .resultSet) := by
  rintro s e he rfl
  rw [outcome_call, put] at he
  split at he
  · cases he
  · split at he
    · cases he
    · injection he with he
      cases hop : r.operation <;> rw [hop] at he <;> cases he

/-- The transaction is live, and the end of some work does not complete it. -/
structure GoesOn (s : Session) (tx : TransactionId) : Prop where
  live : s.live? = some tx
  manual : s.isAutocommit tx = false

theorem GoesOn.works (h : s.GoesOn tx) (run : Works kind tx s t) : t.GoesOn tx := by
  rw [run.frame]
  exact ⟨h.live, h.manual⟩

theorem GoesOn.getOrBegin (h : s.GoesOn tx) :
    getOrBegin.outcome s = .ok tx ∧ getOrBegin.final s = s := by
  have slot : s.slot = some tx := (live?_eq_some_iff.mp h.live).1
  rw [outcome_getOrBegin, final_getOrBegin, h.live]
  refine ⟨rfl, ?_⟩
  dsimp only
  rw [← slot]

theorem GoesOn.inTransaction (h : s.GoesOn tx) (work : TransactionId → Action Session α)
    (hw : Working (fun _ => True) tx (work tx)) :
    (inTransaction work).outcome s = (work tx).outcome s ∧
      (inTransaction work).final s =
        match (work tx).outcome s with
        | .ok _ => (work tx).final s
        | .error e => (abortAfter tx e).final ((work tx).final s) := by
  have manual : ((work tx).final s).isAutocommit tx = false := (h.works (hw s)).manual
  obtain ⟨found, same⟩ := h.getOrBegin
  rw [final_inTransaction, Session.inTransaction, outcome_bind, found, same]
  simp only [outcome_bind, outcome_attempt, final_attempt]
  cases (work tx).outcome s with
  | ok a =>
    simp only [finish, outcome_bind, final_bind, outcome_get, final_get, manual, Bool.false_eq_true,
      ↓reduceIte, outcome_pure, final_pure, and_self]
  | error e => simp only [outcome_bind, outcome_abortAfter, outcome_throw, and_self]

theorem GoesOn.worked (h : s.GoesOn tx) {work : TransactionId → Action Session α}
    (hw : Working (fun _ => True) tx (work tx)) {a : α}
    (answered : (Session.inTransaction work).outcome s = .ok a) :
    Works (fun _ => True) tx s ((Session.inTransaction work).final s) := by
  obtain ⟨outcome, final⟩ := h.inTransaction work hw
  rw [final, outcome.symm.trans answered]
  exact hw s

theorem GoesOn.cut (h : s.GoesOn tx) (work : TransactionId → Action Session α)
    (rest : α → TransactionId → Action Session β) (hw : Working (fun _ => True) tx (work tx))
    (hr : ∀ a, Working (fun _ => True) tx (rest a tx)) :
    (Session.inTransaction fun tx => work tx >>= fun a => rest a tx).Agree
      (Session.inTransaction work >>= fun a => Session.inTransaction (rest a)) s := by
  obtain ⟨whole, wholeFinal⟩ := h.inTransaction (fun tx => work tx >>= fun a => rest a tx) (hw.bind hr)
  obtain ⟨first, firstFinal⟩ := h.inTransaction work hw
  rw [Agree, whole, wholeFinal, outcome_bind, final_bind, outcome_bind, final_bind, first]
  cases worked : (work tx).outcome s with
  | error e =>
    rw [worked] at firstFinal
    exact ⟨rfl, firstFinal.symm⟩
  | ok a =>
    rw [worked] at firstFinal
    dsimp only at firstFinal ⊢
    -- the first piece has left the transaction as it was, so the second finds it again
    obtain ⟨second, secondFinal⟩ := (h.works (hw s)).inTransaction (rest a) (hr a)
    rw [firstFinal]
    exact ⟨second.symm, secondFinal.symm⟩

theorem GoesOn.inTransaction_map (h : s.GoesOn tx) {work : TransactionId → Action Session α}
    (hw : Working (fun _ => True) tx (work tx)) (f : α → β) :
    (Session.inTransaction fun tx => work tx >>= fun a => pure (f a)).Agree
      (Session.inTransaction work >>= fun a => pure (f a)) s := by
  refine (h.cut work (fun a _ => pure (f a)) hw fun a => follows_pure _).trans ?_
  refine Agree.bind ⟨rfl, rfl⟩ fun a answered => ?_
  have goesOn := h.works (h.worked hw answered)
  exact goesOn.inTransaction (fun _ => pure (f a)) (follows_pure _)

theorem GoesOn.inTransaction_mapM (h : s.GoesOn tx) {work : ι → TransactionId → Action Session α}
    (hw : ∀ i, Working (fun _ => True) tx (work i tx)) (l : List ι) :
    (Session.inTransaction fun tx => l.mapM fun i => work i tx).Agree
      (l.mapM fun i => Session.inTransaction (work i)) s := by
  induction l generalizing s with
  | nil => exact h.inTransaction (fun _ => pure []) (follows_pure _)
  | cons i l ih =>
    have rest : Working (fun _ => True) tx (l.mapM fun i => work i tx) :=
      follows_mapM fun i _ => hw i
    simp only [List.mapM_cons]
    refine (h.cut (work i) _ (hw i) fun a => rest.bind fun as => follows_pure _).trans ?_
    refine Agree.bind ⟨rfl, rfl⟩ fun a answered => ?_
    have goesOn := h.works (h.worked (hw i) answered)
    exact (goesOn.inTransaction_map rest (a :: ·)).trans ((ih goesOn).bind fun as _ => ⟨rfl, rfl⟩)

end Session

namespace Statement

variable {s t : Session} {tx : TransactionId}

def updateEach (st : Statement) (batch : List String) : Action Session (List Nat) :=
  batch.mapM st.executeUpdate

def runs (st : Statement) (sql : String) (tx : TransactionId) : Action Session Nat :=
  st.withPrepared sql fun prepared => Session.execute st.limits tx prepared []

theorem working_runs (st : Statement) (sql : String) (tx : TransactionId) :
    Working (fun _ => True) tx (st.runs sql tx) :=
  working_withPrepared (fun _ => trivial) st sql fun prepared =>
    working_execute _ tx prepared [] trivial

theorem failsWith_runs (st : Statement) (sql : String) (tx : TransactionId) :
    (st.runs sql tx).FailsWith (· ≠ .execution .resultSet) := by
  have early : (Session.prepare st.limits sql []).FailsWith (· ≠ .execution .resultSet) :=
    failsWith_call _ _
  intro s e he
  simp only [runs, withPrepared, outcome_bind, outcome_attempt, final_attempt, dispose,
    outcome_bestEffort, outcome_ofExcept] at he
  cases prepares : (Session.prepare st.limits sql []).outcome s with
  | error e' =>
    rw [prepares] at he
    cases he
    exact early s e prepares
  | ok p =>
    rw [prepares] at he
    exact failsWith_call _ _ _ e he

theorem outcome_ensureOpen_congr (st : Statement) (same : t.closed = s.closed) :
    st.ensureOpen.outcome t = st.ensureOpen.outcome s := by
  unfold ensureOpen Session.ensureOpen
  split
  · rfl
  · simp only [outcome_bind, outcome_get, final_get, same]
    split <;> rfl

theorem opened_or_closed (st : Statement) (s : Session) :
    st.ensureOpen.outcome s = .ok () ∨ ∃ what, st.ensureOpen.outcome s = .error (.closed what) := by
  unfold ensureOpen
  split
  · exact .inr ⟨.statement, rfl⟩
  · cases closed : s.closed with
    | true => exact .inr (Session.refused_ensureOpen closed).1
    | false =>
      refine .inl ?_
      simp only [Session.ensureOpen, outcome_bind, outcome_get, final_get, closed, Bool.false_eq_true,
        ↓reduceIte, outcome_pure]

theorem withPrepared_executeOnly (st : Statement) (sql : String) (tx : TransactionId) (s : Session) :
    s.server.returnsRows sql = true ∧
        (st.withPrepared sql (st.executeOnly tx)).outcome s = .error (.execution .resultSet) ∨
      (st.withPrepared sql (st.executeOnly tx)).Agree (st.runs sql tx) s := by
  simp only [Agree, runs, withPrepared, outcome_bind, final_bind, outcome_attempt, final_attempt]
  cases prepares : (Session.prepare st.limits sql []).outcome s with
  | error e => exact .inr ⟨rfl, rfl⟩
  | ok p =>
    cases rows : p.returnsRows with
    | true =>
      refine .inl ⟨?_, ?_⟩
      · exact (Server.Performs.returnsRows (call_performs prepares)).symm.trans rows
      · simp only [executeOnly, rows, ↓reduceIte, outcome_throw, dispose, outcome_bestEffort,
          outcome_ofExcept]
    | false => exact .inr (by simp only [executeOnly, rows, Bool.false_eq_true, ↓reduceIte, and_self])

theorem executeUpdate_opened {st : Statement} (opened : st.ensureOpen.outcome s = .ok ()) (sql : String) :
    (st.executeUpdate sql).Agree
      (Session.inTransaction fun tx => st.withPrepared sql (st.executeOnly tx)) s := by
  simp only [Agree, executeUpdate, outcome_bind, final_bind, opened, final_ensureOpen, and_self]

theorem executeUpdate_or_refused (h : s.GoesOn tx) {st : Statement}
    (opened : st.ensureOpen.outcome s = .ok ()) (sql : String) :
    s.server.returnsRows sql = true ∧
        (st.executeUpdate sql).outcome s = .error (.execution .resultSet) ∨
      (st.executeUpdate sql).Agree (Session.inTransaction (st.runs sql)) s := by
  have update := executeUpdate_opened opened sql
  obtain ⟨outcome, final⟩ := h.inTransaction (fun tx => st.withPrepared sql (st.executeOnly tx))
    (working_withPrepared (fun _ => trivial) st sql (working_executeOnly (fun _ => trivial) st tx))
  rcases st.withPrepared_executeOnly sql tx s with ⟨rows, refused⟩ | ⟨sameOutcome, sameFinal⟩
  · exact .inl ⟨rows, update.1.trans (outcome.trans refused)⟩
  · obtain ⟨runs, runsFinal⟩ := h.inTransaction (st.runs sql) (st.working_runs sql tx)
    refine .inr (update.trans ⟨?_, ?_⟩)
    · rw [outcome, sameOutcome, runs]
    · rw [final, sameOutcome, sameFinal, runsFinal]

theorem updateEach_or_refused (h : s.GoesOn tx) {st : Statement}
    (opened : st.ensureOpen.outcome s = .ok ()) (batch : List String) :
    (∃ sql ∈ batch, s.server.returnsRows sql = true) ∧
        (st.updateEach batch).outcome s = .error (.execution .resultSet) ∨
      (st.updateEach batch).Agree (batch.mapM fun sql => Session.inTransaction (st.runs sql)) s := by
  -- on the texts, from whatever session the updates before have left
  induction batch generalizing s with
  | nil => exact .inr ⟨rfl, rfl⟩
  | cons sql batch ih =>
    simp only [updateEach, List.mapM_cons] at ih ⊢
    rcases executeUpdate_or_refused h opened sql with ⟨rows, refused⟩ | same
    · refine .inl ⟨⟨sql, List.mem_cons_self, rows⟩, ?_⟩
      rw [outcome_bind, refused]
    · cases answered : (st.executeUpdate sql).outcome s with
      | error e =>
        refine .inr (same.bind fun a ok => ?_)
        cases answered.symm.trans ok
      | ok a =>
        -- nothing that the second text depends on has changed with the first
        have run := h.worked (st.working_runs sql tx) (same.1.symm.trans answered)
        rw [← same.2] at run
        have sameClosed : ((st.executeUpdate sql).final s).closed = s.closed := by rw [run.frame]
        have stillOpen := (st.outcome_ensureOpen_congr sameClosed).trans opened
        rcases ih (h.works run) stillOpen with ⟨⟨sql', mem, rows⟩, refused⟩ | rest
        · refine .inl ⟨⟨sql', List.mem_cons_of_mem _ mem, ?_⟩, ?_⟩
          · rw [← returnsRows_of_asks run sql', rows]
          · simp only [outcome_bind, answered, refused]
        · refine .inr (same.bind fun a' ok => ?_)
          cases answered.symm.trans ok
          exact rest.bind fun as _ => ⟨rfl, rfl⟩

theorem executeAll_opened {st : Statement} (opened : st.ensureOpen.outcome s = .ok ())
    {batch : List String} (h : batch ≠ []) :
    (st.executeAll batch).Agree
      (Session.inTransaction fun tx => batch.mapM fun sql => st.runs sql tx) s := by
  cases batch with
  | nil => exact absurd rfl h
  | cons sql batch =>
    simp only [Agree, executeAll, outcome_bind, final_bind, opened, final_ensureOpen, List.isEmpty_cons,
      Bool.false_eq_true, ↓reduceIte, runs, and_self]

theorem executeAll_or_refused (h : s.GoesOn tx) {st : Statement}
    (opened : st.ensureOpen.outcome s = .ok ()) (batch : List String) :
    (∃ sql ∈ batch, s.server.returnsRows sql = true) ∧
        (st.updateEach batch).outcome s = .error (.execution .resultSet) ∨
      (st.executeAll batch).Agree (st.updateEach batch) s := by
  by_cases empty : batch = []
  · subst empty
    refine .inr ⟨?_, ?_⟩
    · simp only [executeAll, outcome_bind, opened, List.isEmpty_nil, ↓reduceIte, outcome_pure]
      rfl
    · simp only [executeAll, final_bind, opened, final_ensureOpen, List.isEmpty_nil, ↓reduceIte, final_pure]
      rfl
  · refine (updateEach_or_refused h opened batch).imp_right fun same => ?_
    have pieces := h.inTransaction_mapM (fun sql => st.working_runs sql tx) batch
    exact ((executeAll_opened opened empty).trans pieces).trans same.symm

theorem executeAll_ne_resultSet (h : s.GoesOn tx) (st : Statement) (batch : List String) :
    (st.executeAll batch).outcome s ≠ .error (.execution .resultSet) := by
  intro fails
  rcases st.opened_or_closed s with opened | ⟨what, closed⟩
  · by_cases empty : batch = []
    · subst empty
      simp only [executeAll, outcome_bind, opened, List.isEmpty_nil, ↓reduceIte, outcome_pure] at fails
      cases fails
    · have works : Working (fun _ => True) tx (batch.mapM fun sql => st.runs sql tx) :=
        follows_mapM fun sql _ => st.working_runs sql tx
      obtain ⟨outcome, -⟩ := h.inTransaction (fun tx => batch.mapM fun sql => st.runs sql tx) works
      rw [(executeAll_opened opened empty).1, outcome] at fails
      exact failsWith_mapM (fun sql _ => st.failsWith_runs sql tx) s _ fails rfl
  · simp only [executeAll, outcome_bind, closed] at fails
    cases fails

theorem executeAll_closed {st : Statement} {what : Resource}
    (closed : st.ensureOpen.outcome s = .error (.closed what)) {batch : List String} (h : batch ≠ []) :
    (st.executeAll batch).Agree (st.updateEach batch) s ∧
      (st.updateEach batch).outcome s = .error (.closed what) := by
  cases batch with
  | nil => exact absurd rfl h
  | cons sql batch =>
    simp only [Agree, executeAll, updateEach, executeUpdate, List.mapM_cons, outcome_bind, final_bind,
      closed, final_ensureOpen, and_self]

theorem executeAll_agree_iff (h : s.GoesOn tx) (st : Statement) (batch : List String) :
    (st.executeAll batch).Agree (st.updateEach batch) s ↔
      (st.updateEach batch).outcome s ≠ .error (.execution .resultSet) ∧
        (batch = [] → st.ensureOpen.outcome s = .ok ()) := by
  constructor
  · intro same
    refine ⟨?_, fun empty => ?_⟩
    · rw [← same.1]
      exact executeAll_ne_resultSet h st batch
    · rcases st.opened_or_closed s with opened | ⟨what, closed⟩
      · exact opened
      · subst empty
        have fails : (st.executeAll []).outcome s = .error (.closed what) := by
          simp only [executeAll, outcome_bind, closed]
        cases fails.symm.trans same.1
  · rintro ⟨answers, opens⟩
    rcases st.opened_or_closed s with opened | ⟨what, closed⟩
    · exact (executeAll_or_refused h opened batch).resolve_left fun refused => answers refused.2
    · have texts : batch ≠ [] := by
        intro empty
        cases closed.symm.trans (opens empty)
      exact (executeAll_closed closed texts).1

theorem returnsRows_of_refused (h : s.GoesOn tx) {st : Statement} {batch : List String}
    (refused : (st.updateEach batch).outcome s = .error (.execution .resultSet)) :
    ∃ sql ∈ batch, s.server.returnsRows sql = true := by
  rcases st.opened_or_closed s with opened | ⟨what, closed⟩
  · rcases executeAll_or_refused h opened batch with ⟨rows, -⟩ | same
    · exact rows
    · exact absurd (same.1.trans refused) (executeAll_ne_resultSet h st batch)
  · by_cases empty : batch = []
    · subst empty
      cases refused
    · cases (executeAll_closed closed empty).2.symm.trans refused

/-- In a live manual transaction a batch does what the updates of its texts do, with the same answer and
the same requests, unless one of the updates is refused since the text returns rows. An empty batch is
still refused where something is closed. -/
theorem executeBatch_eq_updates_iff (st : Statement) {s : Session} {tx : TransactionId}
    (live : s.live? = some tx) (manual : s.isAutocommit tx = false) :
    ((executeBatch.outcome (st, s) = (st.updateEach st.batch).outcome s ∧
        (executeBatch.final (st, s)).2 = (st.updateEach st.batch).final s) ↔
      (st.updateEach st.batch).outcome s ≠ .error (.execution .resultSet) ∧
        (st.batch = [] → st.ensureOpen.outcome s = .ok ())) ∧
    ((st.updateEach st.batch).outcome s = .error (.execution .resultSet) →
      ∃ sql ∈ st.batch, s.server.returnsRows sql = true) := by
  have goesOn : s.GoesOn tx := ⟨live, manual⟩
  rw [outcome_executeBatch, final_executeBatch]
  exact ⟨executeAll_agree_iff goesOn st st.batch, returnsRows_of_refused goesOn⟩

end Statement

namespace Client

def queuing (texts : List String) : List Command :=
  [.arrange (.createTable "t" []), .call (.coordinator (.transaction none)),
    .call (.connection (.statement 0))] ++ texts.map fun sql => .call (.statement 0 (.addBatch sql))

def queued (texts : List String) : Client :=
  (start (.plain false)).after (queuing texts)

def mixed : Statement :=
  ⟨["insert into t values (1)", "delete from t", "insert into u values (2)", "insert into t values (3)"],
    .unset, false⟩

def refusesRows : Except Error (List Nat) → Bool
  | .error (.execution .resultSet) => true
  | _ => false

theorem executeBatch_eq_updates_mixed :
    (queued mixed.batch).statements.get? 0 = some mixed ∧
      (queued mixed.batch).session.live? = some ⟨1⟩ ∧
      (queued mixed.batch).session.isAutocommit ⟨1⟩ = false ∧
      Statement.executeBatch.outcome (mixed, (queued mixed.batch).session) =
        (mixed.updateEach mixed.batch).outcome (queued mixed.batch).session ∧
      (Statement.executeBatch.final (mixed, (queued mixed.batch).session)).2 =
        (mixed.updateEach mixed.batch).final (queued mixed.batch).session := by
  have live : (queued mixed.batch).session.live? = some ⟨1⟩ := by decide
  have manual : (queued mixed.batch).session.isAutocommit ⟨1⟩ = false := by decide
  have fails : refusesRows ((mixed.updateEach mixed.batch).outcome (queued mixed.batch).session) =
      false := by decide +kernel
  refine ⟨by decide, live, manual, ?_⟩
  apply (mixed.executeBatch_eq_updates_iff live manual).1.mpr
  refine ⟨fun refused => ?_, nofun⟩
  rw [refused] at fails
  cases fails

def selection : Statement :=
  ⟨["select * from t"], .unset, false⟩

theorem executeBatch_counts_selection :
    ¬∀ k : Client, k.Reached → ∀ n st tx, k.statements.get? n = some st →
      k.session.live? = some tx → k.session.isAutocommit tx = false →
        Statement.executeBatch.outcome (st, k.session) = (st.updateEach st.batch).outcome k.session := by
  intro law
  have reached : (queued selection.batch).Reached := reached_of_start (.plain false) (by decide)
  have same := law _ reached 0 selection ⟨1⟩ (by decide) (by decide) (by decide)
  have counted : Statement.executeBatch.outcome (selection, (queued selection.batch).session) =
      .ok [0] := by rfl
  have refused : (selection.updateEach selection.batch).outcome (queued selection.batch).session =
      .error (.execution .resultSet) := by rfl
  cases (counted.symm.trans same).trans refused

end Client

end SqlClient
