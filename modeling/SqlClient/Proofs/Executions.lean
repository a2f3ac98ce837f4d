import SqlClient.Proofs.Acts
import SqlClient.Proofs.ConversionErrors

namespace SqlClient

open SqlClient.Action Relation Session

def Outcome.cursor? : Outcome → Option Cursor
  | .rows c => some c
  | .updated _ => none

namespace Session

variable {α β : Type} {early : Bool} {s t u w : Session} {tx : TransactionId}

abbrev Beside : Session → Session → Prop :=
  ReflTransGen (Asks fun r => r.isAside)

def Amid (s : Session) (tx : TransactionId) (w : Session) : Prop :=
  ∃ u, Beside s u ∧ getOrBegin.outcome u = .ok tx ∧
    Works (fun _ => True) tx (getOrBegin.final u) w

def Early (early : Bool) (e : Error) : Prop :=
  e.isTimeout = true → early = true ∧ ∃ ms, e = .timeout .prepare ms

inductive Executes (early : Bool) (s : Session) : Except Error (Option Cursor) → Session → Prop
  | refused {t : Session} {e : Error} (beside : Beside s t) (he : Early early e) :
    Executes early s (.error e) t
  | vacant {t : Session} (beside : Beside s t) : Executes early s (.ok none) t
  | unbegun {u t : Session} {e : Error} (before : Beside s u)
      (fails : getOrBegin.outcome u = .error e) (after : Beside (getOrBegin.final u) t) :
    Executes early s (.error e) t
  | opened {t : Session} {tx : TransactionId} {c : Cursor} (amid : Amid s tx t)
      (transaction : c.transaction = tx) (isOpen : c.isClosed = false)
      (fresh : c.afterLast = false) : Executes early s (.ok (some c)) t
  | finished {w t : Session} {tx : TransactionId} (amid : Amid s tx w)
      (after : Beside ((finish tx).final w) t) :
    Executes early s (((finish tx).outcome w).map fun _ => none) t
  | aborted {w t : Session} {tx : TransactionId} {e : Error} (amid : Amid s tx w)
      (after : Beside ((abortAfter tx e).final w) t) : Executes early s (.error e) t

theorem timeout_of_call {r : Request} {timeout : Option Milliseconds} {e : Error}
    (h : (call r timeout).outcome s = .error e) (he : e.isTimeout = true) :
    ∃ ms, e = .timeout r.operation ms := by
  rw [outcome_call, put] at h
  split at h
  next limit _ =>
    cases h
    exact ⟨limit, rfl⟩
  · split at h
    · cases h
    · -- what the server itself refuses is never a timeout
      cases h
      cases hop : r.operation <;> rw [hop] at he <;> cases he

theorem early_prepare (sql : String) (placeholders : List Placeholder)
    (timeout : Option Milliseconds) :
    (call (.prepare sql placeholders) timeout).FailsWith (Early true) := by
  intro s e h he
  exact ⟨rfl, timeout_of_call h he⟩

theorem early_of_untimed {e : Error} (h : e.isTimeout = false) : Early early e := by
  intro he
  rw [h] at he
  cases he

theorem beside_call {r : Request} (timeout : Option Milliseconds) (s : Session)
    (concern : r.isAside) : Beside s ((call r timeout).final s) :=
  .single (.ask timeout s concern)

theorem Beside.works (h : Beside s t) : Works (fun _ => True) tx s t := by
  apply ReflTransGen.mono _ _ _ h
  intro a b ask
  cases ask with
  | ask timeout _ concern => exact .ask timeout a ⟨trivial, .inl concern⟩

theorem Executes.beside {r : Except Error (Option Cursor)} (h : Executes early s r t)
    (after : Beside t u) : Executes early s r u := by
  cases h with
  | refused beside he => exact .refused (beside.trans after) he
  | vacant beside => exact .vacant (beside.trans after)
  | unbegun before fails after' => exact .unbegun before fails (after'.trans after)
  | opened amid transaction isOpen fresh =>
    obtain ⟨v, before, gets, works⟩ := amid
    exact .opened ⟨v, before, gets, works.trans after.works⟩ transaction isOpen fresh
  | finished amid after' => exact .finished amid (after'.trans after)
  | aborted amid after' => exact .aborted amid (after'.trans after)

def Executing {σ : Type} (early : Bool) (view : σ → Session) (x : Action σ α)
    (opens : α → Option Cursor) : Prop :=
  ∀ s σ, Beside s (view σ) → Executes early s ((x.outcome σ).map opens) (view (x.final σ))

section Executing

variable {σ : Type} {view : σ → Session} {opens : α → Option Cursor}

theorem executing_throw {e : Error} (he : Early early e) :
    Executing early view (throw e : Action σ α) opens :=
  fun _ _ before => .refused before he

theorem executing_throw_bind {e : Error} {f : β → Action σ α} (he : Early early e) :
    Executing early view (throw e >>= f) opens :=
  fun _ _ before => .refused before he

theorem executing_pure {a : α} (h : opens a = none) :
    Executing early view (pure a : Action σ α) opens := by
  intro s σ before
  rw [outcome_pure, Except.map, h]
  exact .vacant before

theorem executing_bind {x : Action σ β} {f : β → Action σ α}
    (beside : x.Follows (Asks fun r => r.isAside) view) (fails : x.FailsWith (Early early))
    (hf : ∀ b, Executing early view (f b) opens) : Executing early view (x >>= f) opens := by
  intro s σ before
  have goesOn := before.trans (beside σ)
  rw [outcome_bind, final_bind]
  cases h : x.outcome σ with
  | error e => exact .refused goesOn (fails σ e h)
  | ok b => exact hf b s _ goesOn

theorem Executing.map {x : Action σ β} {opens' : β → Option Cursor}
    (hx : Executing early view x opens') {f : β → α} (hf : ∀ b, opens (f b) = opens' b) :
    Executing early view (x >>= fun b => pure (f b)) opens := by
  intro s σ before
  have executes := hx s σ before
  rw [outcome_bind, final_bind]
  cases h : x.outcome σ with
  | error e =>
    rw [h] at executes
    exact executes
  | ok b =>
    rw [h, Except.map, ← hf b] at executes
    exact executes

theorem outcome_abortAfter (tx : TransactionId) (e : Error) (s : Session) :
    (abortAfter tx e).outcome s = .ok () := by
  simp only [abortAfter, outcome_bind, outcome_get, final_get]
  split
  · exact outcome_bestEffort _ _
  · rfl

theorem executing_inTransaction {work : TransactionId → Action Session α}
    (hw : ∀ tx, Working (fun _ => True) tx (work tx)) :
    Executing early id (inTransaction work) fun _ => none := by
  intro s u before
  rw [final_inTransaction, id, inTransaction, outcome_bind]
  cases gets : getOrBegin.outcome u with
  | error e => exact .unbegun before gets .refl
  | ok tx =>
    have amid : Amid s tx ((work tx).final (getOrBegin.final u)) := ⟨u, before, gets, hw tx _⟩
    simp only [outcome_bind, outcome_attempt, final_attempt]
    cases (work tx).outcome (getOrBegin.final u) with
    | ok a =>
      have ends := @Executes.finished early _ _ _ _ amid .refl
      rw [outcome_bind]
      cases hf : (finish tx).outcome ((work tx).final (getOrBegin.final u)) with
      | ok _ =>
        rw [hf] at ends
        exact ends
      | error e =>
        rw [hf] at ends
        exact ends
    | error e =>
      have ends := @Executes.aborted early _ _ _ _ e amid .refl
      rw [outcome_bind, outcome_abortAfter]
      exact ends

theorem beside_giveBack (owned : Bool) (prepared : Prepared) (x : Action Session α) (s : Session) :
    ∃ t, Beside s t ∧ (if owned then dispose prepared >>= fun _ => x else x).final s = x.final t ∧
      (if owned then dispose prepared >>= fun _ => x else x).outcome s = x.outcome t := by
  cases owned with
  | false => exact ⟨s, .refl, rfl, rfl⟩
  | true =>
    refine ⟨_, beside_call (r := .dispose prepared.id) none s rfl, ?_, ?_⟩
    · simp only [↓reduceIte, dispose, final_bind, outcome_bestEffort, final_bestEffort]
    · simp only [↓reduceIte, dispose, outcome_bind, outcome_bestEffort, final_bestEffort]

theorem executing_query (limits : StatementLimits) (prepared : Prepared) (owned : Bool)
    (parameters : List Parameter) :
    Executing early id (query limits prepared owned parameters) some := by
  intro s u before
  simp only [query, id, outcome_bind, final_bind, outcome_attempt, final_attempt]
  cases gets : getOrBegin.outcome u with
  | error e =>
    -- the statement that was prepared for the cursor is given back before the failure is passed on
    obtain ⟨t, after, final, outcome⟩ :=
      beside_giveBack owned prepared (throw e : Action Session Cursor) (getOrBegin.final u)
    have refuses : Executes early s (.error e) t := .unbegun before gets after
    dsimp only
    rw [final, outcome]
    exact refuses
  | ok tx =>
    let asks := call (.query tx prepared.id parameters) limits.timeout
    have works : Works (fun _ => True) tx (getOrBegin.final u) (asks.final (getOrBegin.final u)) :=
      .single (.ask limits.timeout _ ⟨trivial, .inr rfl⟩)
    simp only [outcome_bind, final_bind, outcome_attempt, final_attempt]
    cases asks.outcome (getOrBegin.final u) with
    | ok result => exact .opened ⟨u, before, gets, works⟩ rfl rfl rfl
    | error e =>
      obtain ⟨t, after, final, outcome⟩ := beside_giveBack owned prepared
        (abortAfter tx e >>= fun _ => throw e : Action Session Cursor)
        (asks.final (getOrBegin.final u))
      have amid : Amid s tx t := ⟨u, before, gets, works.trans after.works⟩
      have aborts : Executes early s (.error e) ((abortAfter tx e).final t) := .aborted amid .refl
      dsimp only
      rw [final, outcome, outcome_bind, final_bind, outcome_abortAfter]
      exact aborts

theorem executing_givingBack {x : Action Session β} (hx : Executing early id x fun _ => none)
    (prepared : Prepared) {f : β → α} (hf : ∀ b, opens (f b) = none) :
    Executing early id (do
      let outcome ← x.attempt
      dispose prepared
      let b ← Action.ofExcept outcome
      return f b) opens := by
  intro s u before
  have executes := (hx s u before).beside (beside_call (r := .dispose prepared.id) none _ rfl)
  simp only [dispose, outcome_bind, final_bind, outcome_attempt, final_attempt, outcome_bestEffort,
    final_bestEffort, outcome_ofExcept, final_ofExcept]
  cases h : x.outcome u with
  | error e =>
    rw [h] at executes
    exact executes
  | ok b =>
    rw [h] at executes
    dsimp only
    rw [outcome_pure, Except.map, hf b]
    exact executes

end Executing

theorem besides_call {r : Request} (timeout : Option Milliseconds) (concern : r.isAside) :
    (call r timeout).Follows (Asks fun r => r.isAside) id :=
  fun s => beside_call timeout s concern

theorem besides_dispose (prepared : Prepared) :
    (dispose prepared).Follows (Asks fun r => r.isAside) id :=
  (besides_call none rfl).bestEffort

theorem refused_ensureOpen (closed : s.closed = true) : ensureOpen.Refused s := by
  simp only [ensureOpen, Refused, outcome_bind, final_bind, outcome_get, final_get, closed, ↓reduceIte]
  exact ⟨⟨.connection, rfl⟩, rfl⟩

end Session

namespace Statement

variable {α : Type} {early : Bool}

theorem early_ensureOpen (st : Statement) : st.ensureOpen.FailsWith (Early early) := by
  unfold ensureOpen Session.ensureOpen
  split
  · exact (failsWith_throw (early_of_untimed rfl)).bind fun _ => failsWith_get.bind fun s => by
      split
      · exact failsWith_throw (early_of_untimed rfl)
      · exact failsWith_pure _
  · refine failsWith_get.bind fun s => ?_
    split
    · exact failsWith_throw (early_of_untimed rfl)
    · exact failsWith_pure _

theorem executing_opened (st : Statement) {x : Action Session α} {opens : α → Option Cursor}
    (hx : Executing early id x opens) :
    Executing early id (st.ensureOpen >>= fun _ => x) opens :=
  executing_bind (follows_of_final_eq st.final_ensureOpen) st.early_ensureOpen fun _ => hx

theorem executing_prepared (st : Statement) (sql : String) {x : Prepared → Action Session α}
    {opens : α → Option Cursor} (hx : ∀ prepared, Executing true id (x prepared) opens) :
    Executing true id (Session.prepare st.limits sql [] >>= x) opens :=
  executing_bind (besides_call _ rfl) (early_prepare sql [] _) hx

theorem executing_executeQuery (st : Statement) (sql : String) :
    Executing true id (st.executeQuery sql) some := by
  refine st.executing_opened (st.executing_prepared sql fun prepared => ?_)
  split
  · exact executing_query _ prepared true []
  · refine executing_bind (besides_dispose prepared) (failsWith_bestEffort _) fun _ => ?_
    exact executing_throw (early_of_untimed rfl)

theorem executing_execute (st : Statement) (sql : String) :
    Executing true id (st.execute sql) Outcome.cursor? := by
  refine st.executing_opened (st.executing_prepared sql fun prepared => ?_)
  split
  · exact (executing_query _ prepared true []).map fun _ => rfl
  · have works (tx : TransactionId) := @working_execute (fun _ => True) st.limits tx prepared [] trivial
    exact executing_givingBack (executing_inTransaction works) prepared fun _ => rfl

theorem executing_executeUpdate (st : Statement) (sql : String) :
    Executing early id (st.executeUpdate sql) fun _ => none := by
  have every (r : Request) : True := trivial
  apply st.executing_opened
  exact executing_inTransaction fun tx =>
    working_withPrepared every st sql (working_executeOnly every st tx)

theorem executing_executeAll (st : Statement) (batch : List String) :
    Executing early id (st.executeAll batch) fun _ => none := by
  have every (r : Request) : True := trivial
  apply st.executing_opened
  split
  · exact executing_pure rfl
  · exact executing_inTransaction fun tx => follows_mapM fun sql _ =>
      working_withPrepared every st sql fun prepared =>
        working_execute st.limits tx prepared [] trivial

inductive IsExecution : Bool → {α : Type} → Action Session α → (α → Option Cursor) → Prop
  | query (st : Statement) (sql : String) : IsExecution true (st.executeQuery sql) some
  | update (st : Statement) (sql : String) :
    IsExecution false (st.executeUpdate sql) fun _ => none
  | execute (st : Statement) (sql : String) : IsExecution true (st.execute sql) Outcome.cursor?
  | batch (st : Statement) (batch : List String) :
    IsExecution false (st.executeAll batch) fun _ => none

theorem IsExecution.executing {x : Action Session α} {opens : α → Option Cursor}
    (hx : IsExecution early x opens) : Executing early id x opens := by
  cases hx with
  | query st sql => exact st.executing_executeQuery sql
  | update st sql => exact st.executing_executeUpdate sql
  | execute st sql => exact st.executing_execute sql
  | batch st batch => exact st.executing_executeAll batch

theorem refused_ensureOpen (st : Statement) {s : Session} (closed : s.closed = true) :
    st.ensureOpen.Refused s := by
  unfold ensureOpen
  split
  · exact ⟨⟨.statement, rfl⟩, rfl⟩
  · exact Session.refused_ensureOpen closed

theorem IsExecution.refused {x : Action Session α} {opens : α → Option Cursor}
    (hx : IsExecution early x opens) {s : Session} (closed : s.closed = true) : x.Refused s := by
  cases hx with
  | query st | update st | execute st | batch st => exact (st.refused_ensureOpen closed).bind _

end Statement

namespace PreparedStatement

variable {α : Type}

abbrev Besides (x : Method α) : Prop :=
  x.Follows (Asks fun r => r.isAside) Prod.snd

abbrev Hurried (x : Method α) : Prop :=
  x.FailsWith (Early true)

theorem besides_statement : Besides statement :=
  follows_of_final_eq fun _ => rfl

theorem besides_change (f : PreparedStatement → PreparedStatement) : Besides (change f) :=
  follows_of_final_eq fun _ => rfl

theorem besides_send {x : Action Session α} (hx : x.Follows (Asks fun r => r.isAside) id) :
    Besides (send x) :=
  hx.zoom (fun _ => rfl) fun _ _ => rfl

theorem hurried_statement : Hurried statement :=
  failsWith_get.bind fun _ => failsWith_pure _

theorem hurried_change (f : PreparedStatement → PreparedStatement) : Hurried (change f) :=
  failsWith_modify _

theorem hurried_ensureOpen : Hurried ensureOpen := by
  have opens : (Action.onSecond Session.ensureOpen : Method Unit).FailsWith (Early true) := by
    refine FailsWith.zoom (failsWith_get.bind fun s => ?_)
    split
    · exact failsWith_throw (early_of_untimed rfl)
    · exact failsWith_pure _
  refine hurried_statement.bind fun p => ?_
  dsimp only
  split
  · exact (failsWith_throw (early_of_untimed rfl)).bind fun _ => opens
  · exact opens

theorem besides_boundParameters : Besides boundParameters :=
  follows_get.bind fun _ => follows_ofExcept _

theorem hurried_boundParameters : Hurried boundParameters := by
  refine failsWith_get.bind fun σ => failsWith_ofExcept fun e he => early_of_untimed ?_
  exact (Bindings.untimed_encode rfl _).of_error he

theorem besides_prepareAgain : Besides prepareAgain := by
  have prepares (placeholders : List Placeholder) : Besides (do
      let p ← statement
      let prepared ← send (Session.prepare p.limits p.sql placeholders)
      change fun p => { p with remote := some prepared }
      return prepared) :=
    besides_statement.bind fun p => (besides_send (besides_call _ rfl)).bind fun prepared =>
      (besides_change _).bind fun _ => follows_pure prepared
  refine besides_statement.bind fun _ => (follows_ofExcept _).bind fun placeholders =>
    besides_statement.bind fun p => (besides_change _).bind fun _ => ?_
  dsimp only
  split
  · exact (besides_send (besides_dispose _)).bind fun _ => prepares placeholders
  · exact prepares placeholders

theorem hurried_prepareAgain : Hurried prepareAgain := by
  have prepares (placeholders : List Placeholder) : Hurried (do
      let p ← statement
      let prepared ← send (Session.prepare p.limits p.sql placeholders)
      change fun p => { p with remote := some prepared }
      return prepared) :=
    hurried_statement.bind fun p => (early_prepare _ _ _).zoom.bind fun prepared =>
      (hurried_change _).bind fun _ => failsWith_pure prepared
  have typed (p : PreparedStatement) :
      (Action.ofExcept p.bindings.placeholders : Method (List Placeholder)).FailsWith (Early true) :=
    failsWith_ofExcept fun e he => early_of_untimed (p.bindings.untimed_placeholders.of_error he)
  refine hurried_statement.bind fun p => (typed p).bind fun placeholders =>
    hurried_statement.bind fun p => (hurried_change _).bind fun _ => ?_
  dsimp only
  split
  · exact (failsWith_bestEffort _).zoom.bind fun _ => prepares placeholders
  · exact prepares placeholders

theorem besides_ensurePrepared : Besides ensurePrepared := by
  refine besides_statement.bind fun p => ?_
  refine (besides_change _).bind fun _ => besides_statement.bind fun p' => ?_
  split
  · split
    · exact besides_prepareAgain
    · exact follows_pure _
  · exact besides_prepareAgain

theorem hurried_ensurePrepared : Hurried ensurePrepared := by
  refine hurried_statement.bind fun p => ?_
  refine (hurried_change _).bind fun _ => hurried_statement.bind fun p' => ?_
  split
  · split
    · exact hurried_prepareAgain
    · exact failsWith_pure _
  · exact hurried_prepareAgain

theorem besides_ready : Besides ready :=
  (follows_of_final_eq fun σ => congrArg Prod.snd (final_ensureOpen σ)).bind fun _ =>
    besides_boundParameters.bind fun _ => besides_ensurePrepared.bind fun _ => follows_pure _

theorem executing_ready {x : List Parameter × Prepared → Method α} {opens : α → Option Cursor}
    (hx : ∀ r, Executing true Prod.snd (x r) opens) :
    Executing true Prod.snd (ready >>= x) opens := by
  have hurried : Hurried ready :=
    hurried_ensureOpen.bind fun _ => hurried_boundParameters.bind fun _ =>
      hurried_ensurePrepared.bind fun _ => failsWith_pure _
  exact executing_bind besides_ready hurried hx

theorem executing_send {x : Action Session α} {opens : α → Option Cursor}
    (hx : Executing true id x opens) : Executing true Prod.snd (send x) opens := by
  intro s σ before
  have executes := hx s σ.2 before
  rw [outcome_send, final_send]
  exact executes

theorem executing_query (prepared : Prepared) (parameters : List Parameter) :
    Executing true Prod.snd (query prepared parameters) some := by
  refine executing_bind besides_statement hurried_statement fun p => ?_
  exact executing_send (Session.executing_query _ prepared false parameters)

theorem executing_update (prepared : Prepared) (parameters : List Parameter) :
    Executing true Prod.snd (update prepared parameters) fun _ => none := by
  refine executing_bind besides_statement hurried_statement fun p => ?_
  apply executing_send
  exact executing_inTransaction fun tx => working_execute p.limits tx prepared parameters trivial

theorem executing_executeQuery : Executing true Prod.snd executeQuery some := by
  refine executing_ready fun r => ?_
  dsimp only
  split
  · exact executing_query r.2 r.1
  · exact executing_throw (early_of_untimed rfl)

theorem executing_executeUpdate : Executing true Prod.snd executeUpdate fun _ => none := by
  refine executing_ready fun r => ?_
  dsimp only
  split
  · exact executing_throw (early_of_untimed rfl)
  · exact executing_update r.2 r.1

theorem executing_execute : Executing true Prod.snd execute Outcome.cursor? := by
  refine executing_ready fun r => ?_
  dsimp only
  split
  · exact (executing_query r.2 r.1).map fun _ => rfl
  · exact (executing_update r.2 r.1).map fun _ => rfl

theorem executing_executeBatch : Executing true Prod.snd executeBatch fun _ => none := by
  have opens : Besides ensureOpen := follows_of_final_eq fun σ => congrArg Prod.snd (final_ensureOpen σ)
  refine executing_bind opens hurried_ensureOpen fun _ =>
    executing_bind besides_statement hurried_statement fun p =>
      executing_bind (besides_change _) (hurried_change _) fun _ => ?_
  split
  · exact executing_pure rfl
  · have typed (e : Error) (he : p.bindings.placeholders = .error e) : Early true e :=
      early_of_untimed (p.bindings.untimed_placeholders.of_error he)
    refine executing_bind (follows_ofExcept _) (failsWith_ofExcept typed) fun placeholders => ?_
    dsimp only
    split
    · exact executing_throw_bind (early_of_untimed rfl)
    · refine executing_bind besides_ensurePrepared hurried_ensurePrepared fun prepared => ?_
      refine executing_bind besides_statement hurried_statement fun p' => executing_send ?_
      exact executing_inTransaction fun tx => follows_mapM fun parameters _ =>
        working_execute p'.limits tx prepared parameters trivial

theorem besides_close : Besides close := by
  refine besides_statement.bind fun p => ?_
  split
  · exact follows_pure _
  · refine (besides_change _).bind fun _ => ?_
    split
    · exact besides_send (besides_dispose _)
    · exact follows_pure _

inductive IsExecution : {α : Type} → Method α → (α → Option Cursor) → Prop
  | query : IsExecution executeQuery some
  | update : IsExecution executeUpdate fun _ => none
  | execute : IsExecution execute Outcome.cursor?
  | batch : IsExecution executeBatch fun _ => none

section IsExecution

variable {x : Method α} {opens : α → Option Cursor}

theorem IsExecution.isMethod (hx : IsExecution x opens) : IsMethod x := by
  cases hx with
  | query => exact .executeQuery
  | update => exact .executeUpdate
  | execute => exact .execute
  | batch => exact .executeBatch

theorem IsExecution.executing (hx : IsExecution x opens) : Executing true Prod.snd x opens := by
  cases hx with
  | query => exact executing_executeQuery
  | update => exact executing_executeUpdate
  | execute => exact executing_execute
  | batch => exact executing_executeBatch

theorem refused_ensureOpen {σ : PreparedStatement × Session} (closed : σ.2.closed = true) :
    ensureOpen.Refused σ := by
  have refuses : (Action.onSecond Session.ensureOpen : Method Unit).Refused σ :=
    (Session.refused_ensureOpen closed).zoom rfl
  refine ⟨?_, final_ensureOpen σ⟩
  simp only [ensureOpen, statement, outcome_bind, final_bind, outcome_get, final_get, outcome_pure,
    final_pure]
  split
  · exact ⟨.preparedStatement, rfl⟩
  · exact refuses.1

theorem IsExecution.refused (hx : IsExecution x opens) {σ : PreparedStatement × Session}
    (closed : σ.2.closed = true) : x.Refused σ := by
  have unready : ready.Refused σ := (refused_ensureOpen closed).bind _
  cases hx with
  | query | update | execute => exact unready.bind _
  | batch => exact (refused_ensureOpen closed).bind _

end IsExecution

end PreparedStatement

end SqlClient
