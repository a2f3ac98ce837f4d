import SqlClient.Proofs.BatchedUpdates
import SqlClient.Proofs.Exchanges
import SqlClient.Proofs.LiveTransaction
import SqlClient.Proofs.TimedOut

namespace SqlClient

open SqlClient.Action Relation Session

def Request.ends : Request → Bool
  | complete .. | closeTransaction _ => true
  | _ => false

theorem Request.ends_of_isAside {r : Request} (h : r.isAside) : r.ends = false := by
  cases r <;> first | rfl | cases h

def Call.executesOne : Call → Bool
  | .statement _ (.query ..) | .statement _ (.update _) | .statement _ (.execute ..)
  | .prepared _ (.query _) | .prepared _ .update | .prepared _ (.execute _) => true
  | _ => false

theorem Server.Attempts.transactions_of_isAside {s t : Server} {r : Request} (h : s.Attempts r t)
    (hr : r.isAside) : t.transactions = s.transactions := by
  rcases h with ⟨failures, rfl⟩ | ⟨a, h⟩
  · rfl
  · cases h with
    | begin | complete | closeTransaction | query | execute => cases hr
    | _ => rfl

namespace Session

variable {α β σ υ : Type} {s t u : Session} {tx : TransactionId}

structure Intact (s t : Session) : Prop where
  slot : t.slot = s.slot
  handles : t.handles = s.handles
  transactions : t.server.transactions = s.server.transactions
  tables : t.server.tables = s.server.tables
  unended : Adds (fun r => r.ends = false) s t

theorem Intact.refl (s : Session) : Intact s s :=
  ⟨rfl, rfl, rfl, rfl, .refl s⟩

theorem Intact.trans (h : Intact s t) (h' : Intact t u) : Intact s u where
  slot := h'.slot.trans h.slot
  handles := h'.handles.trans h.handles
  transactions := h'.transactions.trans h.transactions
  tables := h'.tables.trans h.tables
  unended := h.unended.trans h'.unended

theorem Intact.live? (h : Intact s t) : t.live? = s.live? := by
  have closed : t.isClosed = s.isClosed :=
    funext fun tx => isClosed_congr (congrArg (Keyed.get? · tx) h.handles)
  simp only [Session.live?, h.slot, closed]

theorem Intact.goesOn (h : Intact s t) (hs : s.GoesOn tx) : t.GoesOn tx where
  live := h.live?.trans hs.live
  manual := (isAutocommit_congr (congrArg (Keyed.get? · tx) h.handles)).trans hs.manual

theorem Intact.single (h : Intact s t) (hs : s.Single) : t.Single :=
  hs.of_same h.handles h.slot

theorem intact_call {r : Request} (timeout : Option Milliseconds) (unended : r.ends = false)
    (transactions : ((call r timeout).final s).server.transactions = s.server.transactions)
    (tables : ((call r timeout).final s).server.tables = s.server.tables) :
    Intact s ((call r timeout).final s) where
  slot := by rw [final_call]
  handles := by rw [final_call]
  transactions := transactions
  tables := tables
  unended := adds_call timeout s unended

theorem intact_aside {r : Request} (timeout : Option Milliseconds) (s : Session) (concern : r.isAside) :
    Intact s ((call r timeout).final s) := by
  have attempts := call_attempts r timeout s
  refine intact_call timeout (r.ends_of_isAside concern) (attempts.transactions_of_isAside concern) ?_
  refine attempts.tables fun tx commits => ?_
  subst commits
  cases concern

theorem intact_refused {r : Request} {timeout : Option Milliseconds} {e : Error}
    (unended : r.ends = false) (fails : (call r timeout).outcome s = .error e) :
    Intact s ((call r timeout).final s) := by
  obtain ⟨failures, same⟩ := call_error fails
  exact intact_call timeout unended (by rw [same]) (by rw [same])

theorem intact_of_beside (run : Beside s t) : Intact s t := by
  induction run with
  | refl => exact .refl s
  | tail _ ask ih =>
    cases ask with
    | ask timeout _ concern => exact ih.trans (intact_aside timeout _ concern)

theorem GoesOn.intact_of_tidies (h : s.GoesOn tx) (hs : s.Single) (step : Tidies s t) : Intact s t := by
  cases step with
  | aside timeout _ concern => exact intact_aside timeout s concern
  | finish tx' =>
    rw [final_finish]
    split
    next autocommit =>
      have closed : s.isClosed tx' = true := by
        by_contra isOpen
        have slot := hs tx' (eq_false_of_ne_true isOpen)
        have same : tx = tx' :=
          Option.some.inj ((live?_eq_some_iff.mp h.live).1.symm.trans slot)
        rw [← same, h.manual] at autocommit
        cases autocommit
      rw [final_complete_closed .commit tx' closed]
      exact .refl s
    next => exact .refl s

theorem GoesOn.intact_of_tidying (h : s.GoesOn tx) (hs : s.Single) (run : ReflTransGen Tidies s t) :
    Intact s t := by
  induction run with
  | refl => exact .refl s
  | tail _ step ih => exact ih.trans ((ih.goesOn h).intact_of_tidies (ih.single hs) step)

/-- While `tx` goes on, a failure of the action without a timeout leaves everything intact. -/
def Spares (tx : TransactionId) (view : σ → Session) (x : Action σ α) : Prop :=
  ∀ s e, (view s).GoesOn tx → x.outcome s = .error e → e.isTimeout = false →
    (view s).Intact (view (x.final s))

section Spares

variable {view : σ → Session}

theorem Spares.of_session {x : Action Session α}
    (hx : ∀ s e, s.GoesOn tx → x.outcome s = .error e → e.isTimeout = false → s.Intact (x.final s)) :
    Spares tx id x :=
  hx

theorem spares_throw (e : Error) : Spares tx view (throw e : Action σ α) :=
  fun s _ _ _ _ => .refl (view s)

theorem Spares.after {x : Action σ β} {f : β → Action σ α} (hf : ∀ b, Spares tx view (f b))
    (beside : x.Follows (Asks fun r => r.isAside) view) : Spares tx view (x >>= f) := by
  intro s e goesOn fails untimed
  have first := intact_of_beside (beside s)
  rw [outcome_bind] at fails
  rw [final_bind]
  cases answered : x.outcome s with
  | error e' => exact first
  | ok b =>
    rw [answered] at fails
    exact first.trans (hf b _ e (first.goesOn goesOn) fails untimed)

theorem Spares.map {x : Action σ β} (hx : Spares tx view x) (f : β → α) :
    Spares tx view (x >>= fun b => pure (f b)) := by
  intro s e goesOn fails untimed
  rw [outcome_bind] at fails
  rw [final_bind]
  cases answered : x.outcome s with
  | error e' =>
    rw [answered] at fails
    cases fails
    exact hx s e goesOn answered untimed
  | ok b =>
    rw [answered] at fails
    cases fails

theorem Spares.zoom {part : υ → Session} {look : σ → υ} {place : σ → υ → σ} {x : Action υ α}
    (hx : Spares tx part x) (hl : ∀ s, part (look s) = view s)
    (hp : ∀ s u, view (place s u) = part u) : Spares tx view (x.zoom look place) := by
  intro s e goesOn fails untimed
  rw [outcome_zoom] at fails
  rw [final_zoom, hp, ← hl]
  rw [← hl] at goesOn
  exact hx (look s) e goesOn fails untimed

theorem spares_execute (limits : StatementLimits) (prepared : Prepared) (parameters : List Parameter) :
    Spares tx id (execute limits tx prepared parameters) :=
  fun _ _ _ fails _ => intact_refused rfl fails

theorem Spares.givingBack {x : Action Session α} (hx : Spares tx id x) (prepared : Prepared) :
    Spares tx id (do
      let outcome ← x.attempt
      dispose prepared
      Action.ofExcept outcome) := by
  refine .of_session fun s e goesOn fails untimed => ?_
  simp only [dispose, outcome_bind, final_bind, outcome_attempt, final_attempt, outcome_bestEffort,
    final_bestEffort, outcome_ofExcept, final_ofExcept] at fails ⊢
  exact (hx s e goesOn fails untimed).trans (intact_aside none _ rfl)

theorem GoesOn.final_abortAfter (h : s.GoesOn tx) {e : Error} (untimed : e.isTimeout = false) :
    (abortAfter tx e).final s = s := by
  rw [Session.final_abortAfter, h.manual, untimed]
  rfl

theorem spares_inTransaction {work : TransactionId → Action Session α} (hw : Spares tx id (work tx))
    (working : Working (fun _ => True) tx (work tx)) : Spares tx id (inTransaction work) := by
  refine .of_session fun s e goesOn fails untimed => ?_
  obtain ⟨outcome, final⟩ := goesOn.inTransaction work working
  have failed := outcome.symm.trans fails
  have worked : ((work tx).final s).GoesOn tx := goesOn.works (working s)
  rw [final, failed]
  dsimp only
  rw [worked.final_abortAfter untimed]
  exact hw s e goesOn failed untimed

theorem spares_query (limits : StatementLimits) (prepared : Prepared) (owned : Bool)
    (parameters : List Parameter) : Spares tx id (query limits prepared owned parameters) := by
  refine .of_session fun s e goesOn fails untimed => ?_
  obtain ⟨found, same⟩ := goesOn.getOrBegin
  simp only [query, outcome_bind, final_bind, outcome_attempt, final_attempt, found, same]
    at fails ⊢
  cases answered : (call (.query tx prepared.id parameters) limits.timeout).outcome s with
  | ok result =>
    rw [answered] at fails
    cases fails
  | error e' =>
    have refused := intact_refused rfl answered
    rw [answered] at fails
    obtain ⟨t, after, final, outcome⟩ := beside_giveBack owned prepared
      (abortAfter tx e' >>= fun _ => throw e' : Action Session Cursor)
      ((call (.query tx prepared.id parameters) limits.timeout).final s)
    have intact := refused.trans (intact_of_beside after)
    rw [outcome, outcome_bind, outcome_abortAfter] at fails
    cases fails
    rw [final, final_bind, outcome_abortAfter]
    dsimp only
    rw [final_throw, (intact.goesOn goesOn).final_abortAfter untimed]
    exact intact

end Spares

end Session

namespace Statement

variable {α : Type} {tx : TransactionId} (st : Statement) (sql : String)

theorem spares_prepared {x : Prepared → Action Session α} (hx : ∀ p, Spares tx id (x p)) :
    Spares tx id (Session.prepare st.limits sql [] >>= x) :=
  Spares.after hx (besides_call _ rfl)

theorem spares_opened {x : Action Session α} (hx : Spares tx id x) :
    Spares tx id (st.ensureOpen >>= fun _ => x) :=
  Spares.after (fun _ => hx) (follows_of_final_eq st.final_ensureOpen)

theorem spares_executeQuery : Spares tx id (st.executeQuery sql) := by
  refine st.spares_opened (st.spares_prepared sql fun prepared => ?_)
  split
  · exact spares_query _ prepared true []
  · exact Spares.after (fun _ => spares_throw _) (besides_dispose prepared)

theorem spares_executeOnly (prepared : Prepared) : Spares tx id (st.executeOnly tx prepared) := by
  unfold executeOnly
  split
  · exact spares_throw _
  · exact spares_execute st.limits prepared []

theorem spares_executeUpdate : Spares tx id (st.executeUpdate sql) := by
  have every (r : Request) : True := trivial
  refine st.spares_opened (spares_inTransaction ?_ ?_)
  · exact st.spares_prepared sql fun prepared => (st.spares_executeOnly prepared).givingBack prepared
  · exact working_withPrepared every st sql (working_executeOnly every st tx)

theorem spares_execute : Spares tx id (st.execute sql) := by
  refine st.spares_opened (st.spares_prepared sql fun prepared => ?_)
  split
  · exact (spares_query _ prepared true []).map Outcome.rows
  · have runs : Spares tx id
        (Session.inTransaction fun tx => Session.execute st.limits tx prepared []) :=
      spares_inTransaction (Session.spares_execute st.limits prepared [])
        (working_execute st.limits tx prepared [] trivial)
    have gives := (runs.givingBack prepared).map Outcome.updated
    simp only [bind_assoc] at gives
    exact gives

end Statement

namespace PreparedStatement

variable {α : Type} {tx : TransactionId} (prepared : Prepared) (parameters : List Parameter)

theorem spares_ready {x : List Parameter × Prepared → Method α}
    (hx : ∀ r, Spares tx Prod.snd (x r)) : Spares tx Prod.snd (ready >>= x) :=
  Spares.after hx besides_ready

theorem spares_send {x : Action Session α} (hx : Spares tx id x) : Spares tx Prod.snd (send x) :=
  hx.zoom (fun _ => rfl) fun _ _ => rfl

theorem spares_query : Spares tx Prod.snd (query prepared parameters) :=
  Spares.after (fun p => spares_send (Session.spares_query p.limits prepared false parameters))
    besides_statement

theorem spares_update : Spares tx Prod.snd (update prepared parameters) := by
  refine Spares.after (fun p => spares_send ?_) besides_statement
  exact spares_inTransaction (spares_execute p.limits prepared parameters)
    (working_execute p.limits tx prepared parameters trivial)

theorem spares_executeQuery : Spares tx Prod.snd executeQuery := by
  refine spares_ready fun r => ?_
  dsimp only
  split
  · exact spares_query r.2 r.1
  · exact spares_throw _

theorem spares_executeUpdate : Spares tx Prod.snd executeUpdate := by
  refine spares_ready fun r => ?_
  dsimp only
  split
  · exact spares_throw _
  · exact spares_update r.2 r.1

theorem spares_execute : Spares tx Prod.snd execute := by
  refine spares_ready fun r => ?_
  dsimp only
  split
  · exact (spares_query r.2 r.1).map Outcome.rows
  · exact (spares_update r.2 r.1).map Outcome.updated

end PreparedStatement

namespace Client

variable {α : Type} {k : Client} {n : Nat} {tx : TransactionId} {e : Error}

theorem spares_onSession {x : Action Session α} (hx : Spares tx id x) :
    Spares tx session (onSession x) :=
  hx.zoom (fun _ => rfl) fun _ _ => rfl

theorem spares_onPrepared {x : PreparedStatement.Method α} (hx : Spares tx Prod.snd x)
    (q : PreparedStatement) : Spares tx session (onPrepared n q x) :=
  hx.zoom (fun _ => rfl) fun _ _ => rfl

theorem intact_dropCursor {x : Action Client α} (hx : Spares tx session x)
    (goesOn : k.session.GoesOn tx) (single : k.session.Single) (fails : x.outcome k = .error e)
    (untimed : e.isTimeout = false) (n : Nat) :
    Intact k.session ((dropCursor n).final (x.final k)).session := by
  have executed := hx k e goesOn fails untimed
  have dropped := (executed.goesOn goesOn).intact_of_tidying (executed.single single)
    (tidies_dropCursor n (x.final k))
  exact executed.trans dropped

theorem intact_keepOutcome {x : Action Client Outcome} (hx : Spares tx session x)
    (goesOn : k.session.GoesOn tx) (single : k.session.Single)
    (fails : (keepOutcome n x).outcome k = .error e) (untimed : e.isTimeout = false) :
    Intact k.session ((keepOutcome n x).final k).session := by
  rw [session_keepOutcome]
  exact intact_dropCursor hx goesOn single (keepOutcome_error_iff.mp fails) untimed n

theorem intact_keepCursor {x : Action Client Cursor} (hx : Spares tx session x)
    (goesOn : k.session.GoesOn tx) (single : k.session.Single)
    (fails : (keepCursor n x).outcome k = .error e) (untimed : e.isTimeout = false) :
    Intact k.session ((keepCursor n x).final k).session := by
  rw [session_keepCursor]
  exact intact_dropCursor hx goesOn single (keepCursor_error_iff.mp fails) untimed n

end Client

open Client

variable {k : Client} {n : Nat} {tx : TransactionId} {e : Error}

theorem StatementCall.intact (goesOn : k.session.GoesOn tx) (single : k.session.Single)
    (st : Statement) (c : StatementCall) (executes : (Call.statement n c).executesOne = true)
    (fails : (c.perform n st).outcome k = .error e) (untimed : e.isTimeout = false) :
    Intact k.session ((c.perform n st).final k).session := by
  cases c with
  | query keep sql =>
    exact intact_keepCursor (spares_onSession (st.spares_executeQuery sql)) goesOn single fails untimed
  | update sql => exact spares_onSession (st.spares_executeUpdate sql) k e goesOn fails untimed
  | execute keep sql =>
    exact intact_keepOutcome (spares_onSession (st.spares_execute sql)) goesOn single fails untimed
  | _ => cases executes

theorem PreparedCall.intact (goesOn : k.session.GoesOn tx) (single : k.session.Single)
    (q : PreparedStatement) (c : PreparedCall) (executes : (Call.prepared n c).executesOne = true)
    (fails : (c.perform n q).outcome k = .error e) (untimed : e.isTimeout = false) :
    Intact k.session ((c.perform n q).final k).session := by
  cases c with
  | query keep =>
    exact intact_keepCursor (spares_onPrepared PreparedStatement.spares_executeQuery q) goesOn single
      fails untimed
  | update => exact spares_onPrepared PreparedStatement.spares_executeUpdate q k e goesOn fails untimed
  | execute keep =>
    exact intact_keepOutcome (spares_onPrepared PreparedStatement.spares_execute q) goesOn single
      fails untimed
  | _ => cases executes

namespace Client

theorem Reached.intact_of_failed (h : k.Reached) (live : k.session.live? = some tx)
    (manual : k.session.isAutocommit tx = false) {c : Call} (executes : c.executesOne = true)
    (fails : (k.call c).1 = some (.error e)) (untimed : e.isTimeout = false) :
    (k.call c).2.session.live? = some tx ∧ k.session.Intact (k.call c).2.session := by
  have goesOn : k.session.GoesOn tx := ⟨live, manual⟩
  suffices intact : k.session.Intact (k.call c).2.session from ⟨intact.live?.trans live, intact⟩
  cases c with
  | connection | coordinator | handle | cursor => cases executes
  | statement n c =>
    simp only [Client.call, runOn_eq] at fails ⊢
    cases known : k.statements.get? n with
    | none =>
      rw [known] at fails
      cases fails
    | some st =>
      rw [known] at fails
      exact c.intact goesOn h.single st executes (Option.some.inj fails) untimed
  | prepared n c =>
    simp only [Client.call, runOn_eq] at fails ⊢
    cases known : k.prepared.get? n with
    | none =>
      rw [known] at fails
      cases fails
    | some q =>
      rw [known] at fails
      exact c.intact goesOn h.single q executes (Option.some.inj fails) untimed

def inserting : List Command :=
  [.arrange (.createTable "t" []), .call (.coordinator (.transaction none)),
    .call (.connection (.statement 0)), .call (.statement 0 (.update "insert into t values (1)"))]

def inserted : Client :=
  (start (.plain false)).after inserting

def insertMissing : Call :=
  .statement 0 (.update "insert into missing values (2)")

theorem intact_of_failed_inserting :
    (inserted.call insertMissing).2.session.live? = some ⟨1⟩ ∧
      (inserted.call insertMissing).2.session.server.staged ⟨1⟩ = [.insert "t" [.int8 1]] := by
  have reached : inserted.Reached := reached_of_start (.plain false) (by decide)
  have live : inserted.session.live? = some ⟨1⟩ := by decide
  have fails : (inserted.call insertMissing).1 =
      some (.error (.execution (.server (.tableNotFound "missing")))) := by rfl
  obtain ⟨still, intact⟩ := reached.intact_of_failed live (by decide) rfl fails rfl
  refine ⟨still, ?_⟩
  rw [Server.staged, intact.transactions]
  decide

end Client

end SqlClient
