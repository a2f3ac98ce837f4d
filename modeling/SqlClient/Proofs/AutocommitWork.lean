import SqlClient.Proofs.Autocommit

namespace SqlClient

open SqlClient.Action Relation Session

namespace Session

variable {α : Type} {s₀ s t : Session} {tx : TransactionId} {w ws : List Write}

def nextMode (s : Session) : Bool :=
  match s.live? with
  | some tx => s.isAutocommit tx
  | none => s.autocommit

structure Idle (s₀ s : Session) : Prop where
  regular : s.Regular
  auto : s.nextMode = true
  tables : s.server.tables = s₀.server.tables
  quiet : Adds (Request.OnlyRuns fun _ => False) s₀ s

structure Inside (s₀ : Session) (tx : TransactionId) (w : List Write) (s : Session) : Prop where
  isOpen : s.isClosed tx = false
  only : ∀ tx', s.isClosed tx' = false → tx' = tx
  auto : s.isAutocommit tx = true
  tables : s.server.tables = s₀.server.tables
  staged : s.server.staged tx = w
  uncommitted : .completed .commit tx ∉ s.server.events
  ran : Adds (Request.OnlyRuns fun tx' => tx' = tx) s₀ s

structure Done (s₀ : Session) (ws : List Write) (s : Session) : Prop where
  tables : s.server.tables = ws.foldl Server.applyWrite s₀.server.tables
  closed : ∀ tx, s.isClosed tx = true

structure Spent (s₀ s : Session) : Prop where
  tables : s.server.tables = s₀.server.tables
  ran : Adds (Request.OnlyRuns fun tx => s.Abandoned tx) s₀ s

theorem Idle.spent (h : Idle s₀ s) : Spent s₀ s :=
  ⟨h.tables, h.quiet.allow fun _ => False.elim⟩

theorem Done.calm (h : Done s₀ ws s) (calm : Calm s t) : Done s₀ ws t :=
  ⟨calm.tables.trans h.tables, calm.closed h.closed⟩

theorem Spent.calm (h : Spent s₀ s) (calm : Calm s t) : Spent s₀ t := by
  refine ⟨calm.tables.trans h.tables, ?_⟩
  have before := h.ran.allow calm.abandoned
  exact before.trans (calm.quiet.allow fun _ => False.elim)

theorem nextMode_congr (slot : t.slot = s.slot) (handles : t.handles = s.handles)
    (autocommit : t.autocommit = s.autocommit) : t.nextMode = s.nextMode := by
  simp only [nextMode, live?, isClosed, isAutocommit, slot, handles, autocommit]

theorem nextMode_forget (s : Session) : nextMode { s with slot := s.live? } = s.nextMode := by
  simp only [nextMode, live?_forget]
  rfl

theorem isAutocommit_getOrBegin (h : getOrBegin.outcome s = .ok tx) :
    (getOrBegin.final s).isAutocommit tx = s.nextMode := by
  rw [outcome_getOrBegin] at h
  rw [final_getOrBegin]
  cases live : s.live? with
  | some tx' =>
    rw [live] at h
    cases h
    simp only [nextMode, live]
    rfl
  | none =>
    rw [live] at h
    dsimp only at h ⊢
    rw [outcome_begin] at h
    rw [final_begin, h]
    simp only [nextMode, live, isAutocommit, Keyed.get?_put_self]

theorem tables_getOrBegin (s : Session) :
    (getOrBegin.final s).server.tables = s.server.tables := by
  rw [final_getOrBegin]
  split
  · rfl
  · rw [final_begin]
    have attempt (t : Session) := (call_attempts (.begin t.settings.options.1) none t.asking).tables
      fun tx => by simp
    split <;> exact attempt _

theorem adds_getOrBegin (s : Session) :
    Adds (Request.OnlyRuns fun _ => False) s (getOrBegin.final s) := by
  have moving := @moving_getOrBegin (fun r => r.isBegin) (fun _ => rfl)
  refine (adds_of_moving moving s).mono fun r begins tx id parameters hr => ?_
  subst hr
  cases begins

theorem ensures_getOrBegin :
    Ensures (Idle s₀) getOrBegin (fun tx => Inside s₀ tx []) (Spent s₀) := by
  intro s idle
  have regular : (getOrBegin.final s).Regular :=
    idle.regular.run (@moving_getOrBegin (fun _ => True) (fun _ => trivial) s)
  have tables := (tables_getOrBegin s).trans idle.tables
  have quiet := idle.quiet.trans (adds_getOrBegin s)
  cases h : getOrBegin.outcome s with
  | error e => exact ⟨tables, quiet.allow fun _ => False.elim⟩
  | ok tx =>
    obtain ⟨slot, isOpen⟩ := live?_eq_some_iff.mp (live_of_getOrBegin h)
    have auto := (isAutocommit_getOrBegin h).trans idle.auto
    have running := (regular.orderly tx).running isOpen
    refine ⟨isOpen, fun tx' isOpen' => ?_, auto, tables, regular.clean tx isOpen auto, ?_, ?_⟩
    · exact Option.some.inj ((regular.single tx' isOpen').symm.trans slot)
    · rw [mem_events_iff]
      exact running.uncommitted
    · exact quiet.allow fun _ => False.elim

theorem Idle.move (h : Idle s₀ s) (move : Moves (fun r => r.isAside) s t) : Idle s₀ t := by
  have puts := move.puts
  refine ⟨h.regular.move move, ?_, ?_,
    h.quiet.trans ((adds_of_puts puts).mono fun _ => Request.onlyRuns_of_isAside)⟩
  · rw [← h.auto]
    cases move with
    | forget => exact nextMode_forget s
    | aside => exact nextMode_congr (by rw [final_call]) (by rw [final_call]) (by rw [final_call])
    | work _ works =>
      exact nextMode_congr (by rw [works.frame]) (by rw [works.frame]) (by rw [works.frame])
    | arrange free | setUp free => cases free (.closeTransaction ⟨0⟩)
    | begin hr => cases hr s.settings.options.1
    | query _ hr => cases hr
    | workAndEnd _ controls | complete _ _ _ controls | completeTaken _ _ controls =>
      cases controls.closeTransaction ⟨0⟩
  · rw [← h.tables]
    exact tables_run puts fun tx commits => by cases commits

theorem Idle.run (h : Idle s₀ s) (moves : ReflTransGen (Moves fun r => r.isAside) s t) :
    Idle s₀ t := by
  induction moves with
  | refl => exact h
  | tail _ move ih => exact ih.move move

theorem Idle.aside (h : Idle s₀ s) {r : Request} (timeout : Option Milliseconds)
    (concern : r.isAside) : Idle s₀ ((call r timeout).final s) :=
  h.move (.aside timeout s concern concern)

theorem ensures_getOrBegin_named (id : PreparedId) (sql : String) :
    Ensures (fun s => Idle s₀ s ∧ s.server.Names id sql) getOrBegin
      (fun tx s => Inside s₀ tx [] s ∧ s.server.Names id sql) (Spent s₀) := by
  have begins : Session.Moving (fun _ => True) getOrBegin := moving_getOrBegin fun _ => trivial
  have named := (@ensures_getOrBegin s₀).along (I := fun s => s.server.Names id sql) begins
    fun _ _ move h => names_run move.puts h
  exact named.fails fun _ h => h.1

theorem Inside.asked (h : Inside s₀ tx w s) {r : Request} (timeout : Option Milliseconds)
    (concern : r.isAside ∨ r.runsIn tx) :
    Inside s₀ tx (((call r timeout).final s).server.staged tx) ((call r timeout).final s) := by
  have attempt := call_attempts r timeout s
  have notControl (tx' : TransactionId) : r ≠ .complete .commit tx' := by
    rintro rfl
    simp [Request.isAside, Request.runsIn] at concern
  have runs : r.OnlyRuns fun tx' => tx' = tx := by
    rintro tx' id parameters rfl
    simpa [Request.isAside, Request.runsIn] using concern
  have same : ((call r timeout).final s).handles = s.handles := by rw [final_call]
  have closed (tx' : TransactionId) : ((call r timeout).final s).isClosed tx' = s.isClosed tx' :=
    isClosed_congr (by rw [same])
  refine ⟨(closed tx).trans h.isOpen, fun tx' isOpen => ?_, ?_, ?_, rfl, ?_, ?_⟩
  · exact h.only tx' ((closed tx').symm.trans isOpen)
  · exact (isAutocommit_congr (by rw [same])).trans h.auto
  · exact (attempt.tables notControl).trans h.tables
  · exact attempt.uncommitted (notControl tx) h.uncommitted
  · exact h.ran.trans (adds_call timeout s runs)

theorem Inside.aside (h : Inside s₀ tx w s) {r : Request} (timeout : Option Milliseconds)
    (concern : r.isAside) : Inside s₀ tx w ((call r timeout).final s) := by
  have after := h.asked timeout (.inl concern)
  rwa [(call_attempts r timeout s).staged_of_isAside concern, h.staged] at after

def Failing (s₀ : Session) (tx : TransactionId) (s : Session) : Prop :=
  ∃ w, Inside s₀ tx w s

theorem ensures_execute {sql : String} (limits : StatementLimits) (prepared : Prepared)
    (parameters : List Parameter) :
    Ensures (fun s => Inside s₀ tx w s ∧ s.server.Names prepared.id sql)
      (execute limits tx prepared parameters)
      (fun _ s => Inside s₀ tx (w ++ (Sql.write? sql parameters).toList) s ∧
        s.server.Names prepared.id sql) (Failing s₀ tx) := by
  rintro s ⟨inside, named⟩
  have after := inside.asked limits.timeout (r := .execute tx prepared.id parameters) (.inr rfl)
  simp only [execute]
  cases h : (call (.execute tx prepared.id parameters) limits.timeout).outcome s with
  | error e => exact ⟨_, after⟩
  | ok count =>
    have performs := call_performs h
    rw [performs.staged_execute named, inside.staged] at after
    exact ⟨after, performs.names named⟩

theorem ensures_prepare {K E : Session → Prop} (limits : StatementLimits) (sql : String)
    (placeholders : List Placeholder)
    (aside : ∀ s, K s → K ((call (.prepare sql placeholders) limits.timeout).final s))
    (fails : ∀ s, K s → E s) :
    Ensures K (prepare limits sql placeholders)
      (fun prepared s => K s ∧ s.server.Names prepared.id sql) E := by
  intro s hs
  have after := aside s hs
  simp only [prepare]
  cases h : (call (.prepare sql placeholders) limits.timeout).outcome s with
  | error e => exact fails _ after
  | ok prepared => exact ⟨after, (call_performs h).named.2⟩

theorem ensures_dispose {K E : Session → Prop} (prepared : Prepared)
    (aside : ∀ s, K s → K ((call (.dispose prepared.id) none).final s)) :
    Ensures K (dispose prepared) (fun _ => K) E := by
  intro s hs
  rw [dispose, outcome_bestEffort, final_bestEffort]
  exact aside s hs

theorem Inside.closed (h : Inside s₀ tx w s) (how : Completion) (tx' : TransactionId) :
    ((complete how tx).final s).isClosed tx' = true := by
  by_cases htx : tx' = tx
  · rw [htx]
    exact isClosed_complete_self how tx s
  · rw [isClosed_complete_of_ne how tx s htx]
    exact eq_true_of_ne_false fun isOpen => htx (h.only tx' isOpen)

theorem Inside.done (h : Inside s₀ tx w s) (committed : (complete .commit tx).outcome s = .ok ()) :
    Done s₀ w ((complete .commit tx).final s) := by
  refine ⟨?_, h.closed .commit⟩
  rw [outcome_complete_open _ _ h.isOpen] at committed
  rw [final_complete_open _ _ h.isOpen]
  have released := call_attempts (.closeTransaction tx) none
    ((call (.complete .commit tx) none).final (s.closeHandle tx))
  rw [released.tables (by simp), (call_performs committed).tables_commit, ← h.staged, ← h.tables]
  rfl

theorem Inside.spent (h : Inside s₀ tx w s) {how : Completion}
    (uncommitted : how = .rollback ∨ ∃ e, (complete how tx).outcome s = .error e) :
    Spent s₀ ((complete how tx).final s) := by
  let v := (call (.complete how tx) none).final (s.closeHandle tx)
  have ended : v.server.tables = s.server.tables ∧ .completed .commit tx ∉ v.server.events := by
    rcases uncommitted with rfl | ⟨e, failed⟩
    · have attempt := call_attempts (.complete .rollback tx) none (s.closeHandle tx)
      exact ⟨attempt.tables (by simp), attempt.uncommitted (by simp) h.uncommitted⟩
    · rw [outcome_complete_open _ _ h.isOpen] at failed
      obtain ⟨failures, same⟩ := call_error failed
      rw [same]
      exact ⟨rfl, h.uncommitted⟩
  have released : v.server.Attempts (.closeTransaction tx) ((complete how tx).final s).server := by
    rw [final_complete_open _ _ h.isOpen]
    exact call_attempts _ none v
  -- the handle is closed before the server is asked, whatever it answers
  obtain ⟨handle, known, -⟩ := isClosed_eq_false_iff.mp h.isOpen
  have abandoned : ((complete how tx).final s).Abandoned tx := by
    refine ⟨⟨{ handle with closed := true }, ?_, rfl⟩, released.uncommitted (by simp) ended.2⟩
    rw [handles_complete_open how tx h.isOpen, get?_closeHandle_self, known]
    rfl
  refine ⟨((released.tables (by simp)).trans ended.1).trans h.tables, ?_⟩
  have controls := Request.controls_onlyRuns fun tx' => tx' = tx
  have completes := adds_of_puts (puts_complete controls how tx s)
  apply (h.ran.trans completes).allow
  rintro _ rfl
  exact abandoned

theorem ensures_finish : Ensures (Inside s₀ tx w) (finish tx) (fun _ => Done s₀ w) (Spent s₀) := by
  intro s inside
  have outcome : (finish tx).outcome s = (complete .commit tx).outcome s := by
    simp only [finish, outcome_bind, outcome_get, final_get, inside.auto, ↓reduceIte]
  rw [outcome, final_finish, if_pos inside.auto]
  cases h : (complete .commit tx).outcome s with
  | ok _ => exact inside.done h
  | error e => exact inside.spent (.inr ⟨e, h⟩)

theorem ensures_abortAfter (e : Error) :
    Ensures (Failing s₀ tx) (abortAfter tx e) (fun _ => Spent s₀) (Spent s₀) := by
  rintro s ⟨w, inside⟩
  have spent : Spent s₀ ((abortAfter tx e).final s) := by
    rw [final_abortAfter, inside.auto, Bool.true_or, if_pos rfl]
    exact inside.spent (.inl rfl)
  split <;> exact spent

theorem ensures_inTransaction {P : Session → Prop} {Q : TransactionId → Session → Prop}
    {work : TransactionId → Action Session α} (begins : Ensures P getOrBegin Q (Spent s₀))
    (hw : ∀ tx, Ensures (Q tx) (work tx) (fun _ => Inside s₀ tx ws) (Failing s₀ tx)) :
    Ensures P (inTransaction work) (fun _ => Done s₀ ws) (Spent s₀) := by
  refine begins.bind fun tx => (hw tx).attempt.bind fun outcome => ?_
  cases outcome with
  | ok a => exact ensures_finish.bind fun _ => ensures_pure fun _ done => done
  | error e => exact (ensures_abortAfter e).bind fun _ => ensures_throw fun _ spent => spent

theorem ensures_executes (s₀ : Session) (limits : StatementLimits) (prepared : Prepared) (sql : String)
    (parameters : List Parameter) :
    Ensures (fun s => Idle s₀ s ∧ s.server.Names prepared.id sql)
      (inTransaction fun tx => execute limits tx prepared parameters)
      (fun _ => Done s₀ (Sql.write? sql parameters).toList) (Spent s₀) :=
  ensures_inTransaction (ensures_getOrBegin_named prepared.id sql) fun _ =>
    (ensures_execute limits prepared parameters).post fun _ _ h => h.1

end Session

end SqlClient
