import SqlClient.Proofs.Calls
import SqlClient.Proofs.Exchanges
import SqlClient.Proofs.LiveTransaction

namespace SqlClient

open SqlClient.Action Relation Session

def Command.asksCoordinator : Command → Bool
  | .call (.coordinator (.transaction _)) => true
  | _ => false

def Client.AsksOpenly (k : Client) : List Command → Prop
  | [] => True
  | c :: cs => (c.asksCoordinator = true → k.session.closed = false) ∧ (k.step c).2.AsksOpenly cs

def Call.needsOpen : Call → Bool
  | .connection (.statement _) | .connection (.prepare ..) | .connection (.complete _)
  | .connection (.transaction _) | .prepared _ (.bind ..) | .prepared _ .addBatch => true
  | c => c.executes

def Client.HasObject (k : Client) : Call → Prop
  | .connection _ | .coordinator _ => True
  | .handle n _ => (k.handles.get? n).isSome
  | .statement n _ => (k.statements.get? n).isSome
  | .prepared n _ => (k.prepared.get? n).isSome
  | .cursor n _ => (k.cursors.get? n).isSome

def Event.givesBack : Event → Bool
  | .disposed _ | .cursorClosed _ => true
  | _ => false

def Request.Lingers (r : Request) : Prop :=
  r.reads = true ∨ r.givesBack = true

namespace Server

variable {s t u : Server} {r : Request}

structure WindsDown (s t : Server) : Prop where
  events : ∃ added, t.events = s.events ++ added ∧ ∀ e ∈ added, e.givesBack = true
  tables : t.tables = s.tables

theorem WindsDown.refl (s : Server) : s.WindsDown s :=
  ⟨⟨[], (List.append_nil _).symm, by simp⟩, rfl⟩

theorem WindsDown.trans (h : s.WindsDown t) (h' : t.WindsDown u) : s.WindsDown u := by
  obtain ⟨added, events, gives⟩ := h.events
  obtain ⟨added', events', gives'⟩ := h'.events
  refine ⟨⟨added ++ added', ?_, fun e he => ?_⟩, h'.tables.trans h.tables⟩
  · rw [events', events, List.append_assoc]
  · exact (List.mem_append.mp he).elim (gives e) (gives' e)

theorem Performs.windsDown {a : r.Answer} (h : s.Performs r a t) (hr : r.Lingers) :
    s.WindsDown t := by
  refine ⟨⟨_, h.events, fun e he => ?_⟩, h.tables ?_⟩
  · cases r with
    | dispose | closeCursor =>
      rw [List.mem_singleton.mp he]
      rfl
    | describe | fetch | readLob => cases he
    | _ => exact hr.elim nofun nofun
  · rintro tx rfl
    exact hr.elim nofun nofun

theorem Attempts.windsDown (h : s.Attempts r t) (hr : r.Lingers) : s.WindsDown t := by
  rcases h with ⟨failures, rfl⟩ | ⟨a, performs⟩
  · exact ⟨⟨[], (List.append_nil _).symm, by simp⟩, rfl⟩
  · exact performs.windsDown hr

end Server

open Server

structure Session.WoundUp (s : Session) : Prop where
  closed : s.closed = true
  ended : ∀ tx, s.isClosed tx = true

namespace Session

variable {p : Permit} {s t : Session}

theorem WoundUp.subsides (h : s.WoundUp) (subsides : Subsides s t) : t.WoundUp :=
  ⟨subsides.shut h.closed, subsides.closed h.ended⟩

theorem woundUp_close (single : s.Single) (isOpen : s.closed = false) : (close.final s).WoundUp := by
  have closes : close.final s = (completeTaken .rollback).final { s with closed := true } := by
    simp only [close, final_bind, outcome_get, final_get, isOpen, Bool.false_eq_true, ↓reduceIte,
      outcome_modify, final_modify]
    rfl
  have slot : ((completeTaken .rollback).final { s with closed := true }).slot = none := by
    rw [final_completeTaken]
    split
    · exact slot_complete _ _ _
    · rfl
  have shut : Single { s with closed := true } := single.of_same rfl rfl
  have every : Request.Controls fun _ => True := .every fun _ => trivial
  have after := shut.move (.completeTaken .rollback _ every)
  rw [closes]
  refine ⟨(subsides_completeTaken _ _).shut rfl, fun tx => ?_⟩
  by_contra ended
  cases slot.symm.trans (after tx (eq_false_of_ne_true ended))

theorem WoundUp.tidies (h : s.WoundUp) (tidies : ReflTransGen Tidies s t) : t.WoundUp :=
  h.subsides (Subsides.of_run tidies fun _ _ tidies => tidies.subsides)

theorem close_closed (closed : s.closed = true) : close.outcome s = .ok () ∧ close.final s = s := by
  simp only [close, outcome_bind, final_bind, outcome_get, final_get, closed, ↓reduceIte]
  exact ⟨rfl, rfl⟩

theorem WoundUp.final_finish (h : s.WoundUp) (tx : TransactionId) : (finish tx).final s = s := by
  rw [Session.final_finish]
  split
  · exact final_complete_closed .commit tx (h.ended tx)
  · rfl

theorem WoundUp.steers (h : s.WoundUp) (steers : Steers p s t) (never : ¬p.begins) :
    t.server = s.server := by
  cases steers with
  | switch | configure | buildOptions | shut | forget => rfl
  | begin begins => exact absurd begins never
  | complete => rw [final_complete_closed _ _ (h.ended _)]
  | completeTaken =>
    rw [final_completeTaken]
    split
    next tx live => cases (h.ended tx).symm.trans (live?_eq_some_iff.mp live).2
    next => rfl
  | finish tx => rw [h.final_finish tx]

theorem windsDown_puts (run : ReflTransGen (Puts Request.Lingers) s t) :
    s.server.WindsDown t.server := by
  induction run with
  | refl => exact .refl _
  | @tail u v _ put ih =>
    cases put with
    | arranged free => exact (free (.closeTransaction ⟨0⟩)).elim nofun nofun
    | kept server => exact server ▸ ih
    | put r timeout hr server =>
      rw [server]
      exact ih.trans ((u.put_attempts r timeout).windsDown hr)

end Session

theorem Cursor.windsDown_close (c : Cursor) {s : Session} (h : s.WoundUp) :
    s.server.WindsDown (close.final (c, s)).2.server := by
  rw [final_close]
  cases c.resources with
  | none => exact .refl _
  | some r =>
    have releases := asking_release r s
    have released : ((release r).final s).WoundUp := h.subsides (subsides_asks releases)
    dsimp only
    rw [released.final_finish]
    refine windsDown_puts (ReflTransGen.mono ?_ _ _ releases)
    intro a b ask
    cases ask with
    | ask timeout _ hr => exact puts_call timeout a (.inr hr)

theorem Cursor.Turns.windsDown {σ σ' : Cursor × Session} (turns : Turns σ σ') (h : σ.2.WoundUp) :
    σ.2.server.WindsDown σ'.2.server := by
  cases turns with
  | change => exact .refl _
  | read hr timeout _ s => exact (call_attempts _ timeout s).windsDown (.inl hr)
  | exhaust c s =>
    rw [final_exhaust]
    split
    · exact windsDown_close _ h
    · exact .refl _
  | close c => exact c.windsDown_close h

theorem Cursor.windsDown_turning {σ σ' : Cursor × Session} (run : ReflTransGen Turns σ σ')
    (h : σ.2.WoundUp) : σ'.2.WoundUp ∧ σ.2.server.WindsDown σ'.2.server := by
  induction run with
  | refl => exact ⟨h, .refl _⟩
  | tail _ turns ih =>
    obtain ⟨woundUp, down⟩ := ih
    exact ⟨woundUp.tidies turns.tidies, down.trans (turns.windsDown woundUp)⟩

theorem PreparedStatement.windsDown_close (σ : PreparedStatement × Session) :
    σ.2.server.WindsDown (close.final σ).2.server := by
  have closes : Moving Request.Lingers close := moving_close fun _ => .inr rfl
  exact windsDown_puts (puts_of_moves (moves_session (closes σ)))

theorem Does.woundUp {p : Permit} {h h' : Holding} (does : Does p h h') (never : ¬p.begins)
    (hs : h.session.WoundUp) : h'.session.WoundUp := by
  cases does with
  | rearrange | discardCursor | prepare | changePrepared | discardPrepared => exact hs
  | steer steers => exact hs.subsides (steers.subsides never)
  | execute hx =>
    rw [(hx.refused hs.closed).2]
    exact hs
  | @executePrepared _ _ _ hx q s =>
    have same := (@PreparedStatement.IsExecution.refused _ _ _ hx (q, s) hs.closed).2
    rw [same]
    exact hs
  | useCursor hx c _ _ s => exact hs.tidies (hx.tidying (c, s))
  | closePrepared q _ _ s =>
    exact hs.subsides (subsides_asks (PreparedStatement.besides_close (q, s)))

theorem Does.windsDown {p : Permit} {h h' : Holding} (does : Does p h h') (never : ¬p.begins)
    (hs : h.session.WoundUp) : h.session.server.WindsDown h'.session.server := by
  cases does with
  | rearrange | discardCursor | prepare | changePrepared | discardPrepared => exact .refl _
  | steer steers =>
    rw [hs.steers steers never]
    exact .refl _
  | execute hx =>
    rw [(hx.refused hs.closed).2]
    exact .refl _
  | @executePrepared _ _ _ hx q s =>
    have same := (@PreparedStatement.IsExecution.refused _ _ _ hx (q, s) hs.closed).2
    rw [same]
    exact .refl _
  | useCursor hx c _ _ s => exact (Cursor.windsDown_turning (hx.turning (c, s)) hs).2
  | closePrepared q _ _ s => exact PreparedStatement.windsDown_close (q, s)

namespace Session

variable {p : Permit} {s t : Session} {tx : TransactionId}

theorem closed_asks {kind : Request → Prop} (run : ReflTransGen (Asks kind) s t) :
    t.closed = s.closed := by
  rw [asks_frame run]

theorem closed_begin (s : Session) : (Session.begin.final s).closed = s.closed := by
  rw [final_begin]
  split <;> rw [final_call] <;> rfl

theorem closed_getOrBegin (s : Session) : (getOrBegin.final s).closed = s.closed := by
  rw [final_getOrBegin]
  split
  · rfl
  · exact closed_begin _

theorem closed_complete (how : Completion) (tx : TransactionId) (s : Session) :
    ((complete how tx).final s).closed = s.closed := by
  cases h : s.isClosed tx with
  | true => rw [final_complete_closed how tx h]
  | false =>
    rw [final_complete_open how tx h, final_call, final_call]
    rfl

theorem closed_finish (tx : TransactionId) (s : Session) : ((finish tx).final s).closed = s.closed := by
  rw [final_finish]
  split
  · exact closed_complete .commit tx s
  · rfl

theorem closed_abortAfter (tx : TransactionId) (e : Error) (s : Session) :
    ((abortAfter tx e).final s).closed = s.closed := by
  rw [final_abortAfter]
  split
  · exact closed_complete .rollback tx s
  · rfl

theorem closed_completeTaken (how : Completion) (s : Session) :
    ((completeTaken how).final s).closed = s.closed := by
  rw [final_completeTaken]
  split
  · exact closed_complete how _ _
  · rfl

theorem closed_amid (h : Amid s tx t) : t.closed = s.closed := by
  obtain ⟨u, before, -, works⟩ := h
  exact ((closed_asks works).trans (closed_getOrBegin u)).trans (closed_asks before)

theorem Executes.closed {early : Bool} {r : Except Error (Option Cursor)} (h : Executes early s r t) :
    t.closed = s.closed := by
  cases h with
  | refused beside | vacant beside => exact closed_asks beside
  | unbegun before _ after =>
    exact ((closed_asks after).trans (closed_getOrBegin _)).trans (closed_asks before)
  | opened amid => exact closed_amid amid
  | finished amid after =>
    exact ((closed_asks after).trans (closed_finish _ _)).trans (closed_amid amid)
  | aborted amid after =>
    exact ((closed_asks after).trans (closed_abortAfter _ _ _)).trans (closed_amid amid)

theorem Steers.closed (h : Steers p s t) (never : ¬p.shuts) : t.closed = s.closed := by
  cases h with
  | switch | configure | buildOptions | forget => rfl
  | shut shuts => exact absurd shuts never
  | begin => exact closed_begin s
  | complete => exact closed_complete _ _ s
  | completeTaken => exact closed_completeTaken _ s
  | finish tx => exact closed_finish tx s

theorem closed_tidies (run : ReflTransGen Tidies s t) : t.closed = s.closed := by
  induction run with
  | refl => rfl
  | tail _ tidies ih =>
    rw [← ih]
    cases tidies with
    | aside => rw [final_call]
    | finish tx => exact closed_finish tx _

end Session

theorem Does.closed {p : Permit} {h h' : Holding} (does : Does p h h') (never : ¬p.shuts) :
    h'.session.closed = h.session.closed := by
  cases does with
  | rearrange | discardCursor | prepare | changePrepared | discardPrepared => rfl
  | steer steers => exact steers.closed never
  | execute hx => exact (hx.executing _ _ .refl).closed
  | executePrepared hx => exact (hx.executing _ _ .refl).closed
  | useCursor hx c _ _ s => exact closed_tidies (hx.tidying (c, s))
  | closePrepared q _ _ s => exact closed_asks (PreparedStatement.besides_close (q, s))

namespace Client

variable {k k₀ : Client}

theorem refused_onSession {α : Type} {x : Action Session α} (hx : x.Refused k.session) :
    (onSession x).Refused k :=
  hx.zoom rfl

end Client

open Client

variable {k : Client} {n : Nat}

theorem ConnectionCall.refused (closed : k.session.closed = true) {c : ConnectionCall}
    (needs : (Call.connection c).needsOpen = true) :
    ∃ what, c.perform.outcome k = .error (.closed what) := by
  cases c with
  | statement keep =>
    have fails := (refused_onSession (k := { k with statements := k.statements.erase keep })
      (Session.refused_ensureOpen closed)).bind fun _ => changeStatement keep .new
    exact fails.1
  | prepare keep sql =>
    obtain ⟨what, fails⟩ := (refused_onSession (Session.refused_ensureOpen closed)).1
    refine ⟨what, ?_⟩
    simp only [perform, keepPrepared, outcome_bind, outcome_attempt, final_attempt, fails,
      outcome_dropPrepared, outcome_ofExcept]
  | complete how =>
    exact (refused_onSession ((Session.refused_ensureOpen closed).bind fun _ => completeLive how)).1
  | transaction keep =>
    obtain ⟨what, fails⟩ :=
      (refused_onSession ((Session.refused_ensureOpen closed).bind fun _ => getOrBegin)).1
    exact ⟨what, keepTransaction_error fails⟩
  | _ => cases needs

theorem StatementCall.refused (closed : k.session.closed = true) (st : Statement) {c : StatementCall}
    (needs : (Call.statement n c).needsOpen = true) :
    ∃ what, (c.perform n st).outcome k = .error (.closed what) := by
  have refuses {α : Type} {early : Bool} {x : Action Session α} {opens : α → Option Cursor}
      (hx : Statement.IsExecution early x opens) :
      ∃ what, (onSession x).outcome k = .error (.closed what) :=
    (refused_onSession (hx.refused closed)).1
  cases c with
  | query keep sql =>
    obtain ⟨what, fails⟩ := refuses (.query st sql)
    exact ⟨what, keepCursor_error_iff.mpr fails⟩
  | update sql => exact refuses (.update st sql)
  | execute keep sql =>
    obtain ⟨what, fails⟩ := refuses (.execute st sql)
    exact ⟨what, keepOutcome_error_iff.mpr fails⟩
  | executeBatch =>
    obtain ⟨what, fails⟩ := ((Statement.IsExecution.batch st st.batch).refused closed).1
    refine ⟨what, ?_⟩
    rw [perform, onStatement, outcome_zoom, Statement.outcome_executeBatch]
    exact fails
  | _ => cases needs

theorem PreparedCall.refused (closed : k.session.closed = true) (q : PreparedStatement)
    {c : PreparedCall} (needs : (Call.prepared n c).needsOpen = true) :
    ∃ what, (c.perform n q).outcome k = .error (.closed what) := by
  have within {α : Type} {x : PreparedStatement.Method α} (hx : x.Refused (q, k.session)) :
      ∃ what, (onPrepared n q x).outcome k = .error (.closed what) := by
    rw [onPrepared, outcome_zoom]
    exact hx.1
  have opens := @PreparedStatement.refused_ensureOpen (q, k.session) closed
  cases c with
  | bind index value declared => exact within (opens.bind _)
  | addBatch => exact within (opens.bind _)
  | query keep =>
    obtain ⟨what, fails⟩ := within (PreparedStatement.IsExecution.query.refused closed)
    exact ⟨what, keepCursor_error_iff.mpr fails⟩
  | update => exact within (PreparedStatement.IsExecution.update.refused closed)
  | execute keep =>
    obtain ⟨what, fails⟩ := within (PreparedStatement.IsExecution.execute.refused closed)
    exact ⟨what, keepOutcome_error_iff.mpr fails⟩
  | executeBatch => exact within (PreparedStatement.IsExecution.batch.refused closed)
  | _ => cases needs

theorem Client.refused_call (closed : k.session.closed = true) {c : Call}
    (needs : c.needsOpen = true) (has : k.HasObject c) :
    ∃ what, (k.call c).1 = some (.error (.closed what)) := by
  cases c with
  | connection c =>
    obtain ⟨what, fails⟩ := c.refused closed needs
    exact ⟨what, by rw [call, runOn_eq, fails]⟩
  | statement n c =>
    obtain ⟨st, known⟩ := Option.isSome_iff_exists.mp has
    obtain ⟨what, fails⟩ := c.refused closed st needs
    refine ⟨what, ?_⟩
    rw [call, runOn_eq, known]
    exact congrArg some fails
  | prepared n c =>
    obtain ⟨q, known⟩ := Option.isSome_iff_exists.mp has
    obtain ⟨what, fails⟩ := c.refused closed q needs
    refine ⟨what, ?_⟩
    rw [call, runOn_eq, known]
    exact congrArg some fails
  | coordinator | handle | cursor => cases needs

namespace Client

theorem never_begins (closed : k.session.closed = true) {c : Call}
    (never : (Command.call c).asksCoordinator = false) : ¬(k.permit c).begins := by
  intro begins
  rcases begins_cases begins with ⟨keep, rfl, isOpen⟩ | ⟨keep, rfl⟩
  · cases closed.symm.trans isOpen
  · cases never

theorem woundUp_step (hs : k.session.WoundUp) {c : Command} (never : c.asksCoordinator = false) :
    (k.step c).2.session.WoundUp := by
  cases c with
  | arrange | direct => exact ⟨hs.closed, hs.ended⟩
  | call c =>
    have step (h h' : Holding) (does : Does (k.permit c) h h') (hh : h.session.WoundUp) :
        h'.session.WoundUp := does.woundUp (never_begins hs.closed never) hh
    exact k.keeps_call c step hs

theorem woundUp_after (hs : k.session.WoundUp) {cs : List Command}
    (hcs : ∀ c ∈ cs, c.asksCoordinator = false) : (k.after cs).session.WoundUp :=
  after_induct (I := fun k => k.session.WoundUp) (fun _ _ never hs => woundUp_step hs never) hcs hs

theorem windsDown_call (hs : k.session.WoundUp) {c : Call}
    (never : (Command.call c).asksCoordinator = false) :
    k.session.server.WindsDown (k.call c).2.session.server := by
  have begins := never_begins hs.closed never
  have step (h h' : Holding) (does : Does (k.permit c) h h')
      (hh : h.session.WoundUp ∧ k.session.server.WindsDown h.session.server) :
      h'.session.WoundUp ∧ k.session.server.WindsDown h'.session.server :=
    ⟨does.woundUp begins hh.1, hh.2.trans (does.windsDown begins hh.1)⟩
  exact (k.keeps_call c step ⟨hs, .refl _⟩).2

theorem windsDown_calls (hs : k.session.WoundUp) {calls : List Call}
    (never : ∀ c ∈ calls, (Command.call c).asksCoordinator = false) :
    k.session.server.WindsDown (k.after (calls.map .call)).session.server := by
  induction calls generalizing k with
  | nil => exact .refl _
  | cons c calls ih =>
    obtain ⟨first, rest⟩ := List.forall_mem_cons.mp never
    exact (windsDown_call hs first).trans (ih (woundUp_step (c := .call c) hs first) rest)

theorem session_closing {c : ConnectionCall} (closes : c = .close ∨ c = .drop) :
    (k.step (.call (.connection c))).2.session = Session.close.final k.session := by
  rcases closes with rfl | rfl
  · rw [step, call, runOn_eq, ConnectionCall.perform, final_onSession]
  · rw [step, call, runOn_eq, ConnectionCall.perform, final_bestEffort, final_onSession]

theorem woundUp_closing (single : k.session.Single) (isOpen : k.session.closed = false)
    {c : ConnectionCall} (closes : c = .close ∨ c = .drop) :
    (k.step (.call (.connection c))).2.session.WoundUp := by
  rw [session_closing closes]
  exact woundUp_close single isOpen

theorem close_again (closed : k.session.closed = true) :
    k.call (.connection .close) = (some (.ok ()), k) := by
  obtain ⟨outcome, final⟩ := Session.close_closed closed
  rw [call, runOn_eq]
  dsimp only [ConnectionCall.perform]
  rw [final_onSession, onSession, outcome_zoom, outcome, final]

theorem closed_call {c : Call} (never : c.closes = false) :
    (k.call c).2.session.closed = k.session.closed := by
  have shuts : ¬(k.permit c).shuts := by
    change ¬c.closes = true
    simp [never]
  have step (h h' : Holding) (does : Does (k.permit c) h h')
      (hh : h.session.closed = k.session.closed) : h'.session.closed = k.session.closed :=
    (does.closed shuts).trans hh
  exact k.keeps_call c step rfl

/-- At most one transaction is open, and none is where the connection is closed. -/
structure Sealed (k : Client) : Prop where
  single : k.session.Single
  woundUp : k.session.closed = true → k.session.WoundUp

theorem Sealed.closes (hk : k.Sealed) {c : Call} (closes : c.closes = true) :
    (k.step (.call c)).2.session.WoundUp := by
  cases isClosed : k.session.closed with
  | true =>
    apply woundUp_step (hk.woundUp isClosed)
    cases c with
    | coordinator => cases closes
    | _ => rfl
  | false =>
    cases c with
    | connection c =>
      cases c with
      | close => exact woundUp_closing hk.single isClosed (.inl rfl)
      | drop => exact woundUp_closing hk.single isClosed (.inr rfl)
      | _ => cases closes
    | _ => cases closes

theorem Sealed.step (hk : k.Sealed) {c : Command}
    (openly : c.asksCoordinator = true → k.session.closed = false) : (k.step c).2.Sealed := by
  refine ⟨single_step hk.single c, fun closed => ?_⟩
  cases isClosed : k.session.closed with
  | true =>
    apply woundUp_step (hk.woundUp isClosed)
    refine eq_false_of_ne_true fun asks => ?_
    cases isClosed.symm.trans (openly asks)
  | false =>
    cases c with
    | arrange | direct => cases isClosed.symm.trans closed
    | call c =>
      cases hc : c.closes with
      | true => exact hk.closes hc
      | false => cases ((closed_call hc).trans isClosed).symm.trans closed

theorem AsksOpenly.woundUp {cs : List Command} (openly : k.AsksOpenly cs) (hs : k.session.WoundUp) :
    (k.after cs).session.WoundUp := by
  induction cs generalizing k with
  | nil => exact hs
  | cons c cs ih =>
    obtain ⟨first, rest⟩ := openly
    have never : c.asksCoordinator = false := by
      refine eq_false_of_ne_true fun asks => ?_
      cases hs.closed.symm.trans (first asks)
    exact ih rest (woundUp_step hs never)

theorem Sealed.woundUp_after (hk : k.Sealed) {cs : List Command} (openly : k.AsksOpenly cs) {c : Call}
    (closes : c.closes = true) (closed : Command.call c ∈ cs) : (k.after cs).session.WoundUp := by
  induction cs generalizing k with
  | nil => cases closed
  | cons d cs ih =>
    obtain ⟨first, rest⟩ := openly
    rcases List.mem_cons.mp closed with rfl | later
    · exact rest.woundUp (hk.closes closes)
    · exact ih (hk.step first) rest later

theorem sealed_of_connect {server : Server} {scheduler : Scheduler} {config : ConnectionConfig}
    (opens : connect server scheduler config = .ok k) : k.Sealed := by
  refine ⟨single_of_connect opens, fun closed => ?_⟩
  rw [eq_of_connect opens] at closed
  cases closed

/-- The connection has been closed or has gone out of use in the course of the run, with whatever
outcome. Calls record only what is given back from here on and leave the tables alone, all that needs the
connection is refused, and closing it again does nothing. -/
theorem close_is_final {server : Server} {scheduler : Scheduler} {config : ConnectionConfig}
    (opens : connect server scheduler config = .ok k₀) {cs : List Command}
    (openly : k₀.AsksOpenly cs) {c : Call} (closes : c.closes = true)
    (closed : Command.call c ∈ cs) (hk : k = k₀.after cs) :
    (∀ calls : List Call, (∀ d ∈ calls, (Command.call d).asksCoordinator = false) →
      k.session.server.WindsDown (k.after (calls.map .call)).session.server) ∧
    (∀ d : Call, d.needsOpen = true → k.HasObject d →
      ∃ what, (k.call d).1 = some (.error (.closed what))) ∧
    k.call (.connection .close) = (some (.ok ()), k) := by
  subst hk
  have woundUp := (sealed_of_connect opens).woundUp_after openly closes closed
  exact ⟨fun calls never => windsDown_calls woundUp never,
    fun d needs has => refused_call woundUp.closed needs has, close_again woundUp.closed⟩

def closedWhileReading : List Command :=
  [.arrange (.createTable "t" []), .call (.connection (.statement 0)),
    .call (.coordinator (.transaction (some 0))),
    .call (.statement 0 (.query 0 "select * from t")), .call (.connection .close)]

theorem close_is_final_reading :
    (start (.plain true)).AsksOpenly closedWhileReading ∧
      ∀ k, k = (start (.plain true)).after closedWhileReading →
        k.session.server.WindsDown
            (k.after [.call (.cursor 0 .close), .call (.handle 0 (.complete .commit))]).session.server ∧
          ∃ what, (k.call (.statement 0 (.query 0 "select * from t"))).1 =
            some (.error (.closed what)) := by
  have openly : (start (.plain true)).AsksOpenly closedWhileReading :=
    ⟨nofun, nofun, fun _ => rfl, nofun, nofun, trivial⟩
  refine ⟨openly, fun k hk => ?_⟩
  have opens : connect .new .multiThread (.plain true) = .ok (start (.plain true)) := rfl
  have mem : Command.call (.connection .close) ∈ closedWhileReading := by decide
  obtain ⟨windsDown, refuses, -⟩ := close_is_final opens openly rfl mem hk
  have held : (((start (.plain true)).after closedWhileReading).statements.get? 0).isSome = true := by
    decide
  exact ⟨windsDown [.cursor 0 .close, .handle 0 (.complete .commit)] (by decide),
    refuses _ rfl (hk ▸ held)⟩

end Client

end SqlClient
