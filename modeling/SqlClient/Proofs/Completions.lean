import SqlClient.Proofs.Calls
import SqlClient.Proofs.Exchanges
import SqlClient.Proofs.LiveTransaction

namespace SqlClient

open SqlClient.Action Relation Session

def Request.controls : Request → Bool
  | begin _ | complete .. | closeTransaction _ => true
  | _ => false

theorem Request.controls_of_isAside {r : Request} (h : r.isAside) : r.controls = false := by
  cases r <;> first | rfl | cases h

theorem Request.controls_of_runsIn {r : Request} {tx : TransactionId} (h : r.runsIn tx) :
    r.controls = false := by
  cases r <;> first | rfl | cases h

namespace Session

variable {p : Permit} {s t u : Session} {tx : TransactionId}

inductive Paces (p : Permit) : Session → Session → Prop
  | quiet {s t : Session} (handles : t.handles = s.handles) (autocommit : t.autocommit = s.autocommit)
      (number : s.server.lastNumber ≤ t.server.lastNumber)
      (adds : Adds (fun r => r.controls = false) s t) : Paces p s t
  | begin {s : Session} (empty : s.slot = none) : Paces p s (Session.begin.final s)
  | complete {how : Completion} {tx : TransactionId} {s : Session}
      (h : s.isAutocommit tx = true ∨ p.completes how tx) : Paces p s ((complete how tx).final s)

abbrev Pacing (p : Permit) : Session → Session → Prop :=
  ReflTransGen (Paces p)

theorem paces_call {r : Request} (hr : r.controls = false) (timeout : Option Milliseconds)
    (s : Session) : Paces p s ((call r timeout).final s) := by
  have attempt := call_attempts r timeout s
  refine .quiet ?_ ?_ attempt.lastNumber_le (adds_call timeout s hr) <;> rw [final_call]

theorem paces_same (handles : t.handles = s.handles) (autocommit : t.autocommit = s.autocommit)
    (server : t.server = s.server) (exchanges : t.exchanges = s.exchanges) : Paces p s t :=
  .quiet handles autocommit (server ▸ Nat.le_refl _) (adds_of_same exchanges)

theorem pacing_beside (h : Beside s t) : Pacing p s t := by
  apply ReflTransGen.mono _ _ _ h
  intro a b ask
  cases ask with
  | ask timeout _ concern => exact paces_call (Request.controls_of_isAside concern) timeout a

theorem pacing_works {kind : Request → Prop} (h : Works kind tx s t) : Pacing p s t := by
  apply ReflTransGen.mono _ _ _ h
  intro a b ask
  cases ask with
  | ask timeout _ hr =>
    have quiet := hr.2.elim Request.controls_of_isAside Request.controls_of_runsIn
    exact paces_call quiet timeout a

theorem pacing_getOrBegin (s : Session) : Pacing p s (getOrBegin.final s) := by
  rw [final_getOrBegin]
  split
  next live => exact .single (paces_same rfl rfl rfl rfl)
  next live =>
    have forgets : Paces p s { s with slot := none } := paces_same rfl rfl rfl rfl
    exact (ReflTransGen.single forgets).tail (.begin rfl)

theorem pacing_amid (h : Amid s tx t) : Pacing p s t := by
  obtain ⟨u, before, -, works⟩ := h
  exact ((pacing_beside before).trans (pacing_getOrBegin u)).trans (pacing_works works)

theorem pacing_finish (tx : TransactionId) (s : Session) : Pacing p s ((finish tx).final s) := by
  rw [final_finish]
  split
  next auto => exact .single (.complete (.inl auto))
  next => exact .refl

theorem pacing_abortAfter {e : Error}
    (aborts : e.isTimeout = true → ∀ tx, p.completes .rollback tx) (tx : TransactionId)
    (s : Session) : Pacing p s ((abortAfter tx e).final s) := by
  rw [final_abortAfter]
  split
  next ends =>
    rw [Bool.or_eq_true] at ends
    exact .single (.complete (ends.imp_right fun timeout => aborts timeout tx))
  next => exact .refl

theorem pacing_completeTaken {how : Completion} (h : ∀ tx, p.completes how tx) (s : Session) :
    Pacing p s ((completeTaken how).final s) := by
  have takes : Paces p s { s with slot := none } := paces_same rfl rfl rfl rfl
  rw [final_completeTaken]
  split
  next tx _ => exact (ReflTransGen.single takes).tail (.complete (.inr (h tx)))
  next => exact .single takes

theorem timesOut_of_isTimeout {α : Type} {e : Error} (h : e.isTimeout = true) :
    TimesOut (.error e : Except Error α) := by
  cases e with
  | timeout op ms => exact ⟨op, ms, rfl⟩
  | _ => cases h

theorem Executes.pacing {early : Bool} {r : Except Error (Option Cursor)} (h : Executes early s r t)
    (aborts : TimesOut r → ∀ tx, p.completes .rollback tx) : Pacing p s t := by
  cases h with
  | refused beside | vacant beside => exact pacing_beside beside
  | unbegun before _ after =>
    exact ((pacing_beside before).trans (pacing_getOrBegin _)).trans (pacing_beside after)
  | opened amid => exact pacing_amid amid
  | finished amid after =>
    exact ((pacing_amid amid).trans (pacing_finish _ _)).trans (pacing_beside after)
  | aborted amid after =>
    have ends := pacing_abortAfter fun timeout => aborts (timesOut_of_isTimeout timeout)
    exact ((pacing_amid amid).trans (ends _ _)).trans (pacing_beside after)

theorem Steers.pacing (h : Steers p s t) (never : ¬p.switches) : Pacing p s t := by
  cases h with
  | switch switches => exact absurd switches never
  | configure | buildOptions | shut | forget => exact .single (paces_same rfl rfl rfl rfl)
  | begin _ empty => exact .single (.begin empty)
  | complete h => exact .single (.complete (.inr h))
  | completeTaken h => exact pacing_completeTaken h s
  | finish tx => exact pacing_finish tx s

theorem Tidies.pacing (h : Tidies s t) : Pacing p s t := by
  cases h with
  | aside timeout _ concern => exact pacing_beside (beside_call timeout s concern)
  | finish tx => exact pacing_finish tx s

theorem pacing_tidies (h : ReflTransGen Tidies s t) : Pacing p s t := by
  induction h with
  | refl => exact .refl
  | tail _ last ih => exact ih.trans last.pacing

end Session

theorem timesOut_map {α β : Type} {r : Except Error α} {f : α → β} (h : TimesOut (r.map f)) :
    TimesOut r := by
  obtain ⟨op, ms, h⟩ := h
  cases r with
  | ok a => cases h
  | error e =>
    cases h
    exact ⟨op, ms, rfl⟩

theorem Does.pacing {p : Permit} {h h' : Holding} (does : Does p h h') (never : ¬p.switches) :
    Pacing p h.session h'.session := by
  cases does with
  | rearrange | discardCursor | prepare | changePrepared | discardPrepared => exact .refl
  | steer steers => exact steers.pacing never
  | execute hx aborts =>
    exact (hx.executing _ _ .refl).pacing fun times => aborts (timesOut_map times)
  | executePrepared hx aborts =>
    exact (hx.executing _ _ .refl).pacing fun times => aborts (timesOut_map times)
  | useCursor hx c _ _ s => exact pacing_tidies (hx.tidying (c, s))
  | closePrepared q _ _ s => exact pacing_beside (PreparedStatement.besides_close (q, s))

namespace Session

variable {may : Completion → TransactionId → Prop}

structure Accounted (may : Completion → TransactionId → Prop) (tx : TransactionId) (s t : Session)
    (e : Exchange) : Prop where
  completes : ∀ how, e.request = .complete how tx → t.isAutocommit tx = true ∨ may how tx
  releases : e.request = .closeTransaction tx →
    t.isAutocommit tx = true ∨ ∃ how, may how tx
  begins : ∀ options, e = ⟨.begin options, .ok tx⟩ →
    ∃ h, t.handles.get? tx = some h ∧ h.autocommit = s.autocommit

def Ended (s : Session) (tx : TransactionId) : Prop :=
  ∃ h, s.handles.get? tx = some h ∧ h.closed = true

structure Respects (may : Completion → TransactionId → Prop) (tx : TransactionId) (s t : Session) :
    Prop where
  mode : ∀ h, s.handles.get? tx = some h →
    ∃ h', t.handles.get? tx = some h' ∧ h'.autocommit = h.autocommit
  exchanges : ∃ added, t.exchanges = s.exchanges ++ added ∧
    (∀ e ∈ added, Accounted may tx s t e) ∧
    (t.Ended tx → s.Ended tx ∨ ∃ e ∈ added, ∃ how, e.request = .complete how tx)

theorem Accounted.mono {e : Exchange} (h : Accounted may tx s u e)
    (mode : ∀ h, u.handles.get? tx = some h →
      ∃ h', t.handles.get? tx = some h' ∧ h'.autocommit = h.autocommit) : Accounted may tx s t e := by
  have auto (hu : u.isAutocommit tx = true) : t.isAutocommit tx = true := by
    unfold isAutocommit at hu
    split at hu
    next handle known =>
      obtain ⟨handle', known', same⟩ := mode handle known
      rw [isAutocommit, known']
      exact same.trans hu
    next => cases hu
  refine ⟨fun how he => (h.completes how he).imp_left auto, fun he => (h.releases he).imp_left auto,
    fun options he => ?_⟩
  obtain ⟨handle, known, atBegin⟩ := h.begins options he
  obtain ⟨handle', known', same⟩ := mode handle known
  exact ⟨handle', known', same.trans atBegin⟩

namespace Respects

theorem of_same (handles : t.handles = s.handles) (exchanges : t.exchanges = s.exchanges) :
    Respects may tx s t := by
  refine ⟨fun h known => ⟨h, by rw [handles, known], rfl⟩, [], ?_, ?_, ?_⟩
  · rw [exchanges, List.append_nil]
  · simp
  · rintro ⟨h, known, closed⟩
    rw [handles] at known
    exact .inl ⟨h, known, closed⟩

theorem trans (h : Respects may tx s u) (h' : Respects may tx u t)
    (autocommit : u.autocommit = s.autocommit) : Respects may tx s t := by
  obtain ⟨mode, added, exchanges, accounted, ended⟩ := h
  obtain ⟨mode', added', exchanges', accounted', ended'⟩ := h'
  refine ⟨fun handle known => ?_, added ++ added', ?_, fun e he => ?_, fun gone => ?_⟩
  · obtain ⟨handle', known', same⟩ := mode handle known
    obtain ⟨handle'', known'', same'⟩ := mode' handle' known'
    exact ⟨handle'', known'', same'.trans same⟩
  · rw [exchanges', exchanges, List.append_assoc]
  · rcases List.mem_append.mp he with old | new
    · exact (accounted e old).mono mode'
    · have account := accounted' e new
      refine ⟨account.completes, account.releases, ?_⟩
      rw [← autocommit]
      exact account.begins
  · rcases ended' gone with before | ⟨e, he, completes⟩
    · rcases ended before with before | ⟨e, he, completes⟩
      · exact .inl before
      · exact .inr ⟨e, List.mem_append_left _ he, completes⟩
    · exact .inr ⟨e, List.mem_append_right _ he, completes⟩

end Respects

theorem respects_begin (hn : s.Numbered) : Respects may tx s (Session.begin.final s) := by
  rw [final_begin]
  cases h : (call (.begin s.settings.options.1) none).outcome s.asking with
  | error e =>
    dsimp only
    rw [final_call]
    rw [outcome_call] at h
    rw [h]
    refine ⟨fun handle known => ⟨handle, known, rfl⟩, [_], rfl, ?_, fun gone => .inl gone⟩
    rw [List.forall_mem_singleton]
    refine ⟨?_, ?_, ?_⟩
    · rintro how ⟨⟩
    · rintro ⟨⟩
    · intro options he
      injection he with request outcome
      cases request
      cases outcome
  | ok tx' =>
    have begins := call_performs h
    have unknown := hn.unknown_of_begin begins
    dsimp only
    rw [final_call]
    rw [outcome_call] at h
    rw [h]
    refine ⟨fun handle known => ?_, [_], rfl, ?_, fun gone => ?_⟩
    · have other : tx ≠ tx' := by
        rintro rfl
        cases unknown.symm.trans known
      exact ⟨handle, (Keyed.get?_put_of_ne _ _ other).trans known, rfl⟩
    · rw [List.forall_mem_singleton]
      refine ⟨?_, ?_, ?_⟩
      · rintro how ⟨⟩
      · rintro ⟨⟩
      · intro options he
        injection he with request outcome
        cases request
        cases outcome
        exact ⟨_, Keyed.get?_put_self _ _ _, rfl⟩
    · obtain ⟨handle, known, closed⟩ := gone
      by_cases htx : tx = tx'
      · subst htx
        cases (Keyed.get?_put_self _ _ _).symm.trans known
        cases closed
      · exact .inl ⟨handle, (Keyed.get?_put_of_ne _ _ htx).symm.trans known, closed⟩

theorem respects_complete {how : Completion} {tx' : TransactionId}
    (h : s.isAutocommit tx' = true ∨ may how tx') :
    Respects may tx s ((complete how tx').final s) := by
  cases isOpen : s.isClosed tx' with
  | true =>
    rw [final_complete_closed how tx' isOpen]
    exact .of_same rfl rfl
  | false =>
    have subsides := subsides_complete how tx' s
    have handles := handles_complete_open how tx' isOpen
    have mode (handle : Handle) (known : s.handles.get? tx = some handle) :
        ∃ handle', ((complete how tx').final s).handles.get? tx = some handle' ∧
          handle'.autocommit = handle.autocommit := by
      rcases subsides.handles tx with same | closed
      · exact ⟨handle, same.trans known, rfl⟩
      · rw [known] at closed
        exact ⟨_, closed, rfl⟩
    have logged : ∃ o o', ((complete how tx').final s).exchanges =
        s.exchanges ++ [⟨.complete how tx', o⟩, ⟨.closeTransaction tx', o'⟩] := by
      rw [final_complete_open how tx' isOpen, exchanges_call, exchanges_call, List.append_assoc]
      exact ⟨_, _, rfl⟩
    obtain ⟨o, o', logged⟩ := logged
    rw [← subsides.isAutocommit tx'] at h
    refine ⟨mode, _, logged, ?_, fun gone => ?_⟩
    · rw [List.forall_mem_cons, List.forall_mem_singleton]
      refine ⟨⟨?_, ?_, ?_⟩, ⟨?_, ?_, ?_⟩⟩
      · rintro how' ⟨⟩
        exact h
      · rintro ⟨⟩
      · intro options he
        injection he with request
        cases request
      · rintro how' ⟨⟩
      · rintro ⟨⟩
        exact h.imp_right fun completes => ⟨how, completes⟩
      · intro options he
        injection he with request
        cases request
    · by_cases htx : tx = tx'
      · subst htx
        exact .inr ⟨_, List.mem_cons_self, how, rfl⟩
      · obtain ⟨handle, known, closed⟩ := gone
        rw [handles, get?_closeHandle_of_ne htx] at known
        exact .inl ⟨handle, known, closed⟩

theorem Paces.numbered (h : Paces p s t) (hn : s.Numbered) : t.Numbered := by
  have every (r : Request) : True := trivial
  cases h with
  | quiet handles _ number =>
    intro tx handle known
    rw [handles] at known
    exact Nat.le_trans (hn tx handle known) number
  | begin empty => exact hn.move (@Moves.begin (fun _ => True) s (fun _ => trivial) empty)
  | complete => exact hn.move (@Moves.complete (fun _ => True) _ _ s (.every every))

theorem Paces.autocommit (h : Paces p s t) : t.autocommit = s.autocommit := by
  cases h with
  | quiet _ autocommit => exact autocommit
  | begin =>
    rw [final_begin]
    split <;> rw [final_call] <;> rfl
  | @complete how tx =>
    cases isOpen : s.isClosed tx with
    | true => rw [final_complete_closed how tx isOpen]
    | false =>
      rw [final_complete_open how tx isOpen, final_call, final_call]
      rfl

theorem Paces.respects (h : Paces p s t) (hn : s.Numbered) : Respects p.completes tx s t := by
  cases h with
  | quiet handles _ _ adds =>
    obtain ⟨added, exchanges, quiet⟩ := adds
    refine ⟨fun handle known => ⟨handle, by rw [handles, known], rfl⟩, added, exchanges,
      fun e he => ?_, fun ⟨handle, known, closed⟩ => .inl ⟨handle, by rw [← handles, known], closed⟩⟩
    have controls := quiet e he
    refine ⟨fun how request => ?_, fun request => ?_, fun options same => ?_⟩
    · rw [request] at controls
      cases controls
    · rw [request] at controls
      cases controls
    · rw [same] at controls
      cases controls
  | begin => exact respects_begin hn
  | complete h => exact respects_complete h

theorem Pacing.respects (run : Pacing p s t) (hn : s.Numbered) (tx : TransactionId) :
    Respects p.completes tx s t := by
  -- paces keep the setting, so whatever is begun on the way takes its mode from `s`
  have kept : (t.Numbered ∧ t.autocommit = s.autocommit) ∧ Respects p.completes tx s t := by
    induction run with
    | refl => exact ⟨⟨hn, rfl⟩, .of_same rfl rfl⟩
    | tail _ last ih =>
      obtain ⟨⟨numbered, same⟩, respects⟩ := ih
      exact ⟨⟨last.numbered numbered, last.autocommit.trans same⟩,
        respects.trans (last.respects numbered) same⟩
  exact kept.2

end Session

end SqlClient
