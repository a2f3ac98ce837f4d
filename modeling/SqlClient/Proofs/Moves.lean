import SqlClient.Proofs.Requests
import SqlClient.Server.Arrangement
import SqlClient.Session.Execution

/-!
What a client can do to its session, one move at a time. Every action of a session goes through such
moves only, so a property is kept by all of them once it is kept by each move.
-/

namespace SqlClient

open SqlClient.Action Relation

namespace Request

def isAside : Request → Bool
  | prepare .. | dispose _ | describe _ | fetch _ | closeCursor _ | readLob _ => true
  | _ => false

def reads : Request → Bool
  | describe _ | fetch _ | readLob _ => true
  | _ => false

def looks : Request → Bool
  | describe _ | readLob _ => true
  | _ => false

def givesBack : Request → Bool
  | dispose _ | closeCursor _ => true
  | _ => false

def runsIn (tx : TransactionId) : Request → Prop
  | query tx' .. | execute tx' .. => tx' = tx
  | _ => False

theorem transaction?_of_isAside {r : Request} (h : r.isAside) : r.transaction? = none := by
  cases r <;> first | rfl | cases h

theorem isAside_of_reads {r : Request} (h : r.reads) : r.isAside := by
  cases r <;> first | rfl | cases h

theorem reads_of_looks {r : Request} (h : r.looks) : r.reads := by
  cases r <;> first | rfl | cases h

theorem isAside_of_givesBack {r : Request} (h : r.givesBack) : r.isAside := by
  cases r <;> first | rfl | cases h

theorem reads_of_givesBack {r : Request} (h : r.givesBack) : r.reads = false := by
  cases r <;> first | rfl | cases h

theorem transaction?_of_runsIn {r : Request} {tx : TransactionId} (h : r.runsIn tx) :
    r.transaction? = some tx := by
  cases r with
  | query | execute => exact congrArg some h
  | _ => cases h

structure Controls (kind : Request → Prop) : Prop where
  begin : ∀ options, kind (.begin options)
  complete : ∀ how tx, kind (.complete how tx)
  closeTransaction : ∀ tx, kind (.closeTransaction tx)

theorem Controls.every {kind : Request → Prop} (h : ∀ r, kind r) : Controls kind :=
  ⟨fun _ => h _, fun _ _ => h _, fun _ => h _⟩

end Request

namespace Session

inductive Asks (kind : Request → Prop) : Session → Session → Prop
  | ask {r : Request} (timeout : Option Milliseconds) (s : Session) (hr : kind r) :
    Asks kind s ((call r timeout).final s)

abbrev Works (kind : Request → Prop) (tx : TransactionId) : Session → Session → Prop :=
  ReflTransGen (Asks fun r => kind r ∧ (r.isAside ∨ r.runsIn tx))

abbrev Working {α : Type} (kind : Request → Prop) (tx : TransactionId) (x : Action Session α) :
    Prop :=
  x.Follows (Asks fun r => kind r ∧ (r.isAside ∨ r.runsIn tx)) id

/-- A move puts requests of one kind. Statements run in the live transaction only, and a transaction is
begun only where there is none in the slot. Where only some requests are allowed, nothing is arranged or
set up either. -/
inductive Moves (kind : Request → Prop) : Session → Session → Prop
  | arrange (free : ∀ r, kind r) (a : Arrangement) (s : Session) :
    Moves kind s { s with server := (s.server.arrange a).2 }
  | setUp (free : ∀ r, kind r) (autocommit : Bool) (settings : TransactionSettings) (closed : Bool)
      (s : Session) :
    Moves kind s { s with autocommit := autocommit, settings := settings, closed := closed }
  | forget (s : Session) : Moves kind s { s with slot := s.live? }
  | aside {r : Request} (timeout : Option Milliseconds) (s : Session) (hr : kind r)
      (concern : r.isAside) : Moves kind s ((call r timeout).final s)
  | begin {s : Session} (hr : ∀ options, kind (.begin options)) (empty : s.slot = none) :
    Moves kind s (Session.begin.final s)
  | query {s : Session} {tx : TransactionId} {id : PreparedId} {parameters : List Parameter}
      (timeout : Option Milliseconds) (hr : kind (.query tx id parameters))
      (live : s.live? = some tx) :
    Moves kind s ((call (.query tx id parameters) timeout).final s)
  | work {s t : Session} {tx : TransactionId} (live : s.live? = some tx) (works : Works kind tx s t)
      (manual : s.isAutocommit tx = false) : Moves kind s t
  | workAndEnd {s t : Session} {tx : TransactionId} (how : Completion) (hr : Request.Controls kind)
      (live : s.live? = some tx) (works : Works kind tx s t) :
    Moves kind s ((complete how tx).final t)
  | complete (how : Completion) (tx : TransactionId) (s : Session) (hr : Request.Controls kind) :
    Moves kind s ((complete how tx).final s)
  | completeTaken (how : Completion) (s : Session) (hr : Request.Controls kind) :
    Moves kind s ((completeTaken how).final s)

abbrev Moving {α : Type} (kind : Request → Prop) (x : Action Session α) : Prop :=
  x.Follows (Moves kind) id

section Handles

variable {s : Session} {tx tx' : TransactionId}

theorem isClosed_eq_false_iff :
    s.isClosed tx = false ↔ ∃ h, s.handles.get? tx = some h ∧ h.closed = false := by
  simp only [isClosed]
  cases s.handles.get? tx <;> simp

theorem isClosed_congr {s t : Session} (same : t.handles.get? tx = s.handles.get? tx) :
    t.isClosed tx = s.isClosed tx := by
  simp only [isClosed, same]

theorem isAutocommit_congr {s t : Session} (same : t.handles.get? tx = s.handles.get? tx) :
    t.isAutocommit tx = s.isAutocommit tx := by
  simp only [isAutocommit, same]

theorem get?_closeHandle_self :
    (s.closeHandle tx).handles.get? tx =
      (s.handles.get? tx).map fun h => { h with closed := true } :=
  Keyed.get?_update_self _ _ _

theorem get?_closeHandle_of_ne (h : tx' ≠ tx) :
    (s.closeHandle tx).handles.get? tx' = s.handles.get? tx' :=
  Keyed.get?_update_of_ne _ _ h

theorem isClosed_closeHandle_self : (s.closeHandle tx).isClosed tx = true := by
  simp only [isClosed, get?_closeHandle_self]
  cases s.handles.get? tx <;> rfl

theorem isClosed_closeHandle_of_ne (h : tx' ≠ tx) :
    (s.closeHandle tx).isClosed tx' = s.isClosed tx' := by
  simp only [isClosed, get?_closeHandle_of_ne h]

theorem live?_eq_some_iff : s.live? = some tx ↔ s.slot = some tx ∧ s.isClosed tx = false := by
  simp only [live?, Option.filter_eq_some_iff, Bool.not_eq_eq_eq_not, Bool.not_true]

theorem live?_forget (s : Session) : live? { s with slot := s.live? } = s.live? := by
  cases live : s.live? with
  | none => rfl
  | some tx => exact live?_eq_some_iff.mpr ⟨rfl, (live?_eq_some_iff.mp live).2⟩

end Handles

section Final

variable {α : Type} (how : Completion) (tx : TransactionId) (s : Session)

theorem final_complete_closed {s : Session} (h : s.isClosed tx = true) :
    (Session.complete how tx).final s = s := by
  simp only [Session.complete, final_bind, outcome_get, final_get, h, ↓reduceIte, final_pure]

theorem final_complete_open {s : Session} (h : s.isClosed tx = false) :
    (Session.complete how tx).final s =
      (call (.closeTransaction tx) none).final
        ((call (.complete how tx) none).final (s.closeHandle tx)) := by
  simp only [Session.complete, final_bind, outcome_get, final_get, h, Bool.false_eq_true, ↓reduceIte,
    outcome_modify, final_modify, outcome_attempt, final_attempt, outcome_bestEffort,
    final_bestEffort, final_ofExcept]

theorem outcome_complete_open {s : Session} (h : s.isClosed tx = false) :
    (Session.complete how tx).outcome s =
      (call (.complete how tx) none).outcome (s.closeHandle tx) := by
  simp only [Session.complete, outcome_bind, outcome_get, final_get, h, Bool.false_eq_true, ↓reduceIte,
    outcome_modify, final_modify, outcome_attempt, final_attempt, outcome_bestEffort,
    final_bestEffort, outcome_ofExcept]

theorem handles_complete_open {s : Session} (h : s.isClosed tx = false) :
    ((Session.complete how tx).final s).handles = (s.closeHandle tx).handles := by
  rw [final_complete_open how tx h, final_call, final_call]

theorem isClosed_complete_self : ((Session.complete how tx).final s).isClosed tx = true := by
  cases h : s.isClosed tx with
  | true => rw [final_complete_closed how tx h, h]
  | false =>
    rw [isClosed_congr (congrArg (Keyed.get? · tx) (handles_complete_open how tx h))]
    exact isClosed_closeHandle_self

theorem isClosed_complete_of_ne {tx' : TransactionId} (hne : tx' ≠ tx) :
    ((Session.complete how tx).final s).isClosed tx' = s.isClosed tx' := by
  cases h : s.isClosed tx with
  | true => rw [final_complete_closed how tx h]
  | false =>
    rw [isClosed_congr (congrArg (Keyed.get? · tx') (handles_complete_open how tx h))]
    exact isClosed_closeHandle_of_ne hne

theorem slot_complete : ((Session.complete how tx).final s).slot = s.slot := by
  cases h : s.isClosed tx with
  | true => rw [final_complete_closed how tx h]
  | false =>
    rw [final_complete_open how tx h, final_call, final_call]
    rfl

theorem final_finish :
    (finish tx).final s =
      if s.isAutocommit tx then (Session.complete .commit tx).final s else s := by
  simp only [finish, final_bind, outcome_get, final_get]
  split <;> rfl

theorem final_abortAfter (e : Error) :
    (abortAfter tx e).final s =
      if s.isAutocommit tx || e.isTimeout then (Session.complete .rollback tx).final s else s := by
  simp only [abortAfter, final_bind, outcome_get, final_get]
  split
  · exact final_bestEffort _ _
  · rfl

def asking (s : Session) : Session :=
  { s with settings := s.settings.options.2 }

theorem outcome_begin :
    Session.begin.outcome s = (call (.begin s.settings.options.1) none).outcome s.asking := by
  simp only [Session.begin, buildOptions, outcome_bind, final_bind, outcome_get, final_get, outcome_set,
    final_set, outcome_pure, final_pure, outcome_modify]
  rw [← asking]
  cases (call (.begin s.settings.options.1) none).outcome s.asking <;> rfl

theorem final_begin :
    Session.begin.final s =
      match (call (.begin s.settings.options.1) none).outcome s.asking with
      | .error _ => (call (.begin s.settings.options.1) none).final s.asking
      | .ok tx =>
        { (call (.begin s.settings.options.1) none).final s.asking with
          slot := some tx
          handles := s.handles.put tx ⟨s.autocommit, false⟩ } := by
  simp only [Session.begin, buildOptions, outcome_bind, final_bind, outcome_get, final_get, outcome_set,
    final_set, outcome_pure, final_pure, final_modify]
  rw [← asking]
  cases (call (.begin s.settings.options.1) none).outcome s.asking with
  | error e => rfl
  | ok tx =>
    dsimp only
    rw [final_call]
    rfl

theorem outcome_current : current.outcome s = .ok s.live? :=
  rfl

theorem final_current : current.final s = { s with slot := s.live? } :=
  rfl

theorem final_getOrBegin :
    getOrBegin.final s =
      match s.live? with
      | some tx => { s with slot := some tx }
      | none => Session.begin.final { s with slot := none } := by
  simp only [getOrBegin, final_bind, outcome_current, final_current]
  cases s.live? <;> rfl

theorem outcome_getOrBegin :
    getOrBegin.outcome s =
      match s.live? with
      | some tx => .ok tx
      | none => Session.begin.outcome { s with slot := none } := by
  simp only [getOrBegin, outcome_bind, outcome_current, final_current]
  cases s.live? <;> rfl

theorem final_completeTaken :
    (Session.completeTaken how).final s =
      match s.live? with
      | some tx => (Session.complete how tx).final { s with slot := none }
      | none => { s with slot := none } := by
  simp only [Session.completeTaken, takeLive, outcome_bind, final_bind, outcome_current, final_current,
    outcome_modify, final_modify, outcome_pure, final_pure]
  cases s.live? <;> rfl

theorem final_inTransaction (work : TransactionId → Action Session α) :
    (inTransaction work).final s =
      match getOrBegin.outcome s with
      | .error _ => getOrBegin.final s
      | .ok tx =>
        match (work tx).outcome (getOrBegin.final s) with
        | .ok _ => (finish tx).final ((work tx).final (getOrBegin.final s))
        | .error e => (abortAfter tx e).final ((work tx).final (getOrBegin.final s)) := by
  simp only [inTransaction, final_bind, outcome_attempt, final_attempt]
  cases getOrBegin.outcome s with
  | error e => rfl
  | ok tx =>
    dsimp only
    cases (work tx).outcome (getOrBegin.final s) with
    | ok a =>
      simp only [final_bind, final_pure]
      split <;> rfl
    | error e =>
      simp only [final_bind, final_throw]
      split <;> rfl

end Final

theorem asks_frame {kind : Request → Prop} {s t : Session} (h : ReflTransGen (Asks kind) s t) :
    t = { s with server := t.server, exchanges := t.exchanges } := by
  induction h with
  | refl => rfl
  | tail _ ask ih =>
    cases ask
    rw [final_call, ih]

theorem Works.frame {kind : Request → Prop} {tx : TransactionId} {s t : Session}
    (h : Works kind tx s t) : t = { s with server := t.server, exchanges := t.exchanges } :=
  asks_frame h

theorem Works.isAutocommit {kind : Request → Prop} {tx : TransactionId} {s t : Session}
    (h : Works kind tx s t) (tx' : TransactionId) : t.isAutocommit tx' = s.isAutocommit tx' := by
  rw [h.frame]
  rfl

theorem live_of_begin {s : Session} {tx : TransactionId} (h : Session.begin.outcome s = .ok tx) :
    (Session.begin.final s).live? = some tx := by
  rw [outcome_begin] at h
  rw [final_begin, h, live?_eq_some_iff, isClosed_eq_false_iff]
  exact ⟨rfl, _, Keyed.get?_put_self _ _ _, rfl⟩

theorem live_of_getOrBegin {s : Session} {tx : TransactionId} (h : getOrBegin.outcome s = .ok tx) :
    (getOrBegin.final s).live? = some tx := by
  rw [outcome_getOrBegin] at h
  rw [final_getOrBegin]
  split at h
  next tx' live =>
    cases h
    exact live?_eq_some_iff.mpr ⟨rfl, (live?_eq_some_iff.mp live).2⟩
  next => exact live_of_begin h

section Moving

variable {α : Type} {kind : Request → Prop}

theorem moving_setUp (free : ∀ r, kind r) (autocommit : Session → Bool) (settings : Session → TransactionSettings)
    (closed : Session → Bool) :
    Moving kind (modify fun s : Session =>
      { s with autocommit := autocommit s, settings := settings s, closed := closed s }) :=
  fun s => .single (.setUp free _ _ _ s)

theorem moving_aside {r : Request} (timeout : Option Milliseconds) (hr : kind r)
    (concern : r.isAside) : Moving kind (call r timeout) :=
  fun s => .single (.aside timeout s hr concern)

theorem moving_current : Moving kind current :=
  fun s => .single (.forget s)

theorem moving_complete (hc : Request.Controls kind) (how : Completion) (tx : TransactionId) :
    Moving kind (Session.complete how tx) :=
  fun s => .single (.complete how tx s hc)

theorem moving_finish (hc : Request.Controls kind) (tx : TransactionId) :
    Moving kind (finish tx) := by
  intro s
  rw [final_finish]
  split
  · exact moving_complete hc .commit tx s
  · exact .refl

theorem moving_abortAfter (hc : Request.Controls kind) (tx : TransactionId) (e : Error) :
    Moving kind (abortAfter tx e) := by
  intro s
  rw [final_abortAfter]
  split
  · exact moving_complete hc .rollback tx s
  · exact .refl

theorem moving_buildOptions (free : ∀ r, kind r) : Moving kind buildOptions :=
  fun s => .single (.setUp free s.autocommit s.settings.options.2 s.closed s)

theorem moving_getOrBegin (hb : ∀ options, kind (.begin options)) : Moving kind getOrBegin := by
  intro s
  have forgets := @moving_current kind s
  rw [final_current] at forgets
  rw [final_getOrBegin]
  split
  next tx live => exact live ▸ forgets
  next live => exact (live ▸ forgets).tail (.begin hb rfl)

theorem moving_completeTaken (hc : Request.Controls kind) (how : Completion) :
    Moving kind (Session.completeTaken how) :=
  fun s => .single (.completeTaken how s hc)

theorem moving_completeLive (hc : Request.Controls kind) (how : Completion) :
    Moving kind (completeLive how) :=
  moving_current.bind fun live => follows_get.bind fun s => by
    split
    · exact moving_completeTaken hc how
    · exact follows_throw _

theorem moving_requireActive : Moving kind requireActive :=
  moving_current.bind fun live => by
    cases live with
    | some tx => exact follows_pure _
    | none => exact follows_get.bind fun s => follows_throw _

theorem moving_requireNone : Moving kind requireNone :=
  moving_current.bind fun live => by
    split
    · exact follows_throw _
    · exact follows_pure _

theorem working_aside {r : Request} (timeout : Option Milliseconds) (tx : TransactionId) (hr : kind r)
    (concern : r.isAside) : Working kind tx (call r timeout) :=
  fun s => .single (.ask timeout s ⟨hr, .inl concern⟩)

theorem working_execute (limits : StatementLimits) (tx : TransactionId) (prepared : Prepared)
    (parameters : List Parameter) (hr : kind (.execute tx prepared.id parameters)) :
    Working kind tx (execute limits tx prepared parameters) :=
  fun s => .single (.ask limits.timeout s ⟨hr, .inr rfl⟩)

theorem moving_dispose (hd : ∀ id, kind (.dispose id)) (prepared : Prepared) :
    Moving kind (dispose prepared) :=
  (moving_aside none (hd _) rfl).bestEffort

theorem moving_inTransaction (hc : Request.Controls kind)
    {work : TransactionId → Action Session α} (hw : ∀ tx, Working kind tx (work tx)) :
    Moving kind (inTransaction work) := by
  intro s
  have begins := moving_getOrBegin hc.begin s
  rw [final_inTransaction]
  cases h : getOrBegin.outcome s with
  | error e => exact begins
  | ok tx =>
    have live := live_of_getOrBegin h
    have works : Works kind tx (getOrBegin.final s) ((work tx).final (getOrBegin.final s)) := hw tx _
    -- nothing ends a manual transaction, so its work is a move of its own
    have goesOn (manual : ((work tx).final (getOrBegin.final s)).isAutocommit tx ≠ true) :
        Moves kind (getOrBegin.final s) ((work tx).final (getOrBegin.final s)) :=
      .work live works ((works.isAutocommit tx).symm.trans (eq_false_of_ne_true manual))
    refine begins.tail ?_
    dsimp only
    split
    · rw [final_finish]
      split
      next => exact .workAndEnd .commit hc live works
      next manual => exact goesOn manual
    · rw [final_abortAfter]
      split
      next => exact .workAndEnd .rollback hc live works
      next hm =>
        rw [Bool.or_eq_true, not_or] at hm
        exact goesOn hm.1

end Moving

end Session

end SqlClient
