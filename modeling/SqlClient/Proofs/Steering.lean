import SqlClient.Proofs.Executions

namespace SqlClient

open SqlClient.Action Relation Session

structure Permit where
  completes : Completion → TransactionId → Prop
  begins : Prop
  switches : Prop
  configures : Prop
  shuts : Prop

namespace Session

variable {α β : Type} {p : Permit} {s t u : Session} {tx : TransactionId}

inductive Steers (p : Permit) : Session → Session → Prop
  | switch (h : p.switches) (on : Bool) (s : Session) : Steers p s { s with autocommit := on }
  | configure (h : p.configures) (change : SettingChange) (s : Session) :
    Steers p s { s with settings := s.settings.set change }
  | buildOptions (s : Session) : Steers p s s.asking
  | shut (h : p.shuts) (s : Session) : Steers p s { s with closed := true }
  | forget (s : Session) : Steers p s { s with slot := s.live? }
  | begin {s : Session} (h : p.begins) (empty : s.slot = none) : Steers p s (Session.begin.final s)
  | complete {how : Completion} {tx : TransactionId} (h : p.completes how tx) (s : Session) :
    Steers p s ((complete how tx).final s)
  | completeTaken {how : Completion} (h : ∀ tx, p.completes how tx) (s : Session) :
    Steers p s ((completeTaken how).final s)
  | finish (tx : TransactionId) (s : Session) : Steers p s ((finish tx).final s)

abbrev Steering (p : Permit) (x : Action Session α) : Prop :=
  x.Follows (Steers p) id

theorem Steers.moves (h : Steers p s t) : ReflTransGen Move s t := by
  have every (r : Request) : True := trivial
  cases h with
  | switch _ on => exact .single (.setUp every on s.settings s.closed s)
  | configure _ change => exact .single (.setUp every s.autocommit (s.settings.set change) s.closed s)
  | buildOptions => exact .single (.setUp every s.autocommit s.settings.options.2 s.closed s)
  | shut => exact .single (.setUp every s.autocommit s.settings true s)
  | forget => exact .single (.forget s)
  | begin _ empty => exact .single (.begin (fun _ => trivial) empty)
  | complete => exact moving_complete (.every every) _ _ s
  | completeTaken => exact moving_completeTaken (.every every) _ s
  | finish tx => exact moving_finish (.every every) tx s

theorem unbegun_of_error {e : Error} (fails : getOrBegin.outcome s = .error e) :
    (getOrBegin.final s).handles = s.handles ∧ (getOrBegin.final s).slot = none := by
  rw [outcome_getOrBegin] at fails
  rw [final_getOrBegin]
  cases live : s.live? with
  | some tx =>
    rw [live] at fails
    cases fails
  | none =>
    rw [live] at fails
    dsimp only at fails ⊢
    rw [outcome_begin] at fails
    rw [final_begin, fails, final_call]
    exact ⟨rfl, rfl⟩

section Steering

theorem steering_current : Steering p current :=
  fun s => .single (.forget s)

theorem steering_requireActive : Steering p requireActive :=
  steering_current.bind fun live => by
    cases live with
    | some tx => exact follows_pure _
    | none => exact follows_get.bind fun s => follows_throw _

theorem steering_requireNone : Steering p requireNone :=
  steering_current.bind fun live => by
    split
    · exact follows_throw _
    · exact follows_pure _

theorem steering_getOrBegin (h : p.begins) : Steering p getOrBegin := by
  intro s
  have forgets := @steering_current p s
  rw [final_current] at forgets
  rw [final_getOrBegin]
  cases live : s.live? with
  | some tx =>
    rw [live] at forgets
    exact forgets
  | none =>
    rw [live] at forgets
    exact forgets.tail (.begin h rfl)

theorem steering_completeLive {how : Completion} (h : ∀ tx, p.completes how tx) :
    Steering p (completeLive how) :=
  steering_current.bind fun live => follows_get.bind fun s => by
    split
    · exact fun s => .single (.completeTaken h s)
    · exact follows_throw _

theorem steering_abandon (h : ∀ tx, p.completes .rollback tx) : Steering p abandon :=
  fun s => .single (.completeTaken h s)

theorem final_ensureOpen (s : Session) : ensureOpen.final s = s := by
  simp only [ensureOpen, final_bind, outcome_get, final_get]
  split <;> rfl

theorem steering_ensureOpen : Steering p ensureOpen :=
  follows_of_final_eq final_ensureOpen

theorem steering_close (hs : p.shuts) (h : ∀ tx, p.completes .rollback tx) : Steering p close := by
  refine follows_get.bind fun s => ?_
  split
  · exact follows_pure _
  · have shuts : Steering p (modify fun s : Session => { s with closed := true }) :=
      fun s => .single (.shut hs s)
    exact shuts.bind fun _ => steering_abandon h

theorem steering_buildOptions : Steering p buildOptions :=
  fun s => .single (.buildOptions s)

end Steering

structure Subsides (s t : Session) : Prop where
  handles : ∀ tx, t.handles.get? tx = s.handles.get? tx ∨
    t.handles.get? tx = (s.handles.get? tx).map fun h => { h with closed := true }
  shut : s.closed = true → t.closed = true

namespace Subsides

theorem of_same (handles : t.handles = s.handles) (shut : s.closed = true → t.closed = true) :
    Subsides s t :=
  ⟨fun tx => .inl (by rw [handles]), shut⟩

theorem refl (s : Session) : Subsides s s :=
  of_same rfl id

theorem trans (h : Subsides s t) (h' : Subsides t u) : Subsides s u := by
  refine ⟨fun tx => ?_, fun closed => h'.shut (h.shut closed)⟩
  rcases h'.handles tx with same | closed
  · rw [same]
    exact h.handles tx
  · rw [closed]
    right
    rcases h.handles tx with same | closed
    · rw [same]
    · rw [closed, Option.map_map]
      rfl

theorem of_run {R : Session → Session → Prop} (run : ReflTransGen R s t)
    (step : ∀ s t, R s t → Subsides s t) : Subsides s t := by
  induction run with
  | refl => exact refl s
  | tail _ last ih => exact ih.trans (step _ _ last)

theorem isAutocommit (h : Subsides s t) (tx : TransactionId) :
    t.isAutocommit tx = s.isAutocommit tx := by
  rcases h.handles tx with same | closed
  · exact isAutocommit_congr same
  · simp only [Session.isAutocommit, closed]
    cases s.handles.get? tx <;> rfl

theorem isClosed (h : Subsides s t) (hs : s.isClosed tx = true) : t.isClosed tx = true := by
  rcases h.handles tx with same | closed
  · rw [isClosed_congr same, hs]
  · simp only [Session.isClosed, closed]
    cases s.handles.get? tx <;> rfl

theorem isOpen (h : Subsides s t) (isOpen : t.isClosed tx = false) : s.isClosed tx = false := by
  refine Bool.eq_false_iff.mpr fun closed => ?_
  cases isOpen.symm.trans (h.isClosed closed)

theorem known (h : Subsides s t) {handle : Handle} (hs : s.handles.get? tx = some handle) :
    ∃ handle', t.handles.get? tx = some handle' := by
  rcases h.handles tx with same | closed
  · exact ⟨handle, by rw [same, hs]⟩
  · exact ⟨_, by rw [closed, hs]; rfl⟩

theorem closed (h : Subsides s t) (hs : ∀ tx, s.isClosed tx = true) (tx : TransactionId) :
    t.isClosed tx = true :=
  h.isClosed (hs tx)

end Subsides

theorem subsides_asks {kind : Request → Prop} (h : ReflTransGen (Asks kind) s t) : Subsides s t := by
  apply Subsides.of_same
  · rw [asks_frame h]
  · rw [asks_frame h]
    exact id

theorem subsides_complete (how : Completion) (tx : TransactionId) (s : Session) :
    Subsides s ((complete how tx).final s) := by
  cases open_ : s.isClosed tx with
  | true =>
    rw [final_complete_closed how tx open_]
    exact .refl s
  | false =>
    refine ⟨fun tx' => ?_, ?_⟩
    · rw [handles_complete_open how tx open_]
      by_cases htx : tx' = tx
      · rw [htx]
        exact .inr get?_closeHandle_self
      · exact .inl (get?_closeHandle_of_ne htx)
    · rw [final_complete_open how tx open_, final_call, final_call]
      exact id

theorem subsides_finish (tx : TransactionId) (s : Session) : Subsides s ((finish tx).final s) := by
  rw [final_finish]
  split
  · exact subsides_complete .commit tx s
  · exact .refl s

theorem subsides_abortAfter (tx : TransactionId) (e : Error) (s : Session) :
    Subsides s ((abortAfter tx e).final s) := by
  rw [final_abortAfter]
  split
  · exact subsides_complete .rollback tx s
  · exact .refl s

theorem subsides_completeTaken (how : Completion) (s : Session) :
    Subsides s ((completeTaken how).final s) := by
  rw [final_completeTaken]
  split
  next tx _ =>
    have takes : Subsides s { s with slot := none } := .of_same rfl id
    exact takes.trans (subsides_complete how tx _)
  next => exact .of_same rfl id

theorem Tidies.subsides (h : Tidies s t) : Subsides s t := by
  cases h with
  | aside timeout _ concern => exact subsides_asks (beside_call timeout s concern)
  | finish tx => exact subsides_finish tx s

theorem Steers.subsides (h : Steers p s t) (never : ¬p.begins) : Subsides s t := by
  cases h with
  | switch | configure | buildOptions | forget => exact .of_same rfl id
  | shut => exact .of_same rfl fun _ => rfl
  | begin begins => exact absurd begins never
  | complete => exact subsides_complete _ _ s
  | completeTaken => exact subsides_completeTaken _ s
  | finish tx => exact subsides_finish tx s

end Session

end SqlClient
