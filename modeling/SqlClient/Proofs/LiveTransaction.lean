import SqlClient.Proofs.TransactionSteps

namespace SqlClient

open SqlClient.Action Relation Session

namespace Session

variable {kind : Request → Prop} {s t : Session} {tx : TransactionId}

def Single (s : Session) : Prop :=
  ∀ tx, s.isClosed tx = false → s.slot = some tx

structure HasOnly (s : Session) (tx : TransactionId) : Prop where
  slot : s.slot = some tx
  only : ∀ tx', s.isClosed tx' = false ↔ tx' = tx
  current : current.outcome s = .ok (some tx)
  requireActive : requireActive.outcome s = .ok tx
  requireNone : requireNone.outcome s = .error .transactionAlreadyActive
  getOrBegin : getOrBegin.outcome s = .ok tx
  unchanged : Session.getOrBegin.final s = s

def Begun (s t : Session) : Except Error TransactionId → Prop
  | .ok tx => s.handles.get? tx = none ∧ t.handles = s.handles.put tx ⟨s.autocommit, false⟩ ∧
      t.slot = some tx
  | .error _ => t.handles = s.handles ∧ t.slot = none

structure HasNone (s : Session) : Prop where
  closed : ∀ tx, s.isClosed tx = true
  current : current.outcome s = .ok none
  requireActive : requireActive.outcome s = .error s.noTransaction
  requireNone : requireNone.outcome s = .ok ()
  begins : (getOrBegin.final s).exchanges =
    s.exchanges ++ [⟨.begin s.settings.options.1, getOrBegin.outcome s⟩]
  begun : s.Begun (getOrBegin.final s) (getOrBegin.outcome s)

theorem Single.opened (config : ConnectionConfig) : (Client.opened config).Single := by
  intro tx h
  cases h

theorem Single.of_same (hs : s.Single) (handles : t.handles = s.handles) (slot : t.slot = s.slot) :
    t.Single := by
  intro tx h
  rw [isClosed_congr (congrArg (Keyed.get? · tx) handles)] at h
  exact slot.trans (hs tx h)

theorem single_complete (how : Completion)
    (hs : ∀ tx', tx' ≠ tx → s.isClosed tx' = false → s.slot = some tx') :
    ((complete how tx).final s).Single := by
  intro tx' h
  by_cases htx : tx' = tx
  · subst htx
    rw [isClosed_complete_self] at h
    cases h
  · rw [isClosed_complete_of_ne _ _ _ htx] at h
    rw [slot_complete]
    exact hs tx' htx h

theorem Single.begin (hs : s.Single) (empty : s.slot = none) : (Session.begin.final s).Single := by
  rw [final_begin]
  split
  · exact hs.of_same (by rw [final_call]; rfl) (by rw [final_call]; rfl)
  · next tx _ =>
    intro tx' h
    by_cases htx : tx' = tx
    · rw [htx]
    · have isOpen : s.isClosed tx' = false := by
        rw [← h]
        exact (isClosed_congr (Keyed.get?_put_of_ne _ _ htx)).symm
      cases empty.symm.trans (hs tx' isOpen)

theorem Single.move (hs : s.Single) (h : Moves kind s t) : t.Single := by
  cases h with
  | arrange | setUp => exact hs.of_same rfl rfl
  | forget =>
    intro tx h
    exact live?_eq_some_iff.mpr ⟨hs tx h, h⟩
  | aside | query => exact hs.of_same (by rw [final_call]) (by rw [final_call])
  | work _ works => exact hs.of_same (by rw [works.frame]) (by rw [works.frame])
  | begin _ empty => exact hs.begin empty
  | @workAndEnd _ u _ how _ _ works =>
    have worked : u.Single := hs.of_same (by rw [works.frame]) (by rw [works.frame])
    exact single_complete how fun tx' _ => worked tx'
  | complete how tx => exact single_complete how fun tx' _ => hs tx'
  | completeTaken how =>
    rw [final_completeTaken]
    split
    next tx live =>
      apply single_complete how
      intro tx' hne isOpen
      have slot := (live?_eq_some_iff.mp live).1
      exact absurd (Option.some.inj ((hs tx' isOpen).symm.trans slot)) hne
    next live =>
      intro tx h
      cases live.symm.trans (live?_eq_some_iff.mpr ⟨hs tx h, h⟩)

theorem Single.hasOnly (hs : s.Single) (h : s.isClosed tx = false) : s.HasOnly tx := by
  have slot := hs tx h
  have live : s.live? = some tx := live?_eq_some_iff.mpr ⟨slot, h⟩
  refine ⟨slot, fun tx' => ⟨fun h' => ?_, fun h' => h' ▸ h⟩, ?_, ?_, ?_, ?_, ?_⟩
  · exact Option.some.inj ((hs tx' h').symm.trans slot)
  · rw [outcome_current, live]
  · simp only [requireActive, outcome_bind, outcome_current, live, outcome_pure]
  · simp only [requireNone, outcome_bind, outcome_current, live]
    rfl
  · simp only [outcome_getOrBegin, live]
  · rw [final_getOrBegin, live]
    dsimp only
    rw [← slot]

theorem begins_of_none (live : s.live? = none) :
    (getOrBegin.final s).exchanges =
      s.exchanges ++ [⟨.begin s.settings.options.1, getOrBegin.outcome s⟩] := by
  rw [final_getOrBegin, outcome_getOrBegin, live]
  dsimp only
  rw [final_begin, outcome_begin]
  split <;> next h =>
    rw [final_call]
    rw [outcome_call] at h ⊢
    rfl

theorem begun_of_none (hn : s.Numbered) (live : s.live? = none) :
    s.Begun (getOrBegin.final s) (getOrBegin.outcome s) := by
  rw [final_getOrBegin, outcome_getOrBegin, live]
  dsimp only
  rw [final_begin, outcome_begin]
  split
  next e h =>
    rw [h, final_call]
    exact ⟨rfl, rfl⟩
  next tx h =>
    rw [h]
    -- the number was never given away before, so the client knows no transaction under it
    have begins := call_performs h
    exact ⟨hn.unknown_of_begin begins, rfl, rfl⟩

theorem hasNone_of_closed (hn : s.Numbered) (closed : ∀ tx, s.isClosed tx = true) : s.HasNone := by
  have live : s.live? = none := by
    cases live : s.live? with
    | none => rfl
    | some tx => cases (closed tx).symm.trans (live?_eq_some_iff.mp live).2
  refine ⟨closed, ?_, ?_, ?_, begins_of_none live, begun_of_none hn live⟩
  · rw [outcome_current, live]
  · simp only [requireActive, outcome_bind, outcome_current, final_current, live, outcome_get,
      outcome_throw]
    rfl
  · simp only [requireNone, outcome_bind, outcome_current, live]
    rfl

theorem Lives.autocommit (h : Lives tx s t) {handle : Handle}
    (known : s.handles.get? tx = some handle) :
    ∃ handle', t.handles.get? tx = some handle' ∧ handle'.autocommit = handle.autocommit := by
  cases h with
  | spared same | ran _ same => exact ⟨handle, same.trans known, rfl⟩
  | begun unknown => cases unknown.symm.trans known
  | ended _ closed =>
    rw [known] at closed
    exact ⟨_, closed, rfl⟩

end Session

theorem Session.Single.moves {kind : Request → Prop} {s t : Session} (hs : s.Single)
    (run : ReflTransGen (Moves kind) s t) : t.Single := by
  induction run with
  | refl => exact hs
  | tail _ move ih => exact ih.move move

namespace Client

theorem single_step {k : Client} (hs : k.session.Single) (c : Command) :
    (k.step c).2.session.Single := by
  cases c with
  | arrange a => exact hs.moves (k.moves_step (c := .arrange a) rfl)
  | call c => exact hs.moves (k.moves_step (c := .call c) rfl)
  | direct r => exact hs.of_same rfl rfl

theorem single_of_connect {server : Server} {scheduler : Scheduler} {config : ConnectionConfig}
    {k : Client} (opens : connect server scheduler config = .ok k) : k.session.Single := by
  rw [eq_of_connect opens]
  exact (Single.opened config).of_same rfl rfl

theorem Reached.single {k : Client} (h : k.Reached) : k.session.Single :=
  h.invariant Single.opened fun _ _ move hs => hs.move move

theorem Reached.live_transaction {k : Client} (h : k.Reached) :
    ((∃ tx, k.session.HasOnly tx) ∨ k.session.HasNone) ∧
      ∀ cs : List Command, (∀ c ∈ cs, c.isDirect = false) → ∀ tx handle,
        k.session.handles.get? tx = some handle →
          ∃ handle', (k.after cs).session.handles.get? tx = some handle' ∧
            handle'.autocommit = handle.autocommit := by
  refine ⟨?_, fun cs hcs tx handle known => ?_⟩
  · by_cases isOpen : ∃ tx, k.session.isClosed tx = false
    · obtain ⟨tx, isOpen⟩ := isOpen
      exact .inl ⟨tx, h.single.hasOnly isOpen⟩
    · refine .inr (hasNone_of_closed h.numbered fun tx => ?_)
      exact eq_true_of_ne_false fun h => isOpen ⟨tx, h⟩
  · have step (s t : Session) (step : Lives tx s t)
        (hs : ∃ handle', s.handles.get? tx = some handle' ∧ handle'.autocommit = handle.autocommit) :
        ∃ handle', t.handles.get? tx = some handle' ∧ handle'.autocommit = handle.autocommit := by
      obtain ⟨handle', known', same⟩ := hs
      obtain ⟨handle'', known'', same'⟩ := step.autocommit known'
      exact ⟨handle'', known'', same'.trans same⟩
    exact h.numbered.run step (moves_after hcs k) ⟨handle, known, rfl⟩

def closedByHandle : List Command :=
  [.call (.coordinator (.transaction (some 0))), .call (.handle 0 (.complete .commit))]

theorem live_transaction_closedByHandle :
    ((start (.plain true)).after closedByHandle).Reached ∧
      ((start (.plain true)).after closedByHandle).session.slot = some ⟨1⟩ ∧
        ((start (.plain true)).after closedByHandle).session.HasNone := by
  have reached := @reached_of_start (.plain true) closedByHandle (by decide)
  refine ⟨reached, by decide, ?_⟩
  rcases reached.live_transaction.1 with ⟨tx, only⟩ | none
  · have slot : some tx = some ⟨1⟩ := only.slot.symm.trans (by decide)
    have isOpen := (only.only tx).mpr rfl
    rw [Option.some.inj slot] at isOpen
    exact absurd isOpen (by decide)
  · exact none

end Client

end SqlClient
