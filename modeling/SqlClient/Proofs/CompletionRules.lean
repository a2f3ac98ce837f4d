import SqlClient.Proofs.AutocommitWork

namespace SqlClient

open SqlClient.Action Relation Session

namespace Session

variable {how : Completion} {s t : Session} {tx : TransactionId} {o : Except Error Unit}

structure Unasked (s t : Session) : Prop where
  server : t.server = s.server
  exchanges : t.exchanges = s.exchanges
  live : t.live? = s.live?
  handles : t.handles = s.handles

structure EndsLive (how : Completion) (tx : TransactionId) (s : Session) (o : Except Error Unit)
    (t : Session) : Prop where
  exchanges : ∃ released, t.exchanges =
    s.exchanges ++ [⟨.complete how tx, o⟩, ⟨.closeTransaction tx, released⟩]
  live : t.live? = none
  closed : ∀ tx', t.isClosed tx' = true

structure CompletesLive (how : Completion) (s : Session) (o : Except Error Unit) (t : Session) :
    Prop where
  refused : s.autocommit = true → (∀ tx, s.live? = some tx → s.isAutocommit tx = true) →
    o = .error (.noActiveTransaction .autocommitEnabled) ∧ Unasked s t
  idle : s.autocommit = false → s.live? = none → o = .ok () ∧ Unasked s t
  ends : ∀ tx, s.live? = some tx → s.autocommit = false ∨ s.isAutocommit tx = false →
    EndsLive how tx s o t

theorem mayComplete_eq_false_iff :
    s.mayComplete s.live? = false ↔
      s.autocommit = true ∧ ∀ tx, s.live? = some tx → s.isAutocommit tx = true := by
  cases live : s.live? <;> simp [mayComplete]

theorem outcome_completeTaken :
    (completeTaken how).outcome s =
      match s.live? with
      | some tx => (complete how tx).outcome { s with slot := none }
      | none => .ok () := by
  simp only [completeTaken, takeLive, outcome_bind, final_bind, outcome_current, final_current,
    outcome_modify, final_modify, outcome_pure, final_pure]
  cases s.live? <;> rfl

theorem completeLive_allowed (how : Completion) (may : s.mayComplete s.live? = true) :
    (completeLive how).outcome s = (completeTaken how).outcome s ∧
      (completeLive how).final s = (completeTaken how).final s := by
  have again : mayComplete { s with slot := s.live? } s.live? = true := may
  constructor
  · simp only [completeLive, outcome_bind, outcome_current, final_current, outcome_get, final_get,
      again, ↓reduceIte, outcome_completeTaken, live?_forget]
  · simp only [completeLive, final_bind, outcome_current, final_current, outcome_get, final_get,
      again, ↓reduceIte, final_completeTaken, live?_forget]

theorem completeLive_refused (how : Completion) (may : s.mayComplete s.live? = false) :
    (completeLive how).outcome s = .error (.noActiveTransaction .autocommitEnabled) ∧
      (completeLive how).final s = { s with slot := s.live? } := by
  have again : mayComplete { s with slot := s.live? } s.live? = false := may
  constructor
  · simp only [completeLive, outcome_bind, outcome_current, final_current, outcome_get, final_get,
      again, Bool.false_eq_true, ↓reduceIte, outcome_throw]
  · simp only [completeLive, final_bind, outcome_current, final_current, outcome_get, final_get,
      again, Bool.false_eq_true, ↓reduceIte, final_throw]

theorem unasked_forget (s : Session) : Unasked s { s with slot := s.live? } :=
  ⟨rfl, rfl, live?_forget s, rfl⟩

theorem completesLive_refused (may : s.mayComplete s.live? = false) :
    CompletesLive how s ((completeLive how).outcome s) ((completeLive how).final s) := by
  obtain ⟨on, auto⟩ := mayComplete_eq_false_iff.mp may
  obtain ⟨outcome, final⟩ := completeLive_refused how may
  rw [outcome, final]
  refine ⟨fun _ _ => ⟨rfl, unasked_forget s⟩, fun off => ?_, fun tx live manual => ?_⟩
  · cases on.symm.trans off
  · rcases manual with off | manual
    · cases on.symm.trans off
    · cases (auto tx live).symm.trans manual

theorem completesLive_idle (may : s.mayComplete s.live? = true) (live : s.live? = none) :
    CompletesLive how s ((completeLive how).outcome s) ((completeLive how).final s) := by
  obtain ⟨outcome, final⟩ := completeLive_allowed how may
  rw [outcome, final, outcome_completeTaken, final_completeTaken, live]
  refine ⟨fun on auto => ?_, fun _ _ => ⟨rfl, rfl, rfl, live.symm, rfl⟩, fun tx is => ?_⟩
  · cases may.symm.trans (mayComplete_eq_false_iff.mpr ⟨on, auto⟩)
  · cases live.symm.trans is

theorem completesLive_ends (single : s.Single) (may : s.mayComplete s.live? = true)
    (live : s.live? = some tx) :
    CompletesLive how s ((completeLive how).outcome s) ((completeLive how).final s) := by
  obtain ⟨outcome, final⟩ := completeLive_allowed how may
  rw [outcome, final, outcome_completeTaken, final_completeTaken, live]
  obtain ⟨slot, isOpen⟩ := live?_eq_some_iff.mp live
  refine ⟨fun on auto => ?_, fun _ none => ?_, fun tx' is _ => ?_⟩
  · cases may.symm.trans (mayComplete_eq_false_iff.mpr ⟨on, auto⟩)
  · cases live.symm.trans none
  · cases live.symm.trans is
    refine ⟨exchanges_complete_open how tx (s := { s with slot := none }) isOpen, ?_, fun tx' => ?_⟩
    · rw [live?, slot_complete]
      rfl
    · by_cases htx : tx' = tx
      · rw [htx]
        exact isClosed_complete_self how tx _
      · -- what else were open would be in the slot
        rw [isClosed_complete_of_ne how tx _ htx]
        refine eq_true_of_ne_false fun isOpen' => htx ?_
        exact Option.some.inj ((single tx' isOpen').symm.trans slot)

theorem completesLive (single : s.Single) :
    CompletesLive how s ((completeLive how).outcome s) ((completeLive how).final s) := by
  cases may : s.mayComplete s.live? with
  | false => exact completesLive_refused may
  | true =>
    cases live : s.live? with
    | none => exact completesLive_idle may live
    | some tx => exact completesLive_ends single may live

theorem completeOpen_eq (how : Completion) (isOpen : s.closed = false) :
    (completeOpen how).outcome s = (completeLive how).outcome s ∧
      (completeOpen how).final s = (completeLive how).final s := by
  constructor
  · simp only [completeOpen, ensureOpen, outcome_bind, final_bind, outcome_get, final_get, isOpen,
      Bool.false_eq_true, ↓reduceIte, outcome_pure, final_pure]
  · simp only [completeOpen, ensureOpen, outcome_bind, final_bind, outcome_get, final_get, isOpen,
      Bool.false_eq_true, ↓reduceIte, outcome_pure, final_pure]

end Session

namespace Client

variable {k k₀ : Client} {how : Completion}

theorem single_after (single : k.session.Single) (cs : List Command) :
    (k.after cs).session.Single :=
  after_induct (I := fun k => k.session.Single) (P := fun _ => True) (fun _ c _ hs => single_step hs c)
    (fun _ _ => trivial) single

/-- A completion is asked for in any state of any run, whatever the server has been arranged to answer:
on the connection while it is open, or past it. -/
theorem completion_rules {server : Server} {scheduler : Scheduler} {config : ConnectionConfig}
    (opens : connect server scheduler config = .ok k₀) (cs : List Command) (hk : k = k₀.after cs)
    (how : Completion) :
    (k.session.closed = false →
      ∃ o t, k.call (.connection (.complete how)) = (some o, { k with session := t }) ∧
        CompletesLive how k.session o t) ∧
    ∃ o t, k.call (.coordinator (.complete how)) = (some o, { k with session := t }) ∧
      CompletesLive how k.session o t := by
  have single : k.session.Single := hk ▸ single_after (single_of_connect opens) cs
  have completes := @completesLive how k.session single
  refine ⟨fun isOpen => ⟨_, _, ?_, completes⟩, _, _, ?_, completes⟩
  · obtain ⟨outcome, final⟩ := completeOpen_eq how isOpen
    rw [call, runOn_eq]
    dsimp only [ConnectionCall.perform]
    rw [final_onSession, onSession, outcome_zoom, outcome, final]
  · rw [call, runOn_eq]
    dsimp only [CoordinatorCall.perform]
    rw [final_onSession, onSession, outcome_zoom]

def leftManual : Client :=
  (start (.plain false)).after
    [.call (.coordinator (.transaction none)), .call (.connection (.setAutocommit true)),
      .arrange (.failNext .commit "lost"), .arrange (.failNext .close "lost")]

theorem completion_rules_leftManual :
    leftManual.session.autocommit = true ∧
      ∃ t, leftManual.call (.connection (.complete .commit)) =
          (some (.error (.commit (.arranged "lost"))), { leftManual with session := t }) ∧
        EndsLive .commit ⟨1⟩ leftManual.session (.error (.commit (.arranged "lost"))) t := by
  have opens : connect .new .multiThread (.plain false) = .ok (start (.plain false)) := rfl
  obtain ⟨o, t, answer, completes⟩ := (completion_rules opens _ (k := leftManual) rfl .commit).1 rfl
  have fails : (leftManual.call (.connection (.complete .commit))).1 =
      some (.error (.commit (.arranged "lost"))) := rfl
  rw [answer] at fails
  cases fails
  exact ⟨rfl, t, answer, completes.ends ⟨1⟩ rfl (.inr rfl)⟩

end Client

end SqlClient
