import SqlClient.Proofs.TransactionSteps

namespace SqlClient

open Session

def Event.runsIn (tx : TransactionId) : Event → Prop
  | .queried tx' _ | .executed tx' _ => tx' = tx
  | _ => False

/-- The beginning of a transaction, the statements `runs`, its end if there is one, and its release if
there is one. -/
def life (tx : TransactionId) (runs : List Event) (ending : Option Completion) (released : Bool) :
    List Event :=
  .began tx :: runs ++ (ending.map fun how => .completed how tx).toList ++
    if released then [.transactionClosed tx] else []

def Running (tx : TransactionId) (es : List Event) : Prop :=
  ∃ runs, (∀ e ∈ runs, e.runsIn tx) ∧ es = life tx runs none false

def Lived (tx : TransactionId) (es : List Event) : Prop :=
  ∃ runs ending released, (∀ e ∈ runs, e.runsIn tx) ∧ es = life tx runs ending released

theorem Running.lived {tx : TransactionId} {es : List Event} (h : Running tx es) : Lived tx es := by
  obtain ⟨runs, hruns, hes⟩ := h
  exact ⟨runs, none, false, hruns, hes⟩

theorem running_began (tx : TransactionId) : Running tx [.began tx] :=
  ⟨[], by simp, rfl⟩

theorem Running.append {tx : TransactionId} {es : List Event} (h : Running tx es) {e : Event}
    (he : e.runsIn tx) : Running tx (es ++ [e]) := by
  obtain ⟨runs, hruns, rfl⟩ := h
  refine ⟨runs ++ [e], ?_, by simp [life]⟩
  intro e' he'
  rcases List.mem_append.mp he' with old | new
  · exact hruns e' old
  · exact List.mem_singleton.mp new ▸ he

namespace Server

variable {s t u : Server} {r : Request} {tx : TransactionId}

theorem Attempts.eventsOf (h : s.Attempts r t) (tx : TransactionId) :
    t.eventsOf tx = s.eventsOf tx ∨
      ∃ a e, r.event? a = some e ∧ e.transaction? = some tx ∧ t.eventsOf tx = s.eventsOf tx ++ [e] := by
  rcases h with ⟨failures, rfl⟩ | ⟨a, h⟩
  · exact .inl rfl
  · by_cases he : ∃ e, r.event? a = some e ∧ e.transaction? = some tx
    · obtain ⟨e, he, htx⟩ := he
      exact .inr ⟨a, e, he, htx, h.eventsOf_of_eq he htx⟩
    · exact .inl (h.eventsOf_of_ne fun e hr htx => he ⟨e, hr, htx⟩)

theorem Attempts.running (h : s.Attempts r t) (hr : r.isAside ∨ r.runsIn tx)
    (hs : Running tx (s.eventsOf tx)) : Running tx (t.eventsOf tx) := by
  rcases h.eventsOf tx with same | ⟨a, e, he, htx, hte⟩
  · exact same ▸ hs
  · rw [hte]
    apply hs.append
    cases r with
    | query | execute =>
      cases he
      exact Option.some.inj htx
    | prepare | dispose | closeCursor =>
      cases he
      cases htx
    | describe | fetch | readLob => cases he
    | begin | complete | closeTransaction => simp [Request.isAside, Request.runsIn] at hr

theorem Works.running (h : s.Works tx t) (hs : Running tx (s.eventsOf tx)) :
    Running tx (t.eventsOf tx) := by
  induction h with
  | refl => exact hs
  | tail _ step ih =>
    obtain ⟨r, concern, attempt⟩ := step
    exact attempt.running concern ih

theorem lived_of_ended {how : Completion} (hs : Running tx (s.eventsOf tx))
    (completes : s.Attempts (.complete how tx) t) (releases : t.Attempts (.closeTransaction tx) u) :
    Lived tx (u.eventsOf tx) := by
  obtain ⟨runs, hruns, hes⟩ := hs
  -- a completion that fails leaves no event, and so does a release
  have completed : ∃ ending, t.eventsOf tx = life tx runs ending false := by
    rcases completes.eventsOf tx with same | ⟨a, e, he, -, hte⟩
    · exact ⟨none, same.trans hes⟩
    · cases he
      exact ⟨some how, by simp [hte, hes, life]⟩
  obtain ⟨ending, hte⟩ := completed
  rcases releases.eventsOf tx with same | ⟨a, e, he, -, hue⟩
  · exact ⟨runs, ending, false, hruns, same.trans hte⟩
  · cases he
    exact ⟨runs, ending, true, hruns, by simp [hue, hte, life]⟩

end Server

structure Session.Orderly (s : Session) (tx : TransactionId) : Prop where
  unknown : s.handles.get? tx = none → s.server.eventsOf tx = []
  running : s.isClosed tx = false → Running tx (s.server.eventsOf tx)
  lived : s.handles.get? tx ≠ none → Lived tx (s.server.eventsOf tx)

namespace Session

variable {s t : Session} {tx : TransactionId}

theorem Orderly.opened (config : ConnectionConfig) (tx : TransactionId) :
    (Client.opened config).Orderly tx where
  unknown _ := rfl
  running h := by cases h
  lived h := absurd rfl h

theorem handle_of_open (h : s.isClosed tx = false) : s.handles.get? tx ≠ none := by
  obtain ⟨handle, known, -⟩ := isClosed_eq_false_iff.mp h
  rw [known]
  simp

theorem Lives.orderly (h : Lives tx s t) (hs : s.Orderly tx) : t.Orderly tx := by
  cases h with
  | spared same spares =>
    refine ⟨fun unknown => ?_, fun open_ => ?_, fun known => ?_⟩ <;> rw [spares.events]
    · exact hs.unknown (same.symm.trans unknown)
    · exact hs.running ((isClosed_congr same).symm.trans open_)
    · exact hs.lived (same ▸ known)
  | ran open_ same works quiet =>
    have running := works.running (hs.running open_)
    refine ⟨fun unknown => ?_, fun _ => running, fun _ => running.lived⟩
    exact absurd (same.symm.trans unknown) (handle_of_open open_)
  | begun unknown opened begins =>
    have running : Running tx (t.server.eventsOf tx) := by
      rw [begins.eventsOf_of_eq rfl rfl, hs.unknown unknown]
      exact running_began tx
    refine ⟨fun unknown' => ?_, fun _ => running, fun _ => running.lived⟩
    rw [opened] at unknown'
    cases unknown'
  | ended open_ closed works completes releases =>
    have lived := Server.lived_of_ended (works.running (hs.running open_)) completes releases
    obtain ⟨handle, known, -⟩ := isClosed_eq_false_iff.mp open_
    rw [known] at closed
    refine ⟨fun unknown => ?_, fun isOpen => ?_, fun _ => lived⟩
    · rw [closed] at unknown
      cases unknown
    · simp only [isClosed, closed] at isOpen
      cases isOpen

end Session

namespace Client

theorem Reached.orderly {k : Client} (h : k.Reached) (tx : TransactionId) : k.session.Orderly tx :=
  h.lives Orderly.opened (fun _ _ _ step hs => step.orderly hs) tx

theorem Reached.transaction_lived {k : Client} (h : k.Reached) (tx : TransactionId) :
    k.session.handles.get? tx = none ∧ k.session.server.eventsOf tx = [] ∨
      (∃ handle, k.session.handles.get? tx = some handle) ∧
        Lived tx (k.session.server.eventsOf tx) := by
  cases known : k.session.handles.get? tx with
  | none => exact .inl ⟨rfl, (h.orderly tx).unknown known⟩
  | some handle =>
    have lived := (h.orderly tx).lived (by simp [known])
    exact .inr ⟨⟨handle, rfl⟩, lived⟩

def completedTwice : List Command :=
  [.call (.connection (.transaction (some 0))), .call (.connection (.complete .commit)),
    .call (.handle 0 (.complete .rollback))]

theorem completedTwice_lived :
    ((start (.plain false)).after completedTwice).Reached ∧
      Lived ⟨1⟩ (((start (.plain false)).after completedTwice).session.server.eventsOf ⟨1⟩) := by
  have reached := @reached_of_start (.plain false) completedTwice (by decide)
  refine ⟨reached, ?_⟩
  rcases reached.transaction_lived ⟨1⟩ with ⟨unknown, -⟩ | ⟨-, lived⟩
  · exact absurd unknown (by decide)
  · exact lived

end Client

end SqlClient
