import SqlClient.Proofs.Completions

namespace SqlClient

open SqlClient.Action Relation Session

namespace Client

def exchangesOf (k : Client) (c : Command) : List Exchange :=
  (k.step c).2.session.exchanges.drop k.session.exchanges.length

def BegunOff (k₀ : Client) (cs : List Command) (tx : TransactionId) : Prop :=
  ∃ before c rest options, cs = before ++ c :: rest ∧
    (k₀.after before).session.autocommit = false ∧
      (⟨.begin options, .ok tx⟩ : Exchange) ∈ (k₀.after before).exchangesOf c

def MayEnd (k : Client) (how : Completion) (tx : TransactionId) : Command → Prop
  | .call c => k.Ends how tx c
  | _ => False

variable {k k₀ : Client} {tx : TransactionId}

theorem pacing_call (k : Client) {c : Call} (never : ¬c.setsAutocommit = true) :
    Pacing (k.permit c) k.session (k.call c).2.session := by
  have step (h h' : Holding) (does : Does (k.permit c) h h')
      (hh : Pacing (k.permit c) k.session h.session) : Pacing (k.permit c) k.session h'.session :=
    hh.trans (does.pacing never)
  exact k.keeps_call c step .refl

theorem respects_step (hn : k.session.Numbered) (c : Command) (tx : TransactionId) :
    Respects (fun how tx => k.MayEnd how tx c) tx k.session (k.step c).2.session := by
  cases c with
  | arrange a => exact .of_same rfl rfl
  | direct r => exact .of_same rfl rfl
  | call c =>
    by_cases sets : c.setsAutocommit = true
    · -- the one call that changes the setting does nothing else
      cases c with
      | connection c =>
        cases c with
        | setAutocommit on => exact .of_same rfl rfl
        | _ => cases sets
      | _ => cases sets
    · exact (k.pacing_call sets).respects hn tx

theorem mode_after (hn : k₀.session.Numbered) (cs : List Command) {handle : Handle}
    (known : k₀.session.handles.get? tx = some handle) :
    ∃ handle', (k₀.after cs).session.handles.get? tx = some handle' ∧
      handle'.autocommit = handle.autocommit := by
  induction cs generalizing k₀ handle with
  | nil => exact ⟨handle, known, rfl⟩
  | cons c cs ih =>
    obtain ⟨handle', known', same⟩ := (respects_step hn c tx).mode handle known
    obtain ⟨handle'', known'', same'⟩ := ih (numbered_step hn c) known'
    exact ⟨handle'', known'', same'.trans same⟩

theorem exchangesOf_eq {c : Command} {added : List Exchange}
    (h : (k.step c).2.session.exchanges = k.session.exchanges ++ added) : k.exchangesOf c = added := by
  rw [exchangesOf, h, List.drop_left]

theorem BegunOff.manual {cs : List Command} (h : k₀.BegunOff cs tx) (hn : k₀.session.Numbered) :
    (k₀.after cs).session.isAutocommit tx = false := by
  obtain ⟨before, c, rest, options, rfl, off, begins⟩ := h
  have numbered := numbered_after hn before
  obtain ⟨-, added, exchanges, accounted, -⟩ := respects_step numbered c tx
  rw [exchangesOf_eq exchanges] at begins
  obtain ⟨handle, known, mode⟩ := (accounted _ begins).begins options rfl
  obtain ⟨handle', known', same⟩ := mode_after (numbered_step numbered c) rest known
  rw [after_append]
  change ((((k₀.after before).step c).2.after rest).session).isAutocommit tx = false
  rw [isAutocommit, known']
  exact (same.trans mode).trans off

/-- The last command of a run, and a transaction begun while autocommit was off: it is ended as the
command asks for, and if the command does not, then it is neither ended nor released. -/
theorem manual_ends_on_request {server : Server} {scheduler : Scheduler} {config : ConnectionConfig}
    (opens : connect server scheduler config = .ok k₀) (cs : List Command) (c : Command)
    (begun : k₀.BegunOff (cs ++ [c]) tx) :
    (∀ how o, (⟨.complete how tx, o⟩ : Exchange) ∈ (k₀.after cs).exchangesOf c →
      (k₀.after cs).MayEnd how tx c) ∧
    ((∀ how, ¬(k₀.after cs).MayEnd how tx c) →
      (∀ o, (⟨.closeTransaction tx, o⟩ : Exchange) ∉ (k₀.after cs).exchangesOf c) ∧
      ((k₀.after (cs ++ [c])).session.Ended tx → (k₀.after cs).session.Ended tx)) := by
  have numbered := numbered_of_connect opens
  have manual := begun.manual numbered
  rw [after_append] at manual ⊢
  change ((k₀.after cs).step c).2.session.isAutocommit tx = false at manual
  obtain ⟨-, added, exchanges, accounted, ended⟩ := respects_step (numbered_after numbered cs) c tx
  rw [exchangesOf_eq exchanges]
  have completes (how : Completion) {e : Exchange} (he : e ∈ added)
      (request : e.request = .complete how tx) : (k₀.after cs).MayEnd how tx c := by
    rcases (accounted e he).completes how request with auto | may
    · cases manual.symm.trans auto
    · exact may
  refine ⟨fun how o he => completes how he rfl, fun never => ⟨fun o he => ?_, fun gone => ?_⟩⟩
  · rcases (accounted _ he).releases rfl with auto | ⟨how, may⟩
    · cases manual.symm.trans auto
    · exact never how may
  · rcases ended gone with before | ⟨e, he, how, request⟩
    · exact before
    · exact absurd (completes how he request) (never how)

def switchedOn : List Command :=
  [.call (.coordinator (.transaction (some 0))), .call (.connection (.setAutocommit true))]

theorem manual_ends_on_request_switchedOn :
    (start (.plain false)).BegunOff (switchedOn ++ [.call (.handle 0 .finish)]) ⟨1⟩ ∧
      ¬((start (.plain false)).after (switchedOn ++ [.call (.handle 0 .finish)])).session.Ended
        ⟨1⟩ := by
  have begun : (start (.plain false)).BegunOff (switchedOn ++ [.call (.handle 0 .finish)]) ⟨1⟩ :=
    ⟨[], .call (.coordinator (.transaction (some 0))), _, _, rfl, rfl, .head _⟩
  refine ⟨begun, fun gone => ?_⟩
  have opens : connect .new .multiThread (.plain false) = .ok (start (.plain false)) := rfl
  have kept := (manual_ends_on_request opens switchedOn _ begun).2
  have never (how : Completion) : ¬((start (.plain false)).after switchedOn).MayEnd how ⟨1⟩
      (.call (.handle 0 .finish)) := by
    rintro ⟨⟨⟩, -⟩
  obtain ⟨handle, known, closed⟩ := (kept never).2 gone
  have goesOn : ((start (.plain false)).after switchedOn).session.handles.get? ⟨1⟩ =
      some ⟨false, false⟩ := by decide
  cases goesOn.symm.trans known
  cases closed

end Client

end SqlClient
