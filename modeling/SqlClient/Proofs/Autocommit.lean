import SqlClient.Proofs.Exchanges
import SqlClient.Proofs.LiveTransaction
import SqlClient.Proofs.TransactionLife

namespace SqlClient

open SqlClient.Action Relation Session

def Request.OnlyRuns (allowed : TransactionId → Prop) (r : Request) : Prop :=
  ∀ tx id parameters, r = .execute tx id parameters → allowed tx

theorem Session.Adds.allow {allowed allowed' : TransactionId → Prop} {s t : Session}
    (h : Adds (Request.OnlyRuns allowed) s t) (ha : ∀ tx, allowed tx → allowed' tx) :
    Adds (Request.OnlyRuns allowed') s t :=
  h.mono fun _ hr tx id parameters executes => ha tx (hr tx id parameters executes)

theorem Request.controls_onlyRuns (allowed : TransactionId → Prop) :
    Request.Controls (Request.OnlyRuns allowed) := by
  constructor <;> intros <;> intro tx id parameters h <;> cases h

theorem Request.onlyRuns_of_isAside {allowed : TransactionId → Prop} {r : Request} (h : r.isAside) :
    r.OnlyRuns allowed := by
  intro tx id parameters hr
  subst hr
  cases h

theorem Running.uncommitted {es : List Event} (h : Running tx es) {how : Completion} :
    .completed how tx ∉ es := by
  obtain ⟨runs, hruns, rfl⟩ := h
  simp only [life, Option.map_none, Option.toList_none, Bool.false_eq_true, ↓reduceIte,
    List.append_nil, List.mem_cons, reduceCtorEq, false_or]
  exact fun he => hruns _ he

namespace Server

variable {s t : Server} {r : Request} {tx : TransactionId}

theorem Attempts.uncommitted (h : s.Attempts r t) (hr : r ≠ .complete .commit tx)
    (hs : .completed .commit tx ∉ s.events) : .completed .commit tx ∉ t.events := by
  rcases h with ⟨failures, rfl⟩ | ⟨a, h⟩
  · exact hs
  · rw [h.events, List.mem_append, Option.mem_toList]
    rintro (old | new)
    · exact hs old
    · cases r <;> cases new
      exact hr rfl

end Server

namespace Session

variable {kind : Request → Prop} {s t s₀ : Session} {tx : TransactionId} {w : List Write}

def Clean (s : Session) (tx : TransactionId) : Prop :=
  s.isClosed tx = false → s.isAutocommit tx = true → s.server.staged tx = []

theorem Lives.clean (h : Lives tx s t) (hn : s.Numbered) (hs : s.Clean tx) : t.Clean tx := by
  intro isOpen auto
  cases h with
  | spared same spares =>
    rw [isClosed_congr same] at isOpen
    rw [isAutocommit_congr same] at auto
    obtain ⟨handle, known, -⟩ := isClosed_eq_false_iff.mp isOpen
    rw [Server.staged, spares.transactions (hn tx handle known)]
    exact hs isOpen auto
  | ran open_ same works quiet =>
    rw [isAutocommit_congr same] at auto
    rw [quiet auto]
    exact hs open_ auto
  | begun unknown opened begins => exact begins.staged_begin
  | ended open_ closed works completes releases =>
    obtain ⟨handle, known, -⟩ := isClosed_eq_false_iff.mp open_
    rw [known] at closed
    simp only [isClosed, closed] at isOpen
    cases isOpen

structure Regular (s : Session) : Prop where
  numbered : s.Numbered
  single : s.Single
  clean : ∀ tx, s.Clean tx
  orderly : ∀ tx, s.Orderly tx

theorem Regular.opened (config : ConnectionConfig) : (Client.opened config).Regular where
  numbered := .opened config
  single := .opened config
  clean tx isOpen := by cases isOpen
  orderly := .opened config

theorem Regular.move (hs : s.Regular) (h : Moves kind s t) : t.Regular where
  numbered := hs.numbered.move h
  single := hs.single.move h
  clean tx := (h.lives hs.numbered tx).clean hs.numbered (hs.clean tx)
  orderly tx := (h.lives hs.numbered tx).orderly (hs.orderly tx)

theorem Regular.run (hs : s.Regular) (h : ReflTransGen (Moves kind) s t) : t.Regular := by
  induction h with
  | refl => exact hs
  | tail _ move ih => exact ih.move move

structure Abandoned (s : Session) (tx : TransactionId) : Prop where
  closed : ∃ handle, s.handles.get? tx = some handle ∧ handle.closed = true
  uncommitted : .completed .commit tx ∉ s.server.events

theorem mem_events_iff {server : Server} {how : Completion} :
    .completed how tx ∈ server.events ↔ .completed how tx ∈ server.eventsOf tx := by
  simp [Server.eventsOf, Event.transaction?]

theorem Abandoned.not_open (h : s.Abandoned tx) : s.isClosed tx ≠ false := by
  obtain ⟨handle, known, closed⟩ := h.closed
  simp [isClosed, known, closed]

theorem Lives.abandoned (h : Lives tx s t) (hs : s.Abandoned tx) : t.Abandoned tx := by
  cases h with
  | spared same spares =>
    refine ⟨same ▸ hs.closed, ?_⟩
    rw [mem_events_iff, spares.events, ← mem_events_iff]
    exact hs.uncommitted
  | begun unknown =>
    obtain ⟨handle, known, -⟩ := hs.closed
    cases unknown.symm.trans known
  | ran open_ | ended open_ => exact absurd open_ hs.not_open

structure Calm (s t : Session) : Prop where
  tables : t.server.tables = s.server.tables
  quiet : Adds (Request.OnlyRuns fun _ => False) s t
  closed : (∀ tx, s.isClosed tx = true) → ∀ tx, t.isClosed tx = true
  abandoned : ∀ tx, s.Abandoned tx → t.Abandoned tx

theorem calm_aside {r : Request} (timeout : Option Milliseconds) (s : Session) (concern : r.isAside) :
    Calm s ((call r timeout).final s) := by
  have attempt := call_attempts r timeout s
  have notControl (tx : TransactionId) : r ≠ .complete .commit tx := by
    rintro rfl
    cases concern
  refine ⟨attempt.tables notControl, adds_call timeout s (Request.onlyRuns_of_isAside concern), ?_, ?_⟩
  · rw [final_call]
    exact fun closed => closed
  · intro tx abandoned
    refine Lives.abandoned (lives_call timeout s ?_ ?_) abandoned
    · cases r <;> first | rfl | cases concern
    · simp [Request.transaction?_of_isAside concern]

theorem calm_finish (hs : s.Regular) (tx : TransactionId) : Calm s ((finish tx).final s) := by
  rw [final_finish]
  split
  next auto =>
    cases closed : s.isClosed tx with
    | true =>
      rw [final_complete_closed _ _ closed]
      exact ⟨rfl, .refl s, fun h => h, fun _ h => h⟩
    | false =>
      refine ⟨?_, adds_of_puts (puts_complete (Request.controls_onlyRuns _) .commit tx s), ?_, ?_⟩
      · rw [final_complete_open _ _ closed]
        have released := call_attempts (.closeTransaction tx) none
          ((call (.complete .commit tx) none).final (s.closeHandle tx))
        rw [released.tables (by simp)]
        rcases call_attempts (.complete .commit tx) none (s.closeHandle tx) with ⟨_, h⟩ | ⟨_, h⟩
        · rw [h]
          rfl
        · -- the commit goes through, but between calls there is nothing to carry out
          have nothing : (s.closeHandle tx).server.staged tx = [] := hs.clean tx closed auto
          rw [h.tables_commit, nothing]
          rfl
      · exact fun h => absurd (h tx) (by simp [closed])
      · intro tx' abandoned
        exact (lives_complete .commit s rfl .refl closed tx').abandoned abandoned
  next => exact ⟨rfl, .refl s, fun h => h, fun _ h => h⟩

theorem Tidies.calm (h : Tidies s t) (hs : s.Regular) : Calm s t := by
  cases h with
  | aside timeout _ concern => exact calm_aside timeout s concern
  | finish tx => exact calm_finish hs tx

theorem Tidies.regular (h : Tidies s t) (hs : s.Regular) : t.Regular :=
  hs.run (@Tidies.moves (fun _ => True) s t h fun _ => trivial)

end Session

theorem Client.Reached.regular {k : Client} (h : k.Reached) : k.session.Regular :=
  h.invariant Regular.opened fun _ _ move hs => hs.move move

end SqlClient
