import SqlClient.Proofs.Runs
import SqlClient.Proofs.Writes

namespace SqlClient

open SqlClient.Action Relation Session

namespace Server

variable {s t u : Server} {r : Request} {tx tx' : TransactionId}

structure Spares (tx : TransactionId) (s t : Server) : Prop where
  lastNumber : s.lastNumber ≤ t.lastNumber
  events : t.eventsOf tx = s.eventsOf tx
  transactions : tx.number ≤ s.lastNumber → t.transactions.get? tx = s.transactions.get? tx

abbrev Works (tx : TransactionId) : Server → Server → Prop :=
  ReflTransGen fun s t => ∃ r : Request, (r.isAside ∨ r.runsIn tx) ∧ s.Attempts r t

theorem Spares.refl (s : Server) : s.Spares tx s :=
  ⟨Nat.le_refl _, rfl, fun _ => rfl⟩

theorem Spares.trans (h : s.Spares tx t) (h' : t.Spares tx u) : s.Spares tx u where
  lastNumber := Nat.le_trans h.lastNumber h'.lastNumber
  events := h'.events.trans h.events
  transactions hn := (h'.transactions (Nat.le_trans hn h.lastNumber)).trans (h.transactions hn)

theorem spares_failures (failures : List (Operation × String)) :
    s.Spares tx { s with failures := failures } :=
  ⟨Nat.le_refl _, rfl, fun _ => rfl⟩

theorem spares_arrange (a : Arrangement) : s.Spares tx (s.arrange a).2 := by
  cases a with
  | putLob content => exact ⟨Nat.le_succ _, rfl, fun _ => rfl⟩
  | seed table rows =>
    simp only [arrange]
    induction rows generalizing s with
    | nil => exact .refl s
    | cons row rows ih =>
      have seeds : s.Spares tx (s.seed table row) := ⟨Nat.le_refl _, rfl, fun _ => rfl⟩
      exact seeds.trans ih
  | _ => exact ⟨Nat.le_refl _, rfl, fun _ => rfl⟩

theorem Performs.eventsOf {a : r.Answer} (h : s.Performs r a t) (tx : TransactionId) :
    t.eventsOf tx =
      s.eventsOf tx ++ (r.event? a).toList.filter fun e => e.transaction? = some tx := by
  simp only [Server.eventsOf, h.events, List.filter_append]

theorem Performs.eventsOf_of_ne {a : r.Answer} (h : s.Performs r a t)
    (he : ∀ e, r.event? a = some e → e.transaction? ≠ some tx) :
    t.eventsOf tx = s.eventsOf tx := by
  rw [h.eventsOf]
  cases hr : r.event? a with
  | none => exact List.append_nil _
  | some e => simp [he e hr]

theorem Performs.eventsOf_of_eq {a : r.Answer} (h : s.Performs r a t) {e : Event}
    (he : r.event? a = some e) (htx : e.transaction? = some tx) :
    t.eventsOf tx = s.eventsOf tx ++ [e] := by
  simp [h.eventsOf, he, htx]

theorem transaction?_of_event? {a : r.Answer} {e : Event} (hb : r.isBegin = false)
    (he : r.event? a = some e) : e.transaction? = r.transaction? := by
  cases r <;> cases he <;> first | rfl | cases hb

theorem Attempts.spares (h : s.Attempts r t) (hb : r.isBegin = false)
    (hr : r.transaction? ≠ some tx) : s.Spares tx t where
  lastNumber := h.lastNumber_le
  transactions hn := h.transactions hr hn
  events := by
    rcases h with ⟨failures, rfl⟩ | ⟨a, h⟩
    · rfl
    · exact h.eventsOf_of_ne fun e he => transaction?_of_event? hb he ▸ hr

theorem Performs.spares_of_begin {options : TransactionOptions}
    (h : s.Performs (.begin options) tx' t) (hne : tx' ≠ tx) : s.Spares tx t where
  lastNumber := h.lastNumber_le
  transactions hn := h.transactions (by simp [Request.transaction?]) hn
  events := by
    apply h.eventsOf_of_ne
    rintro e ⟨⟩ htx
    exact hne (Option.some.inj htx)

theorem Works.spares (h : s.Works tx' t) (hne : tx' ≠ tx) : s.Spares tx t := by
  induction h with
  | refl => exact .refl s
  | tail _ step ih =>
    obtain ⟨r, concern, attempt⟩ := step
    refine ih.trans (attempt.spares ?_ ?_)
    · cases r <;> first | rfl | simp [Request.isAside, Request.runsIn] at concern
    · rcases concern with aside | runs
      · simp [Request.transaction?_of_isAside aside]
      · simp [Request.transaction?_of_runsIn runs, hne]

theorem Works.lastNumber_le (h : s.Works tx t) : s.lastNumber ≤ t.lastNumber := by
  induction h with
  | refl => exact Nat.le_refl _
  | tail _ step ih =>
    obtain ⟨r, -, attempt⟩ := step
    exact Nat.le_trans ih attempt.lastNumber_le

end Server

namespace Session

variable {kind : Request → Prop} {s t : Session} {tx tx' : TransactionId}

theorem Works.onServer (h : Works kind tx s t) : s.server.Works tx t.server := by
  refine ReflTransGen.lift Session.server ?_ _ _ h
  intro a b ask
  cases ask with
  | ask timeout _ hr => exact ⟨_, hr.2, call_attempts _ timeout a⟩

def Numbered (s : Session) : Prop :=
  ∀ tx h, s.handles.get? tx = some h → tx.number ≤ s.server.lastNumber

theorem Numbered.unknown_of_begin (hn : s.Numbered) {options : TransactionOptions} {server : Server}
    (h : s.server.Performs (.begin options) tx server) : s.handles.get? tx = none := by
  cases known : s.handles.get? tx with
  | none => rfl
  | some handle =>
    have old := hn tx handle known
    rw [h.begun.1] at old
    exact absurd old (Nat.not_succ_le_self _)

/-- A step of the session, as one transaction sees it. -/
inductive Lives (tx : TransactionId) (s t : Session) : Prop
  | spared (same : t.handles.get? tx = s.handles.get? tx) (spares : s.server.Spares tx t.server)
  | ran (open_ : s.isClosed tx = false) (same : t.handles.get? tx = s.handles.get? tx)
      (works : s.server.Works tx t.server)
      (quiet : s.isAutocommit tx = true → t.server.staged tx = s.server.staged tx)
  | begun {options : TransactionOptions} (unknown : s.handles.get? tx = none)
      (opened : t.handles.get? tx = some ⟨s.autocommit, false⟩)
      (begins : s.server.Performs (.begin options) tx t.server)
  | ended {how : Completion} {v u : Server} (open_ : s.isClosed tx = false)
      (closed : t.handles.get? tx = (s.handles.get? tx).map fun h => { h with closed := true })
      (works : s.server.Works tx v) (completes : v.Attempts (.complete how tx) u)
      (releases : u.Attempts (.closeTransaction tx) t.server)

theorem lives_complete (how : Completion) (v : Session) (same : v.handles = s.handles)
    (works : s.server.Works tx v.server) (open_ : s.isClosed tx = false) (tx' : TransactionId) :
    Lives tx' s ((complete how tx).final v) := by
  have hv : v.isClosed tx = false := (isClosed_congr (by rw [same])).trans open_
  rw [final_complete_open _ _ hv]
  have completes := call_attempts (.complete how tx) none (v.closeHandle tx)
  have releases := call_attempts (.closeTransaction tx) none
    ((call (.complete how tx) none).final (v.closeHandle tx))
  have handles := handles_complete_open how tx hv
  rw [final_complete_open how tx hv] at handles
  by_cases htx : tx = tx'
  · subst htx
    refine .ended open_ ?_ works completes releases
    rw [handles, get?_closeHandle_self, same]
  · -- neither the completion nor the release names the other transaction
    have other (r : Request) (hr : r.transaction? = some tx) : r.transaction? ≠ some tx' := by
      simp [hr, htx]
    refine .spared ?_ ?_
    · rw [handles, get?_closeHandle_of_ne (Ne.symm htx), same]
    · have spared := works.spares htx
      exact (spared.trans (completes.spares rfl (other _ rfl))).trans
        (releases.spares rfl (other _ rfl))

theorem lives_call {r : Request} (timeout : Option Milliseconds) (s : Session) (hb : r.isBegin = false)
    (hr : r.transaction? ≠ some tx) : Lives tx s ((call r timeout).final s) := by
  refine .spared ?_ ((call_attempts r timeout s).spares hb hr)
  rw [final_call]

theorem lives_begin (hn : s.Numbered) (tx : TransactionId) : Lives tx s (Session.begin.final s) := by
  rw [final_begin]
  cases h : (call (.begin s.settings.options.1) none).outcome s.asking with
  | error e =>
    obtain ⟨failures, hf⟩ := call_error h
    refine .spared ?_ ?_
    · rw [final_call]
      rfl
    · dsimp only
      rw [hf]
      exact Server.spares_failures failures
  | ok tx' =>
    have begins := call_performs h
    by_cases htx : tx' = tx
    · subst htx
      exact .begun (hn.unknown_of_begin begins) (Keyed.get?_put_self _ _ _) begins
    · exact .spared (Keyed.get?_put_of_ne _ _ (Ne.symm htx)) (begins.spares_of_begin htx)

theorem Moves.lives (h : Moves kind s t) (hn : s.Numbered) (tx : TransactionId) : Lives tx s t := by
  cases h with
  | arrange _ a => exact .spared rfl (Server.spares_arrange a)
  | setUp | forget => exact .spared rfl (.refl _)
  | @aside r timeout _ _ concern =>
    apply lives_call
    · cases r <;> first | rfl | cases concern
    · simp [Request.transaction?_of_isAside concern]
  | begin => exact lives_begin hn tx
  | @query _ tx' id parameters timeout _ live =>
    have attempt := call_attempts (.query tx' id parameters) timeout s
    by_cases htx : tx' = tx
    · subst htx
      have works : s.server.Works tx' _ := .single ⟨.query tx' id parameters, .inr rfl, attempt⟩
      refine .ran (live?_eq_some_iff.mp live).2 ?_ works fun _ => attempt.staged_of_query tx'
      rw [final_call]
    · exact lives_call timeout s rfl fun h => htx (Option.some.inj h)
  | @work _ _ tx' live works manual =>
    have same : t.handles = s.handles := by rw [works.frame]
    by_cases htx : tx' = tx
    · subst htx
      -- work without an end is that of a manual transaction
      refine .ran (live?_eq_some_iff.mp live).2 (by rw [same]) works.onServer fun auto => ?_
      rw [manual] at auto
      cases auto
    · exact .spared (by rw [same]) (works.onServer.spares htx)
  | workAndEnd how _ live works =>
    exact lives_complete how _ (by rw [works.frame]) works.onServer (live?_eq_some_iff.mp live).2 tx
  | complete how tx' =>
    cases hc : s.isClosed tx' with
    | true =>
      rw [final_complete_closed _ _ hc]
      exact .spared rfl (.refl _)
    | false => exact lives_complete how s rfl .refl hc tx
  | completeTaken how =>
    rw [final_completeTaken]
    split
    next tx' live =>
      have open_ := (live?_eq_some_iff.mp live).2
      exact @lives_complete s tx' how { s with slot := none } rfl .refl open_ tx
    next => exact .spared rfl (.refl _)

theorem Numbered.opened (config : ConnectionConfig) : (Client.opened config).Numbered := by
  intro tx h hh
  cases hh

theorem Numbered.move (hs : s.Numbered) (move : Moves kind s t) : t.Numbered := by
  intro tx h hh
  cases move.lives hs tx with
  | spared same spares => exact Nat.le_trans (hs tx h (same ▸ hh)) spares.lastNumber
  | ran _ same works => exact Nat.le_trans (hs tx h (same ▸ hh)) works.lastNumber_le
  | begun _ _ begins =>
    obtain ⟨rfl, ht⟩ := begins.begun
    rw [ht]
    exact Nat.le_refl _
  | ended _ closed works completes releases =>
    rw [closed, Option.map_eq_some_iff] at hh
    obtain ⟨h', known, -⟩ := hh
    have number := Nat.le_trans works.lastNumber_le completes.lastNumber_le
    exact Nat.le_trans (hs tx h' known) (Nat.le_trans number releases.lastNumber_le)

theorem Numbered.moves (hs : s.Numbered) (run : ReflTransGen Move s t) : t.Numbered := by
  induction run with
  | refl => exact hs
  | tail _ move ih => exact ih.move move

end Session

namespace Client

variable {k k₀ : Client}

theorem after_append (k : Client) (cs ds : List Command) : k.after (cs ++ ds) = (k.after cs).after ds :=
  List.foldl_append

theorem numbered_step (hn : k.session.Numbered) (c : Command) : (k.step c).2.session.Numbered := by
  cases c with
  | arrange a => exact hn.moves (k.moves_step (c := .arrange a) rfl)
  | call c => exact hn.moves (k.moves_step (c := .call c) rfl)
  | direct r =>
    intro tx handle known
    have number : k.session.server.lastNumber ≤ (k.session.server.answer r).2.lastNumber := by
      rcases k.session.server.answer_cases r with ⟨e, failures, he⟩ | ⟨a, t, ha, hp⟩
      · have same : (k.session.server.answer r).2.lastNumber = k.session.server.lastNumber := by rw [he]
        exact Nat.le_of_eq same.symm
      · rw [ha]
        exact hp.lastNumber_le
    exact Nat.le_trans (hn tx handle known) number

theorem numbered_after (hn : k₀.session.Numbered) (cs : List Command) :
    (k₀.after cs).session.Numbered :=
  after_induct (I := fun k => k.session.Numbered) (fun _ c _ hn => numbered_step hn c)
    (fun _ _ => trivial) hn

theorem numbered_of_connect {server : Server} {scheduler : Scheduler} {config : ConnectionConfig}
    (opens : connect server scheduler config = .ok k₀) : k₀.session.Numbered := by
  rw [eq_of_connect opens]
  intro tx handle known
  cases known

end Client

theorem Client.Reached.numbered {k : Client} (h : k.Reached) : k.session.Numbered :=
  h.invariant Numbered.opened fun _ _ move hs => hs.move move

theorem Session.Numbered.run {I : Session → Prop} {tx : TransactionId} {s t : Session} (hn : s.Numbered)
    (step : ∀ s t, Lives tx s t → I s → I t) (run : ReflTransGen Move s t) (hs : I s) : I t := by
  induction run with
  | refl => exact hs
  | tail before move ih => exact step _ _ (move.lives (hn.moves before) tx) ih

theorem Client.Reached.lives {I : Session → TransactionId → Prop}
    (start : ∀ config tx, I (opened config) tx) (step : ∀ s t tx, Lives tx s t → I s tx → I t tx)
    {k : Client} (h : k.Reached) (tx : TransactionId) : I k.session tx := by
  have both : k.session.Numbered ∧ I k.session tx := by
    apply h.invariant (I := fun s => s.Numbered ∧ I s tx)
    · exact fun config => ⟨.opened config, start config tx⟩
    · intro s t move ⟨numbered, known⟩
      exact ⟨numbered.move move, step s t tx (move.lives numbered tx) known⟩
  exact both.2

end SqlClient
