import Mathlib.Data.List.Perm.Basic
import SqlClient.Proofs.Exchanges

namespace SqlClient

open SqlClient.Action Relation Session

namespace Keyed

variable {κ α : Type}

theorem nodup_keys (m : Keyed κ α) : m.keys.Nodup :=
  m.nodup

variable [DecidableEq κ] {m : Keyed κ α} {k : κ}

theorem keys_erase (m : Keyed κ α) (k : κ) : (m.erase k).keys = m.keys.erase k := by
  rw [m.nodup_keys.erase_eq_filter]
  simp only [keys, erase, List.filter_map]
  congr 1
  apply List.filter_congr
  intro e _
  exact decide_not

theorem keys_put (h : k ∉ m.keys) (a : α) : (m.put k a).keys = k :: m.keys := by
  have erased := m.keys_erase k
  rw [List.erase_of_not_mem h] at erased
  rw [← erased]
  rfl

theorem keys_update (m : Keyed κ α) (k : κ) (f : α → α) : (m.update k f).keys = m.keys := by
  simp only [keys, update, List.map_map]
  rfl

end Keyed

namespace Request

def allots : Request → Bool
  | prepare .. | dispose _ | query .. | closeCursor _ => true
  | _ => false

def disposed? : Request → Option PreparedId
  | dispose id => some id
  | _ => none

def closedCursor? : Request → Option CursorId
  | closeCursor cursor => some cursor
  | _ => none

theorem givesBack_of_allots {r : Request} (h : r.allots = false) : r.givesBack = false := by
  cases r <;> first | rfl | cases h

theorem disposed?_of_givesBack {r : Request} (h : r.givesBack = false) : r.disposed? = none := by
  cases r <;> first | rfl | cases h

theorem closedCursor?_of_givesBack {r : Request} (h : r.givesBack = false) :
    r.closedCursor? = none := by
  cases r <;> first | rfl | cases h

end Request

namespace Server

variable {s t : Server} {r : Request} {a : r.Answer}

def Fresh (s : Server) : Prop :=
  (∀ id ∈ s.prepared.keys, id.number ≤ s.lastNumber) ∧
    ∀ id ∈ s.cursors.keys, id.number ≤ s.lastNumber

structure Gains (ps : List PreparedId) (cs : List CursorId) (s t : Server) : Prop where
  lastNumber : s.lastNumber ≤ t.lastNumber
  prepared : t.prepared.keys = ps ++ s.prepared.keys
  cursors : t.cursors.keys = cs ++ s.cursors.keys
  preparedNumbers : ∀ id ∈ ps, s.lastNumber < id.number ∧ id.number ≤ t.lastNumber
  cursorNumbers : ∀ id ∈ cs, s.lastNumber < id.number ∧ id.number ≤ t.lastNumber

abbrev Leaves : Server → Server → Prop :=
  Gains [] []

theorem leaves_of_same (lastNumber : s.lastNumber ≤ t.lastNumber)
    (prepared : t.prepared.keys = s.prepared.keys) (cursors : t.cursors.keys = s.cursors.keys) :
    s.Leaves t :=
  ⟨lastNumber, prepared, cursors, by simp, by simp⟩

theorem Gains.fresh {ps : List PreparedId} {cs : List CursorId} (h : Gains ps cs s t) (hs : s.Fresh) :
    t.Fresh := by
  refine ⟨fun id mem => ?_, fun id mem => ?_⟩
  · rw [h.prepared] at mem
    rcases List.mem_append.mp mem with new | old
    · exact (h.preparedNumbers id new).2
    · exact Nat.le_trans (hs.1 id old) h.lastNumber
  · rw [h.cursors] at mem
    rcases List.mem_append.mp mem with new | old
    · exact (h.cursorNumbers id new).2
    · exact Nat.le_trans (hs.2 id old) h.lastNumber

theorem leaves_failures (failures : List (Operation × String)) :
    s.Leaves { s with failures := failures } :=
  leaves_of_same (Nat.le_refl _) rfl rfl

theorem frame_arrange (s : Server) (a : Arrangement) :
    s.lastNumber ≤ (s.arrange a).2.lastNumber ∧ (s.arrange a).2.transactions = s.transactions ∧
      (s.arrange a).2.prepared = s.prepared ∧ (s.arrange a).2.cursors = s.cursors := by
  cases a with
  | putLob content => exact ⟨Nat.le_succ _, rfl, rfl, rfl⟩
  | seed table rows =>
    simp only [arrange]
    induction rows generalizing s with
    | nil => exact ⟨Nat.le_refl _, rfl, rfl, rfl⟩
    | cons row rows ih => exact ih (s.seed table row)
  | _ => exact ⟨Nat.le_refl _, rfl, rfl, rfl⟩

theorem leaves_arrange (a : Arrangement) : s.Leaves (s.arrange a).2 := by
  obtain ⟨number, -, prepared, cursors⟩ := s.frame_arrange a
  exact leaves_of_same number (congrArg Keyed.keys prepared) (congrArg Keyed.keys cursors)

theorem Attempts.leaves (h : s.Attempts r t) (hr : r.allots = false) : s.Leaves t := by
  rcases h with ⟨failures, rfl⟩ | ⟨a, h⟩
  · exact leaves_failures failures
  · have kept : t.prepared.keys = s.prepared.keys ∧ t.cursors.keys = s.cursors.keys := by
      cases h with
      | prepare | dispose | query | closeCursor => cases hr
      | fetch => exact ⟨rfl, Keyed.keys_update _ _ _⟩
      | _ => exact ⟨rfl, rfl⟩
    exact leaves_of_same h.lastNumber_le kept.1 kept.2

theorem Fresh.prepare (hs : s.Fresh) {sql : String} {placeholders : List Placeholder} {p : Prepared}
    (h : s.Performs (.prepare sql placeholders) p t) : Gains [p.id] [] s t := by
  have new : (⟨s.lastNumber + 1⟩ : PreparedId) ∉ s.prepared.keys :=
    fun mem => Nat.not_succ_le_self _ (hs.1 _ mem)
  have number := h.lastNumber_le
  cases h
  refine ⟨number, Keyed.keys_put new _, rfl, ?_, by simp⟩
  exact List.forall_mem_singleton.mpr ⟨Nat.lt_succ_self _, Nat.le_refl _⟩

theorem Fresh.query (hs : s.Fresh) {tx : TransactionId} {id : PreparedId} {parameters : List Parameter}
    {cursor : CursorId} (h : s.Performs (.query tx id parameters) cursor t) :
    Gains [] [cursor] s t := by
  have new : (⟨s.lastNumber + 1⟩ : CursorId) ∉ s.cursors.keys :=
    fun mem => Nat.not_succ_le_self _ (hs.2 _ mem)
  have number := h.lastNumber_le
  cases h
  refine ⟨number, rfl, Keyed.keys_put new _, by simp, ?_⟩
  exact List.forall_mem_singleton.mpr ⟨Nat.lt_succ_self _, Nat.le_refl _⟩

theorem Performs.disposed {id : PreparedId} {u : Unit} (h : s.Performs (.dispose id) u t) :
    t = s.dispose id := by
  cases h
  rfl

theorem Performs.cursorClosed {cursor : CursorId} {u : Unit}
    (h : s.Performs (.closeCursor cursor) u t) : t = s.closeCursor cursor := by
  cases h
  rfl

theorem Attempts.fresh_dispose {id : PreparedId} (h : s.Attempts (.dispose id) t) (hs : s.Fresh) :
    t.Fresh := by
  rcases h with ⟨failures, rfl⟩ | ⟨a, h⟩
  · exact hs
  · rw [h.disposed]
    refine ⟨fun id' mem => hs.1 id' ?_, hs.2⟩
    rw [Server.dispose, record, Keyed.keys_erase] at mem
    exact List.mem_of_mem_erase mem

theorem Attempts.fresh_closeCursor {cursor : CursorId} (h : s.Attempts (.closeCursor cursor) t)
    (hs : s.Fresh) : t.Fresh := by
  rcases h with ⟨failures, rfl⟩ | ⟨a, h⟩
  · exact hs
  · rw [h.cursorClosed]
    refine ⟨hs.1, fun id mem => hs.2 id ?_⟩
    rw [Server.closeCursor, record, Keyed.keys_erase] at mem
    exact List.mem_of_mem_erase mem

end Server

namespace Session

variable {ps ps' : List PreparedId} {cs cs' : List CursorId} {s t : Session} {r : Request}
  {timeout : Option Milliseconds}

def Released (s : Session) : Prop :=
  ∀ e ∈ s.exchanges, e.request.operation = .close → e.outcome.isOk = true

instance (s : Session) : Decidable s.Released :=
  inferInstanceAs (Decidable (∀ e ∈ s.exchanges, e.request.operation = .close → e.outcome.isOk = true))

def disposed (s : Session) : List PreparedId :=
  s.requests.filterMap Request.disposed?

def closedCursors (s : Session) : List CursorId :=
  s.requests.filterMap Request.closedCursor?

theorem requests_append {added : List Exchange} (exchanges : t.exchanges = s.exchanges ++ added) :
    t.requests = s.requests ++ added.map Exchange.request := by
  rw [requests, exchanges, List.map_append]
  rfl

theorem given_append {added : List Exchange} (exchanges : t.exchanges = s.exchanges ++ added)
    (keeps : ∀ e ∈ added, e.request.givesBack = false) :
    t.disposed = s.disposed ∧ t.closedCursors = s.closedCursors := by
  have nothing {ι : Type} {f : Request → Option ι} (hf : ∀ r : Request, r.givesBack = false → f r = none) :
      (added.map Exchange.request).filterMap f = [] := by
    rw [List.filterMap_eq_nil_iff, List.forall_mem_map]
    exact fun e mem => hf _ (keeps e mem)
  simp only [disposed, closedCursors, requests_append exchanges, List.filterMap_append,
    nothing fun _ => Request.disposed?_of_givesBack, nothing fun _ => Request.closedCursor?_of_givesBack,
    List.append_nil, and_self]

end Session

structure Allotted {ι : Type} (number : ι → Nat) (limit : Nat) (ids : List ι) : Prop where
  nodup : ids.Nodup
  bound : ∀ id ∈ ids, number id ≤ limit

namespace Allotted

variable {ι : Type} {number : ι → Nat} {limit limit' : Nat} {ids ids' new : List ι}

theorem perm (h : Allotted number limit ids) (hp : ids.Perm ids') : Allotted number limit ids' :=
  ⟨hp.nodup_iff.mp h.nodup, fun id mem => h.bound id (hp.mem_iff.mpr mem)⟩

theorem grows (h : Allotted number limit ids) (hl : limit ≤ limit') (nodup : new.Nodup)
    (hn : ∀ id ∈ new, limit < number id ∧ number id ≤ limit') :
    Allotted number limit' (new ++ ids) := by
  refine ⟨List.nodup_append.mpr ⟨nodup, h.nodup, fun a ha b hb => ?_⟩, fun id mem => ?_⟩
  · rintro rfl
    exact Nat.not_le_of_lt (hn a ha).1 (h.bound a hb)
  · rcases List.mem_append.mp mem with new | old
    · exact (hn id new).2
    · exact Nat.le_trans (h.bound id old) hl

end Allotted

namespace Session

variable {ps ps' : List PreparedId} {cs cs' : List CursorId} {s t : Session} {r : Request}
  {timeout : Option Milliseconds}

/-- The statements `ps` and the cursors `cs` are what the server keeps, and none of them was given back;
what was given back was so once. -/
structure Owns (ps : List PreparedId) (cs : List CursorId) (s : Session) : Prop where
  fresh : s.server.Fresh
  exact : s.Released → s.server.prepared.keys.Perm ps ∧ s.server.cursors.keys.Perm cs
  statements : Allotted PreparedId.number s.server.lastNumber (ps ++ s.disposed)
  results : Allotted CursorId.number s.server.lastNumber (cs ++ s.closedCursors)

theorem Released.before {added : List Exchange} (h : t.Released)
    (exchanges : t.exchanges = s.exchanges ++ added) : s.Released := by
  intro e mem
  apply h
  rw [exchanges]
  exact List.mem_append_left _ mem

theorem Released.before_call (h : ((call r timeout).final s).Released) : s.Released :=
  h.before (exchanges_call r timeout s)

theorem Released.performed (h : ((call r timeout).final s).Released) (hr : r.operation = .close) :
    ∃ a, s.server.Performs r a ((call r timeout).final s).server := by
  have mem : (⟨r, (s.put r timeout).1⟩ : Exchange) ∈ ((call r timeout).final s).exchanges := by
    rw [exchanges_call]
    exact List.mem_append_right _ List.mem_cons_self
  have arrived := h _ mem hr
  have answers := outcome_call r timeout s
  cases ho : (s.put r timeout).1 with
  | ok a => exact ⟨a, call_performs (answers.trans ho)⟩
  | error e =>
    rw [ho] at arrived
    cases arrived

namespace Owns

theorem perm (h : Owns ps cs s) (hp : ps.Perm ps') (hc : cs.Perm cs') : Owns ps' cs' s := by
  refine ⟨h.fresh, fun released => ?_, h.statements.perm (hp.append_right _),
    h.results.perm (hc.append_right _)⟩
  obtain ⟨prepared, cursors⟩ := h.exact released
  exact ⟨prepared.trans hp, cursors.trans hc⟩

theorem gains (h : Owns ps cs s) (hs : Server.Gains ps' cs' s.server t.server) {added : List Exchange}
    (exchanges : t.exchanges = s.exchanges ++ added)
    (keeps : ∀ e ∈ added, e.request.givesBack = false) : Owns (ps' ++ ps) (cs' ++ cs) t := by
  obtain ⟨disposed, closedCursors⟩ := given_append exchanges keeps
  have newStatements : ps'.Nodup := (List.nodup_append.mp (hs.prepared ▸ t.server.prepared.nodup_keys)).1
  have newResults : cs'.Nodup := (List.nodup_append.mp (hs.cursors ▸ t.server.cursors.nodup_keys)).1
  refine ⟨hs.fresh h.fresh, fun arrived => ?_, ?_, ?_⟩
  · obtain ⟨prepared, cursors⟩ := h.exact (arrived.before exchanges)
    rw [hs.prepared, hs.cursors]
    exact ⟨prepared.append_left _, cursors.append_left _⟩
  · rw [disposed, List.append_assoc]
    exact h.statements.grows hs.lastNumber newStatements hs.preparedNumbers
  · rw [closedCursors, List.append_assoc]
    exact h.results.grows hs.lastNumber newResults hs.cursorNumbers

theorem same (h : Owns ps cs s) (server : t.server = s.server)
    (exchanges : t.exchanges = s.exchanges) : Owns ps cs t := by
  have kept : s.server.Leaves t.server := by
    rw [server]
    exact Server.leaves_of_same (Nat.le_refl _) rfl rfl
  exact h.gains kept (exchanges.trans (List.append_nil _).symm) (by simp)

theorem asks (h : Owns ps cs s) (hr : r.givesBack = false)
    (hs : Server.Gains ps' cs' s.server ((Session.call r timeout).final s).server) :
    Owns (ps' ++ ps) (cs' ++ cs) ((Session.call r timeout).final s) :=
  h.gains hs (exchanges_call r timeout s) (List.forall_mem_singleton.mpr hr)

theorem call (h : Owns ps cs s) (hr : r.allots = false) (timeout : Option Milliseconds) :
    Owns ps cs ((call r timeout).final s) :=
  h.asks (Request.givesBack_of_allots hr) ((call_attempts r timeout s).leaves hr)

theorem failed (h : Owns ps cs s) (hr : r.givesBack = false) {e : Error}
    (fails : (Session.call r timeout).outcome s = .error e) :
    Owns ps cs ((Session.call r timeout).final s) := by
  obtain ⟨failures, server⟩ := call_error fails
  have kept : s.server.Leaves ((Session.call r timeout).final s).server := by
    rw [server]
    exact Server.leaves_failures failures
  exact h.asks hr kept

theorem puts (h : Owns ps cs s) (run : ReflTransGen (Puts fun r => r.allots = false) s t) :
    Owns ps cs t := by
  induction run with
  | refl => exact h
  | @tail u v _ put ih =>
    cases put with
    -- only where every request is allowed may the server be arranged
    | arranged free => cases free (.dispose ⟨0⟩)
    | kept server exchanges => exact ih.same server exchanges
    | put r timeout hr server exchanges =>
      have kept : u.server.Leaves v.server := by
        rw [server]
        exact (u.put_attempts r timeout).leaves hr
      exact ih.gains kept exchanges (List.forall_mem_singleton.mpr (Request.givesBack_of_allots hr))

theorem dispose {id : PreparedId} (h : Owns (id :: ps) cs s) (timeout : Option Milliseconds) :
    Owns ps cs ((Session.call (.dispose id) timeout).final s) := by
  have attempt := call_attempts (.dispose id) timeout s
  have exchanges := exchanges_call (.dispose id) timeout s
  have given : ((Session.call (.dispose id) timeout).final s).disposed = s.disposed ++ [id] ∧
      ((Session.call (.dispose id) timeout).final s).closedCursors = s.closedCursors := by
    simp [disposed, closedCursors, requests_append exchanges, Request.disposed?, Request.closedCursor?]
  refine ⟨attempt.fresh_dispose h.fresh, fun released => ?_, ?_, ?_⟩
  · obtain ⟨prepared, cursors⟩ := h.exact released.before_call
    obtain ⟨a, performs⟩ := released.performed rfl
    have erased := prepared.erase id
    rw [List.erase_cons_head, ← Keyed.keys_erase] at erased
    rw [performs.disposed]
    exact ⟨erased, cursors⟩
  · rw [given.1, ← List.append_assoc]
    exact (h.statements.grows attempt.lastNumber_le .nil (by simp)).perm
      (List.perm_append_singleton id _).symm
  · rw [given.2]
    exact h.results.grows attempt.lastNumber_le .nil (by simp)

theorem closeCursor {cursor : CursorId} (h : Owns ps (cursor :: cs) s)
    (timeout : Option Milliseconds) :
    Owns ps cs ((Session.call (.closeCursor cursor) timeout).final s) := by
  have attempt := call_attempts (.closeCursor cursor) timeout s
  have exchanges := exchanges_call (.closeCursor cursor) timeout s
  have given : ((Session.call (.closeCursor cursor) timeout).final s).disposed = s.disposed ∧
      ((Session.call (.closeCursor cursor) timeout).final s).closedCursors =
        s.closedCursors ++ [cursor] := by
    simp [disposed, closedCursors, requests_append exchanges, Request.disposed?, Request.closedCursor?]
  refine ⟨attempt.fresh_closeCursor h.fresh, fun released => ?_, ?_, ?_⟩
  · obtain ⟨prepared, cursors⟩ := h.exact released.before_call
    obtain ⟨a, performs⟩ := released.performed rfl
    have erased := cursors.erase cursor
    rw [List.erase_cons_head, ← Keyed.keys_erase] at erased
    rw [performs.cursorClosed]
    exact ⟨prepared, erased⟩
  · rw [given.1]
    exact h.statements.grows attempt.lastNumber_le .nil (by simp)
  · rw [given.2, ← List.append_assoc]
    exact (h.results.grows attempt.lastNumber_le .nil (by simp)).perm
      (List.perm_append_singleton cursor _).symm

end Owns

section Sparing

variable {α β : Type}

abbrev Sparing (x : Action Session α) : Prop :=
  ∀ ps cs, Ensures (Owns ps cs) x (fun _ => Owns ps cs) (Owns ps cs)

theorem sparing_of_final {x : Action Session α}
    (h : ∀ ps cs s, Owns ps cs s → Owns ps cs (x.final s)) : Sparing x := by
  intro ps cs s owns
  have kept := h ps cs s owns
  cases x.outcome s <;> exact kept

theorem controls_allots : Request.Controls fun r => r.allots = false :=
  ⟨fun _ => rfl, fun _ _ => rfl, fun _ => rfl⟩

theorem sparing_of_moving {x : Action Session α}
    (hx : Session.Moving (fun r => r.allots = false) x) : Sparing x :=
  sparing_of_final fun _ _ s owns => owns.puts (puts_of_moves (hx s))

theorem sparing_execute (limits : StatementLimits) (tx : TransactionId) (prepared : Prepared)
    (parameters : List Parameter) : Sparing (execute limits tx prepared parameters) :=
  sparing_of_final fun _ _ _ owns => owns.call rfl _

theorem sparing_mapM {ι : Type} {f : ι → Action Session α} (hf : ∀ i, Sparing (f i)) (l : List ι) :
    Sparing (l.mapM f) :=
  fun ps cs => @ensures_mapM _ _ _ _ Unit f (fun _ => Owns ps cs) (fun _ => []) l
    (fun i _ _ => hf i ps cs) []

theorem sparing_inTransaction {work : TransactionId → Action Session α}
    (hw : ∀ tx, Sparing (work tx)) : Sparing (inTransaction work) := by
  intro ps cs
  have begins := sparing_of_moving (moving_getOrBegin controls_allots.begin)
  refine (begins ps cs).bind fun tx => (hw tx ps cs).attempt.bind fun outcome => ?_
  cases outcome with
  | ok a =>
    have finishes := sparing_of_moving (moving_finish controls_allots tx)
    exact (finishes ps cs).bind fun _ => ensures_pure fun _ owns => owns
  | error e =>
    have aborts := sparing_of_moving (moving_abortAfter controls_allots tx e)
    exact (aborts ps cs).bind fun _ => ensures_throw fun _ owns => owns

end Sparing

theorem gaining_prepare (limits : StatementLimits) (sql : String) (placeholders : List Placeholder) :
    Ensures (Owns ps cs) (prepare limits sql placeholders) (fun p => Owns (p.id :: ps) cs)
      (Owns ps cs) := by
  intro s owns
  cases h : (prepare limits sql placeholders).outcome s with
  | ok p => exact owns.asks rfl (owns.fresh.prepare (call_performs h))
  | error e => exact owns.failed rfl h

theorem losing_dispose (prepared : Prepared) {E : Session → Prop} :
    Ensures (Owns (prepared.id :: ps) cs) (dispose prepared) (fun _ => Owns ps cs) E := by
  intro s owns
  rw [dispose, outcome_bestEffort, final_bestEffort]
  exact owns.dispose none

end Session

namespace Cursor

def results (c : Cursor) : List CursorId :=
  c.resources.toList.map CursorResources.result

def adHoc (c : Cursor) : List PreparedId :=
  (c.resources.bind CursorResources.prepared).toList.map Prepared.id

end Cursor

namespace Session

variable {ps : List PreparedId} {cs : List CursorId}

theorem gaining_query (limits : StatementLimits) (prepared : Prepared) (owned : Bool)
    (parameters : List Parameter) :
    Ensures (Owns ((if owned then some prepared else none).toList.map Prepared.id ++ ps) cs)
      (query limits prepared owned parameters)
      (fun c => Owns (c.adHoc ++ ps) (c.results ++ cs)) (Owns ps cs) := by
  have gives {x : Action Session Cursor} {Q : Cursor → Session → Prop}
      (hx : Ensures (Owns ps cs) x Q (Owns ps cs)) :
      Ensures (Owns ((if owned then some prepared else none).toList.map Prepared.id ++ ps) cs)
        (if owned then dispose prepared >>= fun _ => x else x) Q (Owns ps cs) := by
    cases owned with
    | true => exact (losing_dispose prepared).bind fun _ => hx
    | false => exact hx
  have begins := sparing_of_moving (moving_getOrBegin controls_allots.begin)
  refine (begins _ cs).attempt.bind fun begun => ?_
  cases begun with
  | error e => exact gives (ensures_throw fun _ owns => owns)
  | ok tx =>
    let held := (if owned then some prepared else none).toList.map Prepared.id ++ ps
    let asks := call (.query tx prepared.id parameters) limits.timeout
    have queries : Ensures (Owns held cs) asks (fun cursor => Owns held (cursor :: cs))
        (Owns held cs) := by
      intro s owns
      cases h : asks.outcome s with
      | ok cursor => exact owns.asks rfl (owns.fresh.query (call_performs h))
      | error e => exact owns.failed rfl h
    refine queries.attempt.bind fun opened => ?_
    cases opened with
    | ok result => exact ensures_get.bind fun _ => ensures_pure fun _ owns => owns.1
    | error e =>
      have aborts := sparing_of_moving (moving_abortAfter controls_allots tx e)
      exact gives ((aborts ps cs).bind fun _ => ensures_throw fun _ owns => owns)

end Session

end SqlClient
