import SqlClient.Proofs.ClosedConnections
import SqlClient.Proofs.OwnedObjects

namespace SqlClient

open SqlClient.Action Relation Session

theorem Server.Attempts.contains {s t : Server} {r : Request} (h : s.Attempts r t)
    (hb : r.isBegin = false) (hc : ∀ tx, r ≠ .closeTransaction tx) (tx : TransactionId) :
    t.transactions.contains tx = s.transactions.contains tx := by
  have put {tx' : TransactionId} {writes writes' : List Write}
      (known : s.transactions.get? tx' = some writes) :
      (s.transactions.put tx' writes').contains tx = s.transactions.contains tx := by
    rw [Keyed.contains_put]
    by_cases htx : tx = tx'
    · simp [htx, Keyed.contains, known]
    · simp [htx]
  rcases h with ⟨failures, rfl⟩ | ⟨a, h⟩
  · rfl
  · cases h with
    | begin => cases hb
    | closeTransaction tx' => exact absurd rfl (hc tx')
    | complete known => exact put known
    | execute _ _ known => exact put known
    | _ => rfl

theorem Server.Performs.contains_begin {s t : Server} {options : TransactionOptions}
    {tx : TransactionId} (h : s.Performs (.begin options) tx t) (tx' : TransactionId) :
    t.transactions.contains tx' = (decide (tx' = tx) || s.transactions.contains tx') := by
  cases h
  exact Keyed.contains_put _ _ _ _

theorem Server.Performs.contains_closeTransaction {s t : Server} {tx : TransactionId} {u : Unit}
    (h : s.Performs (.closeTransaction tx) u t) (tx' : TransactionId) :
    t.transactions.contains tx' = (!decide (tx' = tx) && s.transactions.contains tx') := by
  cases h
  exact Keyed.contains_erase _ _ _

namespace Session

variable {kind : Request → Prop} {s t : Session} {tx : TransactionId}

def Tallied (s : Session) : Prop :=
  s.Released → ∀ tx, s.server.transactions.contains tx = !s.isClosed tx

theorem Tallied.opened (config : ConnectionConfig) : (Client.opened config).Tallied :=
  fun _ _ => rfl

theorem Tallied.same (h : s.Tallied) (released : t.Released → s.Released)
    (transactions : ∀ tx, t.server.transactions.contains tx = s.server.transactions.contains tx)
    (handles : t.handles = s.handles) : t.Tallied := by
  intro arrived tx
  rw [transactions, h (released arrived), isClosed_congr (congrArg (Keyed.get? · tx) handles)]

theorem Tallied.call (h : s.Tallied) {r : Request} (timeout : Option Milliseconds)
    (hb : r.isBegin = false) (hc : ∀ tx, r ≠ .closeTransaction tx) :
    ((call r timeout).final s).Tallied := by
  refine h.same Released.before_call ((call_attempts r timeout s).contains hb hc) ?_
  rw [final_call]

theorem Tallied.asks (h : s.Tallied)
    (run : ReflTransGen (Asks fun r => r.isAside ∨ ∃ tx, r.runsIn tx) s t) : t.Tallied := by
  induction run with
  | refl => exact h
  | tail _ ask ih =>
    cases ask with
    | @ask r timeout _ hr =>
      apply ih.call timeout
      · cases r <;> first | rfl | simp [Request.isAside, Request.runsIn] at hr
      · rintro tx rfl
        simp [Request.isAside, Request.runsIn] at hr

theorem Tallied.works (h : s.Tallied) (works : Works kind tx s t) : t.Tallied := by
  refine h.asks (ReflTransGen.mono ?_ _ _ works)
  intro a b ask
  cases ask with
  | ask timeout _ hr => exact .ask timeout a (hr.2.imp_right fun runs => ⟨tx, runs⟩)

theorem Tallied.complete (h : s.Tallied) (how : Completion) (tx : TransactionId) :
    ((Session.complete how tx).final s).Tallied := by
  cases isOpen : s.isClosed tx with
  | true =>
    rw [final_complete_closed how tx isOpen]
    exact h
  | false =>
    intro released tx'
    have handles := handles_complete_open how tx isOpen
    rw [isClosed_congr (congrArg (Keyed.get? · tx') handles)]
    rw [final_complete_open how tx isOpen] at released ⊢
    -- the completion itself may have failed; it is the release that counts, and it has arrived
    obtain ⟨a, performs⟩ := released.performed rfl
    have before : s.Released := released.before_call.before_call
    have completes := call_attempts (.complete how tx) none (s.closeHandle tx)
    have kept := completes.contains rfl (fun _ h => by cases h) tx'
    rw [performs.contains_closeTransaction tx', kept]
    have tallied : (s.closeHandle tx).server.transactions.contains tx' = !s.isClosed tx' :=
      h before tx'
    rw [tallied]
    by_cases htx : tx' = tx
    · simp [htx, isClosed_closeHandle_self]
    · simp [htx, isClosed_closeHandle_of_ne htx]

theorem Tallied.begin (h : s.Tallied) : (Session.begin.final s).Tallied := by
  have asking : s.asking.Tallied := h
  rw [final_begin]
  have attempted := @Released.before_call s.asking (.begin s.settings.options.1) none
  cases begins : (Session.call (.begin s.settings.options.1) none).outcome s.asking with
  | error e =>
    obtain ⟨failures, server⟩ := call_error begins
    refine asking.same attempted (fun tx => ?_) ?_
    · rw [server]
    · rw [final_call]
  | ok tx =>
    intro released tx'
    have before := asking (attempted released) tx'
    dsimp only
    rw [(call_performs begins).contains_begin tx', before]
    by_cases htx : tx' = tx
    · subst htx
      simp [isClosed]
    · simp only [htx, isClosed, Keyed.get?_put_of_ne _ _ htx, decide_false, Bool.false_or]
      rfl

theorem Tallied.move (h : s.Tallied) (move : Moves kind s t) : t.Tallied := by
  cases move with
  | arrange _ a =>
    refine h.same id (fun tx => ?_) rfl
    obtain ⟨-, transactions, -⟩ := s.server.frame_arrange a
    rw [transactions]
  | setUp | forget => exact h.same id (fun _ => rfl) rfl
  | aside timeout _ _ concern => exact h.asks (.single (.ask timeout s (.inl concern)))
  | begin => exact h.begin
  | query timeout => exact h.asks (.single (.ask timeout s (.inr ⟨_, rfl⟩)))
  | work _ works => exact h.works works
  | workAndEnd how _ _ works => exact (h.works works).complete how _
  | complete how tx => exact h.complete how tx
  | completeTaken how =>
    have taken : Tallied { s with slot := none } := h
    rw [final_completeTaken]
    split
    · exact taken.complete how _
    · exact taken

theorem Tallied.keys (h : s.Tallied) (single : s.Single) (released : s.Released) :
    s.server.transactions.keys.Perm s.live?.toList := by
  have nodup : s.live?.toList.Nodup := by cases s.live? <;> simp
  refine (List.perm_ext_iff_of_nodup s.server.transactions.nodup nodup).mpr fun tx => ?_
  have known : tx ∈ s.server.transactions.keys ↔ s.isClosed tx = false := by
    rw [Keyed.mem_keys_iff, h released tx, Bool.not_eq_true']
  have live : tx ∈ s.live?.toList ↔ s.isClosed tx = false := by
    rw [Option.mem_toList, live?_eq_some_iff]
    exact ⟨fun h => h.2, fun isOpen => ⟨single tx isOpen, isOpen⟩⟩
  exact known.trans live.symm

variable {p : Permit} {ps : List PreparedId} {cs : List CursorId}

theorem Steers.puts (h : Steers p s t) : ReflTransGen (Puts fun r => r.allots = false) s t := by
  cases h with
  | switch | configure | buildOptions | shut | forget => exact .single (.kept rfl rfl)
  | begin => exact .single (puts_begin (fun _ => rfl) s)
  | complete => exact puts_complete controls_allots _ _ s
  | completeTaken => exact puts_of_moves (moving_completeTaken controls_allots _ s)
  | finish tx => exact puts_of_moves (moving_finish controls_allots tx s)

end Session

theorem Opening.leaves {σ α : Type} {kept : List PreparedId → List CursorId → σ → Prop} {x : Action σ α}
    {opens : α → Option Cursor} (hx : Opening kept x opens) {ps : List PreparedId} {cs : List CursorId}
    {s : σ} (h : kept ps cs s) :
    kept ((leaves ((x.outcome s).map opens)).flatMap Cursor.adHoc ++ ps)
      ((leaves ((x.outcome s).map opens)).flatMap Cursor.results ++ cs) (x.final s) := by
  have ends := hx ps cs s h
  cases ho : x.outcome s with
  | error e =>
    rw [ho] at ends
    exact ends
  | ok a =>
    rw [ho] at ends
    cases hc : opens a with
    | none => simpa [SqlClient.leaves, Except.map, hc] using ends
    | some c => simpa [SqlClient.leaves, Except.map, hc] using ends

structure Holding.Kept (h : Holding) : Prop where
  unused : ∀ q ∈ h.prepared, q.closed = true → q.remote = none
  owns : Owns (h.prepared.flatMap PreparedStatement.held ++ h.cursors.flatMap Cursor.adHoc)
    (h.cursors.flatMap Cursor.results) h.session

theorem Cursor.owns_nothing {c : Cursor} (closed : c.isClosed = true) :
    c.adHoc = [] ∧ c.results = [] := by
  have released : c.resources = none := Option.isNone_iff_eq_none.mp closed
  rw [adHoc, results, released]
  exact ⟨rfl, rfl⟩

theorem PreparedStatement.held_of_none {q : PreparedStatement} (h : q.remote = none) :
    q.held = [] := by
  rw [held, h]
  rfl

theorem Does.kept {p : Permit} {h h' : Holding} (does : Does p h h') (hk : h.Kept) : h'.Kept := by
  obtain ⟨unused, owns⟩ := hk
  cases does with
  | rearrange hc hp =>
    refine ⟨fun q mem => unused q (hp.mem_iff.mpr mem), owns.perm ?_ (hc.flatMap_right _)⟩
    exact (hp.flatMap_right _).append (hc.flatMap_right _)
  | steer steers => exact ⟨unused, owns.puts steers.puts⟩
  | execute hx _ cs ps =>
    refine ⟨unused, (hx.opening.leaves owns).perm ?_ ?_⟩
    · rw [List.flatMap_append]
      exact List.perm_append_comm_assoc _ _ _
    · rw [List.flatMap_append]
  | @executePrepared _ _ _ hx q s _ cs ps =>
    have kept : PreparedStatement.Kept (ps.flatMap PreparedStatement.held ++ cs.flatMap Cursor.adHoc)
        (cs.flatMap Cursor.results) (q, s) := by
      refine ⟨unused q List.mem_cons_self, owns.perm ?_ (.refl _)⟩
      rw [List.flatMap_cons, List.append_assoc]
    obtain ⟨unusedNow, ownsNow⟩ := hx.opening.leaves kept
    refine ⟨List.forall_mem_cons.mpr ⟨unusedNow, (List.forall_mem_cons.mp unused).2⟩,
      ownsNow.perm ?_ ?_⟩
    · rw [List.flatMap_cons, List.flatMap_append, List.append_assoc]
      exact (List.perm_append_comm_assoc _ _ _).append_left _
    · rw [List.flatMap_append]
  | useCursor hx c cs ps s =>
    have kept : Cursor.Kept (ps.flatMap PreparedStatement.held ++ cs.flatMap Cursor.adHoc)
        (cs.flatMap Cursor.results) (c, s) := owns.perm (List.perm_append_comm_assoc _ _ _) (.refl _)
    exact ⟨unused, (hx.kept kept).perm (List.perm_append_comm_assoc _ _ _) (.refl _)⟩
  | discardCursor closed =>
    obtain ⟨adHoc, results⟩ := Cursor.owns_nothing closed
    rw [List.flatMap_cons, List.flatMap_cons, adHoc, results] at owns
    exact ⟨unused, owns⟩
  | prepare sql =>
    exact ⟨List.forall_mem_cons.mpr ⟨(fun closed => nomatch closed), unused⟩, owns⟩
  | @changePrepared q q' remote closed =>
    obtain ⟨unusedFirst, unusedRest⟩ := List.forall_mem_cons.mp unused
    refine ⟨List.forall_mem_cons.mpr ⟨?_, unusedRest⟩, ?_⟩
    · rw [remote, closed]
      exact unusedFirst
    · have held : q'.held = q.held := by rw [PreparedStatement.held, remote]; rfl
      rw [List.flatMap_cons, held]
      exact owns
  | closePrepared q cs ps s =>
    have kept : PreparedStatement.Kept (ps.flatMap PreparedStatement.held ++ cs.flatMap Cursor.adHoc)
        (cs.flatMap Cursor.results) (q, s) := by
      refine ⟨unused q List.mem_cons_self, owns.perm ?_ (.refl _)⟩
      rw [List.flatMap_cons, List.append_assoc]
    obtain ⟨unusedNow, ownsNow⟩ := PreparedStatement.kept_close.of_kept kept
    refine ⟨List.forall_mem_cons.mpr ⟨unusedNow, (List.forall_mem_cons.mp unused).2⟩,
      ownsNow.perm ?_ (.refl _)⟩
    rw [List.flatMap_cons, List.append_assoc]
  | discardPrepared closed =>
    obtain ⟨unusedFirst, unusedRest⟩ := List.forall_mem_cons.mp unused
    rw [List.flatMap_cons, PreparedStatement.held_of_none (unusedFirst closed)] at owns
    exact ⟨unusedRest, owns⟩

theorem flatMap_filter {α β : Type} {l : List α} {keep : α → Bool} {f : α → List β}
    (h : ∀ a ∈ l, keep a = false → f a = []) : (l.filter keep).flatMap f = l.flatMap f := by
  induction l with
  | nil => rfl
  | cons a l ih =>
    obtain ⟨first, rest⟩ := List.forall_mem_cons.mp h
    rw [List.flatMap_cons, ← ih rest]
    cases hk : keep a with
    | true => rw [List.filter_cons_of_pos hk, List.flatMap_cons]
    | false =>
      rw [List.filter_cons_of_neg (by simp [hk]), first hk]
      rfl

namespace Client

def openCursors (k : Client) : List Cursor :=
  k.cursors.values.filter fun c => !c.isClosed

def openPrepared (k : Client) : List PreparedStatement :=
  k.prepared.values.filter fun q => !q.closed

structure Owned (k : Client) : Prop where
  transactions : k.session.server.transactions.keys.Perm k.session.live?.toList
  cursors : k.session.server.cursors.keys.Perm (k.openCursors.flatMap Cursor.results)
  prepared : k.session.server.prepared.keys.Perm
    (k.openPrepared.flatMap PreparedStatement.held ++ k.openCursors.flatMap Cursor.adHoc)

variable {k : Client}

theorem Reached.tallied (h : k.Reached) : k.session.Tallied :=
  h.invariant Tallied.opened fun _ _ move hs => hs.move move

theorem Reached.kept (h : k.Reached) : k.holding.Kept := by
  refine h.induct (I := fun k => k.holding.Kept) (fun config => ?_) fun k c direct kept => ?_
  · refine ⟨?_, ⟨?_, ?_⟩, fun _ => ⟨.refl _, .refl _⟩, ⟨.nil, ?_⟩, ⟨.nil, ?_⟩⟩ <;> rintro _ ⟨⟩
  · cases c with
    | direct r => cases direct
    | arrange a =>
      have owns := kept.owns.gains (t := (k.step (.arrange a)).2.session) (Server.leaves_arrange a)
        (List.append_nil _).symm (by simp)
      exact ⟨kept.unused, owns⟩
    | call c =>
      exact k.keeps_call c (fun _ _ does ih => does.kept ih) kept

theorem Reached.owned (h : k.Reached) (released : k.session.Released) : k.Owned := by
  obtain ⟨prepared, cursors⟩ := h.kept.owns.exact released
  have closed (c : Cursor) (shut : (!c.isClosed) = false) : c.adHoc = [] ∧ c.results = [] :=
    Cursor.owns_nothing (by simpa using shut)
  have unused (q : PreparedStatement) (mem : q ∈ k.prepared.values) (shut : (!q.closed) = false) :
      q.held = [] :=
    PreparedStatement.held_of_none (h.kept.unused q mem (by simpa using shut))
  refine ⟨h.tallied.keys h.single released, ?_, ?_⟩
  · rw [openCursors, flatMap_filter fun c _ shut => (closed c shut).2]
    exact cursors
  · rw [openPrepared, openCursors, flatMap_filter unused,
      flatMap_filter fun c _ shut => (closed c shut).1]
    exact prepared

/-- The server keeps what the program holds; and where the connection has been closed, and then every
prepared statement and every cursor, it keeps nothing. -/
theorem Reached.resources_owned (h : k.Reached) :
    (k.session.Released → k.Owned) ∧
    ∀ (c : ConnectionCall) (cs : List Command), k.session.closed = false → c = .close ∨ c = .drop →
      (∀ d ∈ cs, d.isDirect = false ∧ d.asksCoordinator = false) →
      ∀ k', k' = k.after (.call (.connection c) :: cs) → k'.session.Released →
        k'.openPrepared = [] → k'.openCursors = [] →
          k'.session.server.transactions.keys = [] ∧ k'.session.server.prepared.keys = [] ∧
            k'.session.server.cursors.keys = [] := by
  refine ⟨h.owned, ?_⟩
  rintro c cs isOpen closes hcs k' rfl released noPrepared noCursors
  have direct : ∀ d ∈ Command.call (.connection c) :: cs, d.isDirect = false :=
    List.forall_mem_cons.mpr ⟨rfl, fun d mem => (hcs d mem).1⟩
  obtain ⟨transactions, cursors, prepared⟩ := (h.after direct).owned released
  -- no transaction is open from here on, since only the coordinator could begin one
  have woundUp := woundUp_closing h.single isOpen closes
  have noLive : (k.after (.call (.connection c) :: cs)).session.live? = none := by
    by_contra live
    obtain ⟨tx, live⟩ := Option.ne_none_iff_exists'.mp live
    have ended := (woundUp_after woundUp fun d mem => (hcs d mem).2).ended tx
    cases ended.symm.trans (live?_eq_some_iff.mp live).2
  rw [noLive] at transactions
  rw [noCursors] at cursors
  rw [noPrepared, noCursors] at prepared
  exact ⟨transactions.eq_nil, prepared.eq_nil, cursors.eq_nil⟩

def holdingAll : List Command :=
  [.arrange (.createTable "t" []), .call (.connection (.statement 0)),
    .call (.statement 0 (.query 0 "select * from t")), .call (.connection (.prepare 0 "delete from t")),
    .call (.prepared 0 .update)]

def lettingGo : List Command :=
  [.call (.prepared 0 .drop), .call (.cursor 0 .close)]

theorem resources_owned_holdingAll :
    ((start (.plain false)).after holdingAll).session.Released ∧
      ((start (.plain false)).after holdingAll).Owned ∧
      ((start (.plain false)).after holdingAll).session.server.prepared.size = 2 ∧
      ∀ k', k' = ((start (.plain false)).after holdingAll).after
          (.call (.connection .close) :: lettingGo) →
        k'.session.server.transactions.keys = [] ∧ k'.session.server.prepared.keys = [] ∧
          k'.session.server.cursors.keys = [] := by
  have reached := @reached_of_start (.plain false) holdingAll (by decide)
  obtain ⟨owned, emptied⟩ := reached.resources_owned
  have released : ((start (.plain false)).after holdingAll).session.Released := by decide
  refine ⟨released, owned released, by decide, ?_⟩
  rintro k' rfl
  exact emptied .close lettingGo (by decide) (.inl rfl) (by decide) _ rfl (by decide) (by decide)
    (by decide)

end Client

end SqlClient
