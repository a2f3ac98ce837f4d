import SqlClient.Proofs.CursorEnds

namespace SqlClient

open SqlClient.Action Relation Session

theorem Server.Performs.fetched {s t : Server} {id : CursorId} {row : Option Row}
    (h : s.Performs (.fetch id) row t) : ∃ result, s.cursors.get? id = some result ∧
      row = result.rows.head? ∧
        t.cursors = s.cursors.update id fun r => { r with rows := r.rows.tail } := by
  cases h with
  | fetch found => exact ⟨_, found, rfl, rfl⟩

namespace Cursor

variable {c c' : Cursor} {s t : Session} {rows : List Row} {σ σ' : Cursor × Session}

def limit (c : Cursor) (rows : List Row) : Nat :=
  c.limits.maxRows.elim rows.length (min rows.length)

theorem limit_le (c : Cursor) (rows : List Row) : c.limit rows ≤ rows.length := by
  unfold limit
  cases c.limits.maxRows with
  | none => exact Nat.le_refl _
  | some max => exact Nat.min_le_left _ _

theorem limit_le_of_capped (rows : List Row) (reached : c.isCapped = true) :
    c.limit rows ≤ c.rowNumber := by
  unfold limit
  cases cap : c.limits.maxRows with
  | none =>
    rw [isCapped, cap] at reached
    cases reached
  | some max =>
    rw [isCapped, cap] at reached
    have max_le : max ≤ c.rowNumber := of_decide_eq_true reached
    exact Nat.le_trans (Nat.min_le_right _ _) max_le

theorem lt_limit (below : c.isCapped = false) (more : c.rowNumber < rows.length) :
    c.rowNumber < c.limit rows := by
  unfold limit
  cases cap : c.limits.maxRows with
  | none => exact more
  | some max =>
    rw [isCapped, cap] at below
    have lt_max : ¬max ≤ c.rowNumber := of_decide_eq_false below
    exact Nat.lt_min.mpr ⟨more, Nat.lt_of_not_le lt_max⟩

/-- A cursor on its way through `rows`. As long as it is open the server keeps those to come. -/
structure Along (rows : List Row) (σ : Cursor × Session) : Prop where
  within : σ.1.rowNumber ≤ σ.1.limit rows
  ended : σ.1.afterLast = true → σ.1.rowNumber = σ.1.limit rows
  ahead : ∀ r, σ.1.resources = some r → ∃ columns,
    σ.2.server.cursors.get? r.result = some ⟨columns, rows.drop σ.1.rowNumber⟩

structure SameRow (c c' : Cursor) : Prop where
  rowNumber : c'.rowNumber = c.rowNumber
  limits : c'.limits = c.limits

theorem SameRow.limit (h : SameRow c c') (rows : List Row) : c'.limit rows = c.limit rows := by
  rw [Cursor.limit, Cursor.limit, h.limits]

theorem SamePlace.sameRow (h : SamePlace c c') : SameRow c c' :=
  ⟨h.rowNumber, h.limits⟩

theorem Along.stays (h : Along rows σ) (stays : Stays σ σ') : Along rows σ' := by
  obtain ⟨place, -, cursors⟩ := stays
  have limit := place.sameRow.limit rows
  refine ⟨?_, fun gone => ?_, fun r held => ?_⟩
  · rw [limit, place.rowNumber]
    exact h.within
  · rw [limit, place.rowNumber]
    exact h.ended (place.afterLast.symm.trans gone)
  · rw [cursors, place.rowNumber]
    exact h.ahead r (place.resources.symm.trans held)

theorem sameRow_close (c : Cursor) (s : Session) :
    SameRow c (close.final (c, s)).1 ∧ (close.final (c, s)).1.afterLast = c.afterLast := by
  rw [final_close]
  cases c.resources <;> exact ⟨⟨rfl, rfl⟩, rfl⟩

theorem Along.close (h : Along rows (c, s)) : Along rows (close.final (c, s)) := by
  obtain ⟨same, afterLast⟩ := sameRow_close c s
  have closed := c.isClosed_close s
  refine ⟨?_, fun gone => ?_, fun r held => ?_⟩
  · rw [same.limit, same.rowNumber]
    exact h.within
  · rw [same.limit, same.rowNumber]
    exact h.ended (afterLast.symm.trans gone)
  · rw [isClosed, held] at closed
    cases closed

theorem Along.exhaust (h : Along rows (c, s)) (full : c.limit rows ≤ c.rowNumber) :
    Along rows (exhaust.final (c, s)) := by
  have last : Along rows ({ c with afterLast := true, row := none }, s) :=
    ⟨h.within, fun _ => Nat.le_antisymm h.within full, h.ahead⟩
  rw [final_exhaust]
  split
  · exact last.close
  · exact last

theorem sameRow_exhaust (c : Cursor) (s : Session) : SameRow c (exhaust.final (c, s)).1 := by
  rw [final_exhaust]
  split
  · obtain ⟨rowNumber, limits⟩ := (sameRow_close { c with afterLast := true, row := none } s).1
    exact ⟨rowNumber, limits⟩
  · exact ⟨rfl, rfl⟩

variable {r : CursorResources} {timeout : Option Milliseconds}

theorem Along.fetch_error (h : Along rows (c, t)) {e : Error}
    (fails : (Session.call (.fetch r.result) timeout).outcome t = .error e) :
    Along rows (c, (Session.call (.fetch r.result) timeout).final t) := by
  obtain ⟨failures, server⟩ := call_error fails
  refine ⟨h.within, h.ended, fun r held => ?_⟩
  rw [server]
  exact h.ahead r held

theorem Along.fetch_ok (h : Along rows (c, t)) (held : c.resources = some r) {row : Option Row}
    (fetches : (Session.call (.fetch r.result) timeout).outcome t = .ok row) :
    row = rows[c.rowNumber]? ∧ ∃ columns,
      ((Session.call (.fetch r.result) timeout).final t).server.cursors.get? r.result =
        some ⟨columns, rows.drop (c.rowNumber + 1)⟩ := by
  obtain ⟨columns, ahead⟩ := h.ahead r held
  obtain ⟨result, found, head, cursors⟩ := (call_performs fetches).fetched
  cases found.symm.trans ahead
  constructor
  · rw [head, List.head?_drop]
  · refine ⟨columns, ?_⟩
    rw [cursors, Keyed.get?_update_self, found, ← List.tail_drop]
    rfl

structure Steps (rows : List Row) (c : Cursor) (delivers : Prop) (c' : Cursor) : Prop where
  limits : c'.limits = c.limits
  past : c.afterLast = true → c'.afterLast = true
  delivered : delivers → c'.rowNumber = c.rowNumber + 1 ∧
    ∃ row, rows[c.rowNumber]? = some row ∧ c'.row = some row
  waits : ¬delivers → c'.rowNumber = c.rowNumber

theorem SameRow.steps (same : SameRow c c') (past : c.afterLast = true → c'.afterLast = true)
    {delivers : Prop} (not : ¬delivers) : Steps rows c delivers c' :=
  ⟨same.limits, past, fun h => absurd h not, fun _ => same.rowNumber⟩

theorem steps_exhaust (same : SameRow c c') (t : Session) :
    Steps rows c ((exhaust.outcome (c', t)).map (fun _ => false) = .ok true)
      (exhaust.final (c', t)).1 := by
  obtain ⟨rowNumber, limits⟩ := sameRow_exhaust c' t
  refine SameRow.steps ⟨rowNumber.trans same.rowNumber, limits.trans same.limits⟩ ?_ fun delivers => ?_
  · intro _
    exact afterLast_exhaust c' t
  · cases released : exhaust.outcome (c', t) <;> rw [released] at delivers <;> cases delivers

theorem Along.advances {o : Except Error Bool} (h : Along rows (c, s)) (advances : Advances c s o σ) :
    Along rows σ ∧ Steps rows c (o = .ok true) σ.1 := by
  cases advances with
  | past | refused => exact ⟨h, SameRow.steps ⟨rfl, rfl⟩ id nofun⟩
  | @undescribed r =>
    have same := (call_attempts (.describe r.result) c.limits.timeout s).cursors_of_looks rfl
    exact ⟨h.stays ⟨.refl c, by rw [Session.final_call], same⟩, SameRow.steps ⟨rfl, rfl⟩ id nofun⟩
  | unfetched _ _ described _ fails =>
    have place := described.stays.cursor
    exact ⟨(h.stays described.stays).fetch_error fails,
      place.sameRow.steps (fun past => place.afterLast.trans past) nofun⟩
  | @delivered r c' t row notOver held described below fetches =>
    have place : SamePlace c c' := described.stays.cursor
    have same := place.rowNumber
    have limit := place.sameRow.limit rows
    obtain ⟨found, columns, ahead⟩ := (h.stays described.stays).fetch_ok
      (place.resources.trans held) fetches
    rw [same] at found
    have room : c.rowNumber < c.limit rows :=
      lt_limit below (List.getElem?_eq_some_iff.mp found.symm).1
    constructor
    · refine ⟨?_, fun gone => ?_, fun r' held' => ?_⟩
      · change c'.rowNumber + 1 ≤ c'.limit rows
        omega
      · have gone : c'.afterLast = true := gone
        cases (place.afterLast.symm.trans gone).symm.trans notOver
      · have held' : c'.resources = some r' := held'
        cases (held'.symm.trans place.resources).trans held
        exact ⟨columns, ahead⟩
    · exact ⟨place.limits, fun past => place.afterLast.trans past,
        fun _ => ⟨congrArg (· + 1) same, row, found.symm, rfl⟩, fun other => absurd rfl other⟩
  | @capped r c' t _ _ described reached =>
    have place : SamePlace c c' := described.stays.cursor
    have full := limit_le_of_capped rows (place.isCapped.trans reached)
    exact ⟨(h.stays described.stays).exhaust full, steps_exhaust place.sameRow _⟩
  | @exhausted r c' t _ held described _ fetches =>
    have place : SamePlace c c' := described.stays.cursor
    have along := h.stays described.stays
    obtain ⟨nothing, columns, ahead⟩ := along.fetch_ok (place.resources.trans held) fetches
    have full : rows.length ≤ c'.rowNumber := List.getElem?_eq_none_iff.mp nothing.symm
    have after : Along rows (c', (Session.call (.fetch r.result) c.limits.timeout).final t) := by
      refine ⟨along.within, along.ended, fun r' held' => ?_⟩
      cases (held'.symm.trans place.resources).trans held
      refine ⟨columns, ?_⟩
      rw [ahead, List.drop_of_length_le full, List.drop_of_length_le (Nat.le_succ_of_le full)]
    exact ⟨after.exhaust (Nat.le_trans (c'.limit_le rows) full), steps_exhaust place.sameRow _⟩

def Answered (s t : Session) : Prop :=
  ∃ es, t.exchanges = s.exchanges ++ es ∧ ∀ x ∈ es, x.request.reads = true → x.failure? = none

theorem Answered.refl (s : Session) : Answered s s :=
  ⟨[], (List.append_nil _).symm, fun _ mem => nomatch mem⟩

theorem Answered.trans {u : Session} (h : Answered s t) (h' : Answered t u) : Answered s u := by
  obtain ⟨es, exchanges, none⟩ := h
  obtain ⟨es', exchanges', none'⟩ := h'
  refine ⟨es ++ es', by rw [exchanges', exchanges, List.append_assoc], fun x mem => ?_⟩
  rcases List.mem_append.mp mem with first | second
  · exact none x first
  · exact none' x second

theorem answered_call {q : Request} {a : q.Answer} (ok : (Session.call q timeout).outcome s = .ok a) :
    Answered s ((Session.call q timeout).final s) := by
  refine ⟨_, asked_call q timeout s, fun x mem _ => ?_⟩
  rw [List.mem_singleton.mp mem, ok]
  rfl

theorem Described.answered (h : Described r c s c' t) : Answered s t := by
  cases h with
  | before => exact .refl s
  | now _ describes => exact answered_call describes

theorem answered_exhaust (held : c.resources = some r) (s : Session) :
    Answered s (exhaust.final (c, s)).2 := by
  rcases exhaust_cases held s with stays | ⟨⟨es, exchanges, requests, -⟩, -⟩
  · rw [stays]
    exact .refl s
  · refine ⟨es, exchanges, fun x mem reads => ?_⟩
    have asked : x.request ∈ r.givingBack ++ s.finishing c.transaction :=
      requests ▸ List.mem_map_of_mem mem
    rcases List.mem_append.mp asked with gives | finishes
    · have given := Request.reads_of_givesBack (CursorResources.givesBack_of_mem gives)
      cases given.symm.trans reads
    · unfold finishing at finishes
      split at finishes
      · simp only [List.mem_cons, List.not_mem_nil, or_false] at finishes
        rcases finishes with q | q <;> rw [q] at reads <;> cases reads
      · cases finishes

theorem Advances.of_failure {o : Except Error Bool} (h : Advances c s o σ) {es : List Exchange}
    (exchanges : σ.2.exchanges = s.exchanges ++ es) {x : Exchange} (mem : x ∈ es)
    (reads : x.request.reads = true) {e : Error} (fails : x.failure? = some e) :
    o = .error e ∧ σ.1.row = c.row ∧ σ.1.rowNumber = c.rowNumber ∧ σ.1.afterLast = c.afterLast := by
  have unanswered (answered : Answered s σ.2) : False := by
    obtain ⟨es', exchanges', none⟩ := answered
    cases List.append_cancel_left (exchanges.symm.trans exchanges')
    cases (none x mem reads).symm.trans fails
  -- what failed is the last request, since those before it were answered
  have last {q : Request} {t : Session} {e' : Error} (answered : Answered s t)
      (ends : σ.2 = (Session.call q c.limits.timeout).final t)
      (error : (Session.call q c.limits.timeout).outcome t = .error e') : e' = e := by
    obtain ⟨es', exchanges', none⟩ := answered
    rw [ends, asked_call, exchanges', List.append_assoc] at exchanges
    rw [← List.append_cancel_left exchanges] at mem
    rcases List.mem_append.mp mem with before | last
    · cases (none x before reads).symm.trans fails
    · rw [List.mem_singleton.mp last, error] at fails
      exact Option.some.inj fails
  cases h with
  | past | refused => exact (unanswered (.refl s)).elim
  | undescribed _ _ error =>
    cases last (.refl s) rfl error
    exact ⟨rfl, rfl, rfl, rfl⟩
  | unfetched _ _ described _ error =>
    cases last described.answered rfl error
    have place := described.stays.cursor
    exact ⟨rfl, place.row, place.rowNumber, place.afterLast⟩
  | delivered _ _ described _ fetches =>
    exact (unanswered (described.answered.trans (answered_call fetches))).elim
  | capped _ held described =>
    have held := described.stays.cursor.resources.trans held
    exact (unanswered (described.answered.trans (answered_exhaust held _))).elim
  | exhausted _ held described _ fetches =>
    have held := described.stays.cursor.resources.trans held
    have answered := described.answered.trans (answered_call fetches)
    exact (unanswered (answered.trans (answered_exhaust held _))).elim

structure Unread (rows : List Row) (c : Cursor) (s : Session) : Prop where
  rowNumber : c.rowNumber = 0
  afterLast : c.afterLast = false
  kept : ∃ r columns, c.resources = some r ∧ s.server.cursors.get? r.result = some ⟨columns, rows⟩

theorem Unread.along (h : Unread rows c s) : Along rows (c, s) := by
  refine ⟨?_, fun gone => ?_, fun r held => ?_⟩
  · change c.rowNumber ≤ _
    rw [h.rowNumber]
    exact Nat.zero_le _
  · cases h.afterLast.symm.trans gone
  · obtain ⟨r', columns, held', kept⟩ := h.kept
    cases held'.symm.trans held
    refine ⟨columns, ?_⟩
    change _ = some (OpenResult.mk columns (rows.drop c.rowNumber))
    rw [h.rowNumber]
    exact kept

end Cursor

theorem Server.Performs.queried {s t : Server} {tx : TransactionId} {id : PreparedId}
    {parameters : List Parameter} {cursor : CursorId} (h : s.Performs (.query tx id parameters) cursor t) :
    ∃ columns rows, t.cursors.get? cursor = some ⟨columns, rows⟩ := by
  cases h with
  | @query _ _ _ result => exact ⟨result.columns, result.rows, Keyed.get?_put_self _ _ _⟩

namespace Action

variable {σ α β : Type} {Q : α → σ → Prop}

abbrev Answers (Q : α → σ → Prop) (x : Action σ α) : Prop :=
  Ensures (fun _ => True) x Q fun _ => True

theorem answers_bind {x : Action σ β} {f : β → Action σ α} (hf : ∀ b, Answers Q (f b)) :
    Answers Q (x >>= f) := by
  have any : Answers (fun _ _ => True) x := by
    intro s _
    split <;> trivial
  exact Ensures.bind any hf

theorem answers_throw (e : Error) : Answers Q (throw e : Action σ α) :=
  ensures_throw fun _ _ => trivial

end Action

def Outcome.IsUnread (o : Outcome) (s : Session) : Prop :=
  ∀ c, o = .rows c → ∃ rows, c.Unread rows s

theorem Outcome.isUnread_rows {c : Cursor} {s : Session} (h : ∃ rows, c.Unread rows s) :
    (rows c).IsUnread s := by
  intro c' same
  cases same
  exact h

theorem Session.unread_query (limits : StatementLimits) (prepared : Prepared) (owned : Bool)
    (parameters : List Parameter) :
    Answers (fun c s => ∃ rows, c.Unread rows s) (query limits prepared owned parameters) := by
  intro s _
  simp only [query, outcome_bind, final_bind, outcome_attempt, final_attempt]
  cases getOrBegin.outcome s with
  | error e =>
    obtain ⟨t, -, -, outcome⟩ := beside_giveBack owned prepared (throw e : Action Session Cursor)
      (getOrBegin.final s)
    dsimp only
    rw [outcome, outcome_throw]
    trivial
  | ok tx =>
    let asks := call (.query tx prepared.id parameters) limits.timeout
    simp only [outcome_bind, final_bind, outcome_attempt, final_attempt]
    cases queries : asks.outcome (getOrBegin.final s) with
    | error e =>
      obtain ⟨t, -, -, outcome⟩ := beside_giveBack owned prepared
        (abortAfter tx e >>= fun _ => throw e : Action Session Cursor) (asks.final (getOrBegin.final s))
      dsimp only
      rw [outcome, outcome_bind, outcome_abortAfter]
      trivial
    | ok result =>
      obtain ⟨columns, rows, kept⟩ := (call_performs queries).queried
      exact ⟨rows, rfl, rfl, _, columns, rfl, kept⟩

theorem Statement.unread_executeQuery (st : Statement) (sql : String) :
    Answers (fun c s => ∃ rows, c.Unread rows s) (st.executeQuery sql) := by
  refine answers_bind fun _ => answers_bind fun prepared => ?_
  split
  · exact Session.unread_query _ _ _ _
  · exact answers_bind fun _ => answers_throw _

theorem Statement.unread_execute (st : Statement) (sql : String) :
    Answers Outcome.IsUnread (st.execute sql) := by
  refine answers_bind fun _ => answers_bind fun prepared => ?_
  split
  · exact (Session.unread_query _ _ _ _).bind fun c => ensures_pure fun _ => Outcome.isUnread_rows
  · exact answers_bind fun _ => answers_bind fun _ => answers_bind fun _ => ensures_pure fun _ _ => nofun

theorem PreparedStatement.unread_query (prepared : Prepared) (parameters : List Parameter) :
    Answers (fun c σ => ∃ rows, c.Unread rows σ.2) (query prepared parameters) :=
  answers_bind fun _ => (Session.unread_query _ _ _ _).zoom (fun _ _ => trivial)
    (fun _ _ _ unread => unread) fun _ _ _ => trivial

theorem PreparedStatement.unread_executeQuery :
    Answers (fun c σ => ∃ rows, c.Unread rows σ.2) executeQuery := by
  refine answers_bind fun ready => ?_
  dsimp only
  split
  · exact unread_query _ _
  · exact answers_throw _

theorem PreparedStatement.unread_execute : Answers (fun o σ => o.IsUnread σ.2) execute := by
  refine answers_bind fun ready => ?_
  dsimp only
  split
  · exact (unread_query _ _).bind fun c => ensures_pure fun _ => Outcome.isUnread_rows
  · exact answers_bind fun _ => ensures_pure fun _ _ => nofun

def Command.uses (n : Nat) : Command → Bool
  | .arrange _ => true
  | .call (.cursor m q) => m = n && q != .drop
  | _ => false

namespace Client

variable {k : Client} {n : Nat} {c : Cursor} {rows : List Row}

theorem unread_keepOutcome {x : Action Client Outcome} (hx : Passing n x)
    (opens : Answers (fun o k => o.IsUnread k.session) x) (free : k.cursors.get? n = none)
    (known : ((keepOutcome n x).final k).cursors.get? n = some c) :
    ∃ rows, c.Unread rows ((keepOutcome n x).final k).session := by
  have still : (x.final k).cursors.get? n = none := (hx.get?_final k).trans free
  have drops : (dropCursor n).final (x.final k) = x.final k := by rw [final_dropCursor, still]
  have unread := opens k trivial
  rw [session_keepOutcome, drops]
  simp only [keepOutcome, final_bind, outcome_attempt, final_attempt, outcome_dropCursor,
    outcome_ofExcept, final_ofExcept, drops] at known
  cases outcome : x.outcome k with
  | error e =>
    rw [outcome] at known
    cases still.symm.trans known
  | ok o =>
    rw [outcome] at known unread
    cases o with
    | updated count => cases still.symm.trans known
    | rows c' =>
      simp only [final_bind, outcome_modify, final_modify, final_pure, Keyed.get?_put_self,
        Option.some.injEq] at known
      exact unread c (congrArg Outcome.rows known)

theorem unread_keepCursor {x : Action Client Cursor} (hx : Passing n x)
    (opens : Answers (fun c k => ∃ rows, c.Unread rows k.session) x) (free : k.cursors.get? n = none)
    (known : ((keepCursor n x).final k).cursors.get? n = some c) :
    ∃ rows, c.Unread rows ((keepCursor n x).final k).session := by
  have passing : Passing n (Outcome.rows <$> x) := by
    rw [map_eq_pure_bind]
    exact hx.bind fun _ => follows_pure _
  have unread : Answers (fun o k => o.IsUnread k.session) (Outcome.rows <$> x) := by
    rw [map_eq_pure_bind]
    exact opens.bind fun c => ensures_pure fun _ => Outcome.isUnread_rows
  rw [final_keepCursor] at known ⊢
  exact unread_keepOutcome passing unread free known

theorem unread_call (call : Call) (keeps : call.register? = some n) (free : k.cursors.get? n = none)
    (known : (k.call call).2.cursors.get? n = some c) : ∃ rows, c.Unread rows (k.call call).2.session := by
  have ofSession {α : Type} {Q : α → Session → Prop} {x : Action Session α} (hx : Answers Q x) :
      Answers (fun a k => Q a k.session) (onSession x) :=
    hx.zoom (fun _ _ => trivial) (fun _ _ _ h => h) fun _ _ _ => trivial
  have ofPrepared {α : Type} {Q : α → Session → Prop} {x : PreparedStatement.Method α}
      (hx : Answers (fun a σ => Q a σ.2) x) (m : Nat) (p : PreparedStatement) :
      Answers (fun a k => Q a k.session) (onPrepared m p x) :=
    hx.zoom (fun _ _ => trivial) (fun _ _ _ h => h) fun _ _ _ => trivial
  cases call with
  | statement m asked =>
    cases found : k.statements.get? m with
    | none =>
      rw [Client.call, runOn_eq, found] at known
      cases free.symm.trans known
    | some st =>
      cases asked with
      | query keep sql =>
        cases keeps
        rw [Client.call, runOn_eq, found] at known ⊢
        exact unread_keepCursor (passing_onSession _) (ofSession (st.unread_executeQuery sql)) free known
      | execute keep sql =>
        cases keeps
        rw [Client.call, runOn_eq, found] at known ⊢
        exact unread_keepOutcome (passing_onSession _) (ofSession (st.unread_execute sql)) free known
      | _ => cases keeps
  | prepared m asked =>
    cases found : k.prepared.get? m with
    | none =>
      rw [Client.call, runOn_eq, found] at known
      cases free.symm.trans known
    | some p =>
      cases asked with
      | query keep =>
        cases keeps
        rw [Client.call, runOn_eq, found] at known ⊢
        have opens := ofPrepared (Q := fun c s => ∃ rows, Cursor.Unread rows c s)
          PreparedStatement.unread_executeQuery m p
        exact unread_keepCursor (passing_onPrepared _ _) opens free known
      | execute keep =>
        cases keeps
        rw [Client.call, runOn_eq, found] at known ⊢
        have opens := ofPrepared (Q := Outcome.IsUnread) PreparedStatement.unread_execute m p
        exact unread_keepOutcome (passing_onPrepared _ _) opens free known
      | _ => cases keeps
  | _ => cases keeps

def Delivers (k : Client) (n : Nat) (cmd : Command) : Prop :=
  cmd = .call (.cursor n .advance) ∧ (k.call (.cursor n .advance)).1 = some (.ok true)

instance (k : Client) (n : Nat) (cmd : Command) : Decidable (k.Delivers n cmd) :=
  inferInstanceAs (Decidable (_ ∧ _))

def seen (n : Nat) : Client → List Command → List (Option Row)
  | _, [] => []
  | k, cmd :: cs =>
    if k.Delivers n cmd then
      ((k.step cmd).2.cursors.get? n).bind Cursor.row :: seen n (k.step cmd).2 cs
    else seen n (k.step cmd).2 cs

theorem call_along (known : k.cursors.get? n = some c) (along : Cursor.Along rows (c, k.session))
    {q : CursorCall} (stays : q ≠ .drop) :
    ∃ c', (k.call (.cursor n q)).2.cursors.get? n = some c' ∧
      Cursor.Along rows (c', (k.call (.cursor n q)).2.session) ∧
        Cursor.Steps rows c (k.Delivers n (.call (.cursor n q))) c' := by
  cases looks : q.looks with
  | true =>
    obtain ⟨c', known', run⟩ := call_looking known looks
    have still := Cursor.Looks.stays run
    refine ⟨c', known', along.stays still, still.cursor.sameRow.steps ?_ ?_⟩
    · intro past
      exact still.cursor.afterLast.trans past
    · rintro ⟨same, -⟩
      cases same
      cases looks
  | false =>
    have answers := call_cursor known q
    cases q with
    | advance =>
      obtain ⟨along', steps⟩ := along.advances (Cursor.advances c k.session)
      have delivers : k.Delivers n (.call (.cursor n .advance)) ↔
          Cursor.advance.outcome (c, k.session) = .ok true := by
        rw [Delivers, answers]
        dsimp only [CursorCall.perform]
        rw [outcome_onCursor, Option.some.injEq, eq_self_iff_true, true_and]
      have arrives : Cursor.Along rows ((Cursor.advance.final (c, k.session)).1,
          ((onCursor n c Cursor.advance).final k).session) := by
        rw [session_onCursor]
        exact along'
      rw [delivers, answers]
      exact ⟨_, get?_onCursor Cursor.advance, arrives, steps⟩
    | close =>
      obtain ⟨same, afterLast⟩ := Cursor.sameRow_close c k.session
      have closes : Cursor.Steps rows c (k.Delivers n (.call (.cursor n .close)))
          (Cursor.close.final (c, k.session)).1 := by
        refine same.steps (fun past => afterLast.trans past) ?_
        rintro ⟨advances, -⟩
        cases advances
      have arrives : Cursor.Along rows ((Cursor.close.final (c, k.session)).1,
          ((onCursor n c Cursor.close).final k).session) := by
        rw [session_onCursor]
        exact along.close
      rw [answers]
      exact ⟨_, get?_onCursor Cursor.close, arrives, closes⟩
    | drop => exact absurd rfl stays
    | columns | find | read | readInZone | readDecimal => cases looks

theorem step_along (known : k.cursors.get? n = some c) (along : Cursor.Along rows (c, k.session))
    {cmd : Command} (uses : cmd.uses n = true) :
    ∃ c', (k.step cmd).2.cursors.get? n = some c' ∧ Cursor.Along rows (c', (k.step cmd).2.session) ∧
      Cursor.Steps rows c (k.Delivers n cmd) c' := by
  cases cmd with
  | arrange a =>
    obtain ⟨-, -, -, cursors⟩ := k.session.server.frame_arrange a
    have still : Cursor.Stays (c, k.session) (c, (k.step (.arrange a)).2.session) :=
      ⟨.refl c, rfl, cursors⟩
    refine ⟨c, known, along.stays still, Cursor.SameRow.steps ⟨rfl, rfl⟩ id ?_⟩
    rintro ⟨advances, -⟩
    cases advances
  | direct r => cases uses
  | call call =>
    cases call with
    | cursor m q =>
      simp only [Command.uses, Bool.and_eq_true, decide_eq_true_eq, bne_iff_ne] at uses
      obtain ⟨rfl, stays⟩ := uses
      exact call_along known along stays
    | _ => cases uses

structure Delivered (k : Client) (n : Nat) (rows : List Row) (c : Cursor) (cs : List Command)
    (c' : Cursor) : Prop where
  known : (k.after cs).cursors.get? n = some c'
  along : Cursor.Along rows (c', (k.after cs).session)
  limits : c'.limits = c.limits
  past : c.afterLast = true → c'.afterLast = true
  rowNumber : c'.rowNumber = c.rowNumber + (k.seen n cs).length
  seen : k.seen n cs = ((rows.drop c.rowNumber).take (k.seen n cs).length).map some

theorem after_along (known : k.cursors.get? n = some c) (along : Cursor.Along rows (c, k.session))
    {cs : List Command} (uses : ∀ cmd ∈ cs, cmd.uses n = true) : ∃ c', k.Delivered n rows c cs c' := by
  -- on the commands, from whatever row has been reached
  induction cs generalizing k c with
  | nil => exact ⟨c, known, along, rfl, id, rfl, rfl⟩
  | cons cmd cs ih =>
    obtain ⟨first, rest⟩ := List.forall_mem_cons.mp uses
    obtain ⟨c', known', along', steps⟩ := step_along known along first
    obtain ⟨c'', run⟩ := ih known' along' rest
    have past := fun ended => run.past (steps.past ended)
    have rowNumber := run.rowNumber
    have seen := run.seen
    by_cases delivers : k.Delivers n cmd
    · obtain ⟨next, row, found, holds⟩ := steps.delivered delivers
      have sees : k.seen n (cmd :: cs) = some row :: (k.step cmd).2.seen n cs := by
        rw [Client.seen, if_pos delivers, known', Option.bind_some, holds]
      refine ⟨c'', run.known, run.along, run.limits.trans steps.limits, past, ?_, ?_⟩
      · rw [sees, List.length_cons, rowNumber, next]
        omega
      · obtain ⟨within, rfl⟩ := List.getElem?_eq_some_iff.mp found
        rw [next] at seen
        rw [sees, List.length_cons, List.drop_eq_getElem_cons within, List.take_succ_cons, List.map_cons,
          ← seen]
    · have sees : k.seen n (cmd :: cs) = (k.step cmd).2.seen n cs := by
        rw [Client.seen, if_neg delivers]
      refine ⟨c'', run.known, run.along, run.limits.trans steps.limits, past, ?_, ?_⟩
      · rw [sees, rowNumber, steps.waits delivers]
      · rw [sees, ← steps.waits delivers]
        exact seen

theorem advance_past (known : k.cursors.get? n = some c) (past : c.afterLast = true) :
    (k.call (.cursor n .advance)).1 = some (.ok false) := by
  rw [call_cursor known]
  dsimp only [CursorCall.perform]
  rw [outcome_onCursor, (Cursor.advance_past past).1]

theorem afterLast_of_answer (known : k.cursors.get? n = some c)
    (ends : (k.call (.cursor n .advance)).1 = some (.ok false)) {c' : Cursor}
    (known' : (k.call (.cursor n .advance)).2.cursors.get? n = some c') : c'.afterLast = true := by
  rw [call_cursor known] at ends known'
  dsimp only [CursorCall.perform] at ends known'
  rw [get?_onCursor] at known'
  rw [outcome_onCursor] at ends
  cases known'
  exact (Cursor.advances c k.session).afterLast (Option.some.inj ends)

theorem advance_failure (known : k.cursors.get? n = some c) {k' : Client}
    (arrives : (k.call (.cursor n .advance)).2 = k') {es : List Exchange}
    (exchanges : k'.session.exchanges = k.session.exchanges ++ es) {x : Exchange} (mem : x ∈ es)
    (reads : x.request.reads = true) {e : Error} (fails : x.failure? = some e) :
    (k.call (.cursor n .advance)).1 = some (.error e) ∧ ∃ c', k'.cursors.get? n = some c' ∧
      c'.row = c.row ∧ c'.rowNumber = c.rowNumber ∧ c'.afterLast = c.afterLast := by
  subst arrives
  rw [call_cursor known] at exchanges ⊢
  dsimp only [CursorCall.perform] at exchanges ⊢
  rw [session_onCursor] at exchanges
  rw [outcome_onCursor]
  obtain ⟨outcome, place⟩ := (Cursor.advances c k.session).of_failure exchanges mem reads fails
  exact ⟨congrArg some outcome, _, get?_onCursor Cursor.advance, place⟩

/-- A cursor delivers the rows of its result one after the other, up to their end or its limit, and an
advance that cannot describe or fetch them leaves it where it is. -/
theorem delivers_rows (known : k.cursors.get? n = some c) (unread : c.Unread rows k.session)
    {cs : List Command} (uses : ∀ cmd ∈ cs, cmd.uses n = true) :
    k.seen n cs = (rows.take (k.seen n cs).length).map some ∧
      (k.seen n cs).length ≤ c.limit rows ∧
      ∃ c', (k.after cs).cursors.get? n = some c' ∧ c'.rowNumber = (k.seen n cs).length ∧
        (((k.after cs).call (.cursor n .advance)).1 = some (.ok false) →
          (k.seen n cs).length = c.limit rows ∧
            ∀ more, (∀ cmd ∈ more, cmd.uses n = true) →
              ((k.after (cs ++ .call (.cursor n .advance) :: more)).call (.cursor n .advance)).1 =
                some (.ok false)) ∧
        ∀ k' es x e, ((k.after cs).call (.cursor n .advance)).2 = k' →
          k'.session.exchanges = (k.after cs).session.exchanges ++ es → x ∈ es →
            x.request.reads = true → x.failure? = some e →
              ((k.after cs).call (.cursor n .advance)).1 = some (.error e) ∧
                ∃ c'', k'.cursors.get? n = some c'' ∧ c''.row = c'.row ∧
                  c''.rowNumber = c'.rowNumber ∧ c''.afterLast = c'.afterLast := by
  obtain ⟨c', run⟩ := after_along known unread.along uses
  have rowNumber := run.rowNumber
  have seen := run.seen
  have within : c'.rowNumber ≤ c'.limit rows := run.along.within
  have limit : c'.limit rows = c.limit rows := by rw [Cursor.limit, Cursor.limit, run.limits]
  rw [unread.rowNumber, Nat.zero_add] at rowNumber
  rw [unread.rowNumber, List.drop_zero] at seen
  refine ⟨seen, ?_, c', run.known, rowNumber, fun ends => ?_, ?_⟩
  · rw [← rowNumber, ← limit]
    exact within
  · obtain ⟨c'', known'', along'', steps⟩ := call_along run.known run.along (q := .advance) nofun
    have not : ¬(k.after cs).Delivers n (.call (.cursor n .advance)) := by
      rintro ⟨-, delivers⟩
      cases ends.symm.trans delivers
    have past := afterLast_of_answer run.known ends known''
    have same : c''.limit rows = c.limit rows := by
      rw [Cursor.limit, Cursor.limit, steps.limits, run.limits]
    constructor
    · rw [← rowNumber, ← steps.waits not, ← same]
      exact along''.ended past
    · intro more uses'
      obtain ⟨c₃, run'⟩ := after_along known'' along'' uses'
      have arrives : k.after (cs ++ .call (.cursor n .advance) :: more) =
          ((k.after cs).call (.cursor n .advance)).2.after more := List.foldl_append
      rw [arrives]
      exact advance_past run'.known (run'.past past)
  · intro k' es x e arrives exchanges mem reads fails
    exact advance_failure run.known arrives exchanges mem reads fails

def threeRows : List Row :=
  [[.int4 1], [.int4 2], [.int4 3]]

def opening : Client :=
  (start (.plain true)).after
    [.arrange (.createTable "t" [⟨some "id", .int4, false, none⟩]), .arrange (.seed "t" threeRows),
      .call (.connection (.statement 0)), .call (.statement 0 (.setMaxRows (some 2)))]

def paged : Client :=
  (opening.call (.statement 0 (.query 0 "select * from t"))).2

def retrying : List Command :=
  [.arrange (.failNext .fetch "busy"), .call (.cursor 0 .advance), .call (.cursor 0 .advance),
    .call (.cursor 0 (.find "ID")), .arrange (.failNext .fetch "busy"), .call (.cursor 0 .advance),
    .call (.cursor 0 .advance)]

example : paged.seen 0 retrying = [some [.int4 1], some [.int4 2]] := by
  decide

theorem delivers_rows_retrying :
    ∃ c, paged.cursors.get? 0 = some c ∧ c.Unread threeRows paged.session ∧ c.limit threeRows = 2 ∧
      paged.seen 0 retrying = (threeRows.take 2).map some ∧
      ((paged.after retrying).call (.cursor 0 .advance)).1 = some (.ok false) ∧
      ((paged.after (retrying ++ .call (.cursor 0 .advance) :: [.call (.cursor 0 .close)])).call
        (.cursor 0 .advance)).1 = some (.ok false) ∧
      ∃ e, ((paged.after (retrying.take 5)).call (.cursor 0 .advance)).1 = some (.error e) ∧
        ∃ c', ((paged.after (retrying.take 5)).call (.cursor 0 .advance)).2.cursors.get? 0 = some c' ∧
          c'.rowNumber = 1 := by
  have kept : ((paged.cursors.get? 0).map fun c => (c.resources.map CursorResources.result,
      c.limits.maxRows)) = some (some ⟨3⟩, some 2) := by decide
  obtain ⟨c, known, same⟩ := Option.map_eq_some_iff.mp kept
  obtain ⟨result, maxRows⟩ := Prod.mk.inj same
  have unread : c.Unread threeRows paged.session := by
    have free : opening.cursors.get? 0 = none := by decide
    obtain ⟨rows, unread⟩ :=
      unread_call (.statement 0 (.query 0 "select * from t")) rfl free known
    obtain ⟨r, columns, held, rowsKept⟩ := unread.kept
    have number : r.result = ⟨3⟩ := by simpa [held] using result
    have there : paged.session.server.cursors.get? ⟨3⟩ =
        some ⟨[⟨some "id", .int4, false, none⟩], threeRows⟩ := by decide
    rw [number] at rowsKept
    cases there.symm.trans rowsKept
    exact unread
  have limit : c.limit threeRows = 2 := by
    rw [Cursor.limit, maxRows]
    rfl
  have uses : ∀ cmd ∈ retrying, cmd.uses 0 = true := by decide
  obtain ⟨inOrder, -, -, -, -, ends, -⟩ := delivers_rows known unread uses
  have past : ((paged.after retrying).call (.cursor 0 .advance)).1 = some (.ok false) := by decide
  obtain ⟨all, stays⟩ := ends past
  rw [all, limit] at inOrder
  -- the second arranged failure is met once a row has been delivered
  have usesBefore : ∀ cmd ∈ retrying.take 5, cmd.uses 0 = true := by decide
  obtain ⟨-, -, c', known', delivered, -, fails⟩ := delivers_rows known unread usesBefore
  have one : (paged.seen 0 (retrying.take 5)).length = 1 := by decide
  obtain ⟨answers, c'', known'', -, rowNumber', -⟩ := fails _
    [⟨.fetch ⟨3⟩, .error (.execution (.server ⟨"busy", some "INJECTED"⟩))⟩] _ _ rfl rfl
    List.mem_cons_self rfl rfl
  have first : c''.rowNumber = 1 := rowNumber'.trans (delivered.trans one)
  exact ⟨c, known, unread, limit, inOrder, past, stays [.call (.cursor 0 .close)] (by decide), _, answers,
    c'', known'', first⟩

end Client

end SqlClient
