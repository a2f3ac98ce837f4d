import SqlClient.Proofs.Actions
import SqlClient.Session.Call

namespace SqlClient

namespace Request

def transaction? : Request → Option TransactionId
  | complete _ tx | closeTransaction tx | query tx .. | execute tx .. => some tx
  | _ => none

def isBegin : Request → Bool
  | begin _ => true
  | _ => false

def event? : (r : Request) → r.Answer → Option Event
  | begin _, tx => some (.began tx)
  | complete how tx, _ => some (.completed how tx)
  | closeTransaction tx, _ => some (.transactionClosed tx)
  | prepare _ placeholders, p => some (.prepared p.id (placeholders.map Placeholder.atom))
  | dispose id, _ => some (.disposed id)
  | query tx .., cursor => some (.queried tx cursor)
  | execute tx .., count => some (.executed tx count)
  | closeCursor cursor, _ => some (.cursorClosed cursor)
  | describe _, _ | fetch _, _ | readLob _, _ => none

end Request

def Event.transaction? : Event → Option TransactionId
  | .began tx | .completed _ tx | .transactionClosed tx | .queried tx _ | .executed tx _ => some tx
  | .prepared .. | .disposed _ | .cursorClosed _ => none

namespace Server

def eventsOf (s : Server) (tx : TransactionId) : List Event :=
  s.events.filter fun e => e.transaction? = some tx

def staged (s : Server) (tx : TransactionId) : List Write :=
  (s.transactions.get? tx).getD []

def Names (s : Server) (id : PreparedId) (sql : String) : Prop :=
  id.number ≤ s.lastNumber ∧ ∀ text, s.prepared.get? id = some text → text = sql

inductive Performs (s : Server) : (r : Request) → r.Answer → Server → Prop
  | begin (options : TransactionOptions) :
    Performs s (.begin options) (s.begin options).1 (s.begin options).2
  | complete {how tx writes} (open_ : s.transactions.get? tx = some writes) :
    Performs s (.complete how tx) ()
      ({ s with tables := s.tablesAfter writes how
                transactions := s.transactions.put tx [] }.record (.completed how tx))
  | closeTransaction (tx : TransactionId) :
    Performs s (.closeTransaction tx) () (s.closeTransaction tx)
  | prepare (sql : String) (placeholders : List Placeholder) :
    Performs s (.prepare sql placeholders) (s.prepare sql placeholders).1
      (s.prepare sql placeholders).2
  | dispose (id : PreparedId) : Performs s (.dispose id) () (s.dispose id)
  | query {tx id sql result} (parameters : List Parameter) (open_ : s.transactions.contains tx)
      (known : s.prepared.get? id = some sql) (computed : s.resultOf tx sql = .ok result) :
    Performs s (.query tx id parameters) (s.openResult tx result).1 (s.openResult tx result).2
  | execute {tx id parameters sql write count writes} (known : s.prepared.get? id = some sql)
      (computed : s.effectOf tx parameters (Sql.shape sql) = .ok (write, count))
      (open_ : s.transactions.get? tx = some writes) :
    Performs s (.execute tx id parameters) count
      ({ s with transactions := s.transactions.put tx (writes ++ write.toList) }.record
        (.executed tx count))
  | describe {cursor columns} (open_ : s.describe cursor = .ok columns) :
    Performs s (.describe cursor) columns s
  | fetch {cursor result} (open_ : s.cursors.get? cursor = some result) :
    Performs s (.fetch cursor) result.rows.head?
      { s with cursors := s.cursors.update cursor fun r => { r with rows := r.rows.tail } }
  | closeCursor (cursor : CursorId) : Performs s (.closeCursor cursor) () (s.closeCursor cursor)
  | readLob {lob content} (known : s.readLob lob = .ok content) :
    Performs s (.readLob lob) content s

theorem perform_cases (s : Server) (r : Request) :
    (∃ e, s.perform r = (.error e, s)) ∨ ∃ a t, s.perform r = (.ok a, t) ∧ s.Performs r a t := by
  cases r with
  | begin options => exact .inr ⟨_, _, rfl, .begin options⟩
  | closeTransaction tx => exact .inr ⟨_, _, rfl, .closeTransaction tx⟩
  | prepare sql placeholders => exact .inr ⟨_, _, rfl, .prepare sql placeholders⟩
  | dispose id => exact .inr ⟨_, _, rfl, .dispose id⟩
  | closeCursor cursor => exact .inr ⟨_, _, rfl, .closeCursor cursor⟩
  | complete how tx =>
    simp only [perform, Server.complete]
    cases h : s.transactions.get? tx with
    | none => exact .inl ⟨_, rfl⟩
    | some writes => exact .inr ⟨_, _, rfl, .complete h⟩
  | query tx id parameters =>
    simp only [perform, Server.query]
    by_cases htx : s.transactions.contains tx
    · rw [if_pos htx]
      cases hid : s.prepared.get? id with
      | none => exact .inl ⟨_, rfl⟩
      | some sql =>
        cases hr : s.resultOf tx sql with
        | error e => exact .inl ⟨e, by simp only [hr]⟩
        | ok result => exact .inr ⟨_, _, by simp only [hr], .query parameters htx hid hr⟩
    · rw [if_neg htx]
      exact .inl ⟨_, rfl⟩
  | execute tx id parameters =>
    simp only [perform, Server.execute]
    cases hid : s.prepared.get? id with
    | none => exact .inl ⟨_, rfl⟩
    | some sql =>
      cases he : s.effectOf tx parameters (Sql.shape sql) with
      | error e => exact .inl ⟨e, by simp only [he]⟩
      | ok effect =>
        obtain ⟨write, count⟩ := effect
        cases htx : s.transactions.get? tx with
        | none => exact .inl ⟨_, by simp only [he]; rfl⟩
        | some writes => exact .inr ⟨_, _, by simp only [he], .execute hid he htx⟩
  | describe cursor =>
    simp only [perform]
    cases h : s.describe cursor with
    | error e => exact .inl ⟨e, rfl⟩
    | ok columns => exact .inr ⟨_, _, rfl, .describe h⟩
  | fetch cursor =>
    simp only [perform, Server.fetch]
    cases h : s.cursors.get? cursor with
    | none => exact .inl ⟨_, rfl⟩
    | some result => exact .inr ⟨_, _, rfl, .fetch h⟩
  | readLob lob =>
    simp only [perform]
    cases h : s.readLob lob with
    | error e => exact .inl ⟨e, rfl⟩
    | ok content => exact .inr ⟨_, _, rfl, .readLob h⟩

variable {s t : Server} {r : Request} {a : r.Answer} {tx : TransactionId}

theorem Performs.begun {options : TransactionOptions} (h : s.Performs (.begin options) tx t) :
    tx = ⟨s.lastNumber + 1⟩ ∧ t = (s.begin options).2 := by
  cases h
  exact ⟨rfl, rfl⟩

theorem Performs.events (h : s.Performs r a t) : t.events = s.events ++ (r.event? a).toList := by
  cases h
  case describe | fetch | readLob => exact (List.append_nil _).symm
  all_goals rfl

theorem Performs.lastNumber_le (h : s.Performs r a t) : s.lastNumber ≤ t.lastNumber := by
  cases h
  case begin | prepare | query => exact Nat.le_succ _
  all_goals exact Nat.le_refl _

theorem Performs.tables (h : s.Performs r a t) (hr : ∀ tx, r ≠ .complete .commit tx) :
    t.tables = s.tables := by
  cases h with
  | @complete how tx writes _ =>
    cases how with
    | commit => exact absurd rfl (hr tx)
    | rollback => rfl
  | _ => rfl

theorem Performs.scripts (h : s.Performs r a t) : t.scripts = s.scripts := by
  cases h <;> rfl

theorem Performs.transactions (h : s.Performs r a t) (hr : r.transaction? ≠ some tx)
    (hn : tx.number ≤ s.lastNumber) : t.transactions.get? tx = s.transactions.get? tx := by
  have hne (tx' : TransactionId) (hr : some tx' ≠ some tx) : tx ≠ tx' := fun h => hr (h ▸ rfl)
  cases h
  case begin =>
    apply Keyed.get?_put_of_ne
    rintro rfl
    exact Nat.not_succ_le_self _ hn
  case complete | execute => exact Keyed.get?_put_of_ne _ _ (hne _ hr)
  case closeTransaction => exact Keyed.get?_erase_of_ne _ (hne _ hr)
  all_goals rfl

theorem Performs.names (h : s.Performs r a t) {id : PreparedId} {sql : String}
    (hn : s.Names id sql) : t.Names id sql := by
  refine ⟨Nat.le_trans hn.1 h.lastNumber_le, ?_⟩
  cases h
  case prepare text _ =>
    have hne : id ≠ ⟨s.lastNumber + 1⟩ := by
      rintro rfl
      exact Nat.not_succ_le_self _ hn.1
    intro text ht
    exact hn.2 text ((Keyed.get?_put_of_ne _ _ hne).symm.trans ht)
  case dispose id' =>
    intro text ht
    by_cases hid : id = id'
    · subst hid
      exact absurd (ht.symm.trans (Keyed.get?_erase_self _ _)) (by simp)
    · exact hn.2 text ((Keyed.get?_erase_of_ne _ hid).symm.trans ht)
  all_goals exact hn.2

theorem Performs.named {sql : String} {placeholders : List Placeholder} {p : Prepared}
    (h : s.Performs (.prepare sql placeholders) p t) :
    p.id = ⟨s.lastNumber + 1⟩ ∧ t.Names p.id sql := by
  cases h
  refine ⟨rfl, Nat.le_refl _, fun text ht => ?_⟩
  exact Option.some.inj (ht.symm.trans (Keyed.get?_put_self _ _ _))

theorem Performs.returnsRows {sql : String} {placeholders : List Placeholder} {p : Prepared}
    (h : s.Performs (.prepare sql placeholders) p t) : p.returnsRows = s.returnsRows sql := by
  cases h
  rfl

/-- A request is put to the server, which carries it out or loses at most an arranged failure. -/
def Attempts (s : Server) (r : Request) (t : Server) : Prop :=
  (∃ failures, t = { s with failures := failures }) ∨ ∃ a, s.Performs r a t

theorem takeFailure_cases (s : Server) (op : Operation) :
    (∀ f ∈ s.failures, f.1 ≠ op) ∧ s.takeFailure op = (none, s) ∨
      (∃ f ∈ s.failures, f.1 = op) ∧
        ∃ e failures, s.takeFailure op = (some e, { s with failures := failures }) := by
  simp only [takeFailure]
  cases found : s.failures.find? fun f => f.1 = op with
  | none =>
    have spared : ∀ f ∈ s.failures, f.1 ≠ op := by simpa using found
    exact .inl ⟨spared, rfl⟩
  | some f =>
    have arranged : f.1 = op := by simpa using List.find?_some found
    exact .inr ⟨⟨f, List.mem_of_find?_eq_some found, arranged⟩, _, _, rfl⟩

theorem answer_cases (s : Server) (r : Request) :
    (∃ e failures, s.answer r = (.error e, { s with failures := failures })) ∨
      ∃ a t, s.answer r = (.ok a, t) ∧ s.Performs r a t := by
  rcases s.takeFailure_cases r.operation with ⟨-, taken⟩ | ⟨-, e, failures, taken⟩
  · simp only [answer, taken]
    rcases perform_cases s r with ⟨e, he⟩ | ⟨a, t, hp, ha⟩
    · exact .inl ⟨e, s.failures, he⟩
    · exact .inr ⟨a, t, hp, ha⟩
  · exact .inl ⟨e, failures, by simp only [answer, taken]⟩

namespace Attempts

theorem lastNumber_le (h : s.Attempts r t) : s.lastNumber ≤ t.lastNumber := by
  rcases h with ⟨failures, rfl⟩ | ⟨a, h⟩
  · exact Nat.le_refl _
  · exact h.lastNumber_le

theorem tables (h : s.Attempts r t) (hr : ∀ tx, r ≠ .complete .commit tx) :
    t.tables = s.tables := by
  rcases h with ⟨failures, rfl⟩ | ⟨a, h⟩
  · rfl
  · exact h.tables hr

theorem scripts (h : s.Attempts r t) : t.scripts = s.scripts := by
  rcases h with ⟨failures, rfl⟩ | ⟨a, h⟩
  · rfl
  · exact h.scripts

theorem transactions (h : s.Attempts r t) (hr : r.transaction? ≠ some tx)
    (hn : tx.number ≤ s.lastNumber) : t.transactions.get? tx = s.transactions.get? tx := by
  rcases h with ⟨failures, rfl⟩ | ⟨a, h⟩
  · rfl
  · exact h.transactions hr hn

theorem names (h : s.Attempts r t) {id : PreparedId} {sql : String} (hn : s.Names id sql) :
    t.Names id sql := by
  rcases h with ⟨failures, rfl⟩ | ⟨a, h⟩
  · exact hn
  · exact h.names hn

end Attempts

end Server

namespace Session

theorem put_cases (s : Session) (r : Request) (timeout : Option Milliseconds) :
    (∃ e failures, s.put r timeout = (.error e, { s.server with failures := failures })) ∨
      ∃ a t, s.put r timeout = (.ok a, t) ∧ s.server.Performs r a t := by
  simp only [put]
  cases s.expired? r.operation timeout with
  | some limit => exact .inl ⟨_, s.server.failures, rfl⟩
  | none =>
    rcases s.server.answer_cases r with ⟨e, failures, he⟩ | ⟨a, t, ha, hp⟩
    · exact .inl ⟨r.operation.failure e, failures, by simp only [he]⟩
    · exact .inr ⟨a, t, by simp only [ha], hp⟩

theorem outcome_call (r : Request) (timeout : Option Milliseconds) (s : Session) :
    (call r timeout).outcome s = (s.put r timeout).1 := by
  simp only [Action.outcome, call]
  cases (s.put r timeout).1 <;> rfl

theorem final_call (r : Request) (timeout : Option Milliseconds) (s : Session) :
    (call r timeout).final s =
      { s with server := (s.put r timeout).2
               exchanges := s.exchanges ++ [⟨r, (s.put r timeout).1⟩] } := by
  simp only [Action.final, call]
  cases (s.put r timeout).1 <;> rfl

theorem put_attempts (s : Session) (r : Request) (timeout : Option Milliseconds) :
    s.server.Attempts r (s.put r timeout).2 := by
  rcases s.put_cases r timeout with ⟨e, failures, he⟩ | ⟨a, t, ha, hp⟩
  · exact .inl ⟨failures, by rw [he]⟩
  · exact .inr ⟨a, by rw [ha]; exact hp⟩

theorem put_performs {s : Session} {r : Request} {timeout : Option Milliseconds} {a : r.Answer}
    (h : (s.put r timeout).1 = .ok a) : s.server.Performs r a (s.put r timeout).2 := by
  rcases s.put_cases r timeout with ⟨e, failures, he⟩ | ⟨a', t, ha, hp⟩
  · rw [he] at h
    cases h
  · rw [ha] at h ⊢
    cases h
    exact hp

theorem call_attempts (r : Request) (timeout : Option Milliseconds) (s : Session) :
    s.server.Attempts r ((call r timeout).final s).server := by
  rw [final_call]
  exact s.put_attempts r timeout

theorem call_performs {r : Request} {timeout : Option Milliseconds} {s : Session} {a : r.Answer}
    (h : (call r timeout).outcome s = .ok a) :
    s.server.Performs r a ((call r timeout).final s).server := by
  rw [final_call]
  rw [outcome_call] at h
  exact put_performs h

theorem call_error {r : Request} {timeout : Option Milliseconds} {s : Session} {e : Error}
    (h : (call r timeout).outcome s = .error e) :
    ∃ failures, ((call r timeout).final s).server = { s.server with failures := failures } := by
  rw [final_call]
  rw [outcome_call] at h
  rcases s.put_cases r timeout with ⟨e', failures, he⟩ | ⟨a, t, ha, _⟩
  · exact ⟨failures, by rw [he]⟩
  · rw [ha] at h
    cases h

end Session

end SqlClient
