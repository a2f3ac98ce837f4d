import SqlClient.Proofs.Calls
import SqlClient.Proofs.Runs

namespace SqlClient

open SqlClient.Action Relation Session

def Call.preparesEarly : Call → Bool
  | .statement _ (.query ..) | .statement _ (.execute ..) | .prepared _ (.query _)
  | .prepared _ .update | .prepared _ (.execute _) | .prepared _ .executeBatch => true
  | _ => false

namespace Session

variable {early : Bool} {s t u w : Session} {tx : TransactionId} {op : Operation}

def Cleared (early : Bool) (op : Operation) (s t : Session) : Prop :=
  t.live? = none ∨ early = true ∧ op = .prepare ∧ t.live? = s.live?

theorem live?_of_closed (slot : s.slot = some tx) (closed : s.isClosed tx = true) :
    s.live? = none := by
  simp [live?, slot, closed]

theorem live?_of_beside (h : Beside s t) : t.live? = s.live? := by
  rw [asks_frame h]
  rfl

theorem live?_of_subsides (h : Subsides s t) (slot : t.slot = s.slot) :
    t.live? = none ∨ t.live? = s.live? := by
  cases hs : s.slot with
  | none =>
    left
    simp [live?, slot, hs]
  | some tx =>
    cases closed : t.isClosed tx with
    | true => exact .inl (live?_of_closed (slot.trans hs) closed)
    | false =>
      right
      rw [live?_eq_some_iff.mpr ⟨slot.trans hs, closed⟩, live?_eq_some_iff.mpr ⟨hs, h.isOpen closed⟩]

theorem live?_of_tidies (h : Tidies s t) : t.live? = none ∨ t.live? = s.live? := by
  cases h with
  | aside timeout _ concern => exact .inr (live?_of_beside (beside_call timeout s concern))
  | finish tx =>
    refine live?_of_subsides (subsides_finish tx s) ?_
    rw [final_finish]
    split
    · exact slot_complete .commit tx s
    · rfl

theorem Cleared.tidies (h : Cleared early op s t) (run : ReflTransGen Tidies t u) :
    Cleared early op s u := by
  induction run with
  | refl => exact h
  | tail _ last ih =>
    rcases live?_of_tidies last with none | same
    · exact .inl none
    · rw [Cleared, same]
      exact ih

theorem slot_of_amid (h : Amid s tx w) : w.slot = some tx := by
  obtain ⟨u, -, gets, works⟩ := h
  rw [asks_frame works]
  exact (live?_eq_some_iff.mp (live_of_getOrBegin gets)).1

theorem live?_of_unbegun {e : Error} (fails : getOrBegin.outcome s = .error e) :
    (getOrBegin.final s).live? = none := by
  rw [live?, (unbegun_of_error fails).2]
  rfl

theorem live?_of_complete (how : Completion) (slot : w.slot = some tx) :
    ((complete how tx).final w).live? = none :=
  live?_of_closed ((slot_complete how tx w).trans slot) (isClosed_complete_self how tx w)

theorem Executes.cleared {r : Except Error (Option Cursor)} (h : Executes early s r t)
    {ms : Milliseconds} (times : r = .error (.timeout op ms)) : Cleared early op s t := by
  cases h with
  | vacant | opened => cases times
  | refused beside he =>
    cases times
    obtain ⟨early, ms', same⟩ := he rfl
    cases same
    exact .inr ⟨early, rfl, live?_of_beside beside⟩
  | unbegun _ fails after =>
    left
    rw [live?_of_beside after]
    exact live?_of_unbegun fails
  | @finished w _ tx amid after =>
    left
    rw [live?_of_beside after, final_finish]
    split
    next => exact live?_of_complete .commit (slot_of_amid amid)
    next manual =>
      -- without a commit there is nothing that could time out
      simp only [finish, outcome_bind, outcome_get, final_get] at times
      rw [if_neg manual] at times
      cases times
  | aborted amid after =>
    left
    cases times
    rw [live?_of_beside after, final_abortAfter, if_pos (by simp [Error.isTimeout])]
    exact live?_of_complete .rollback (slot_of_amid amid)

end Session

namespace Client

variable {k : Client} {n : Nat} {early : Bool} {op : Operation} {ms : Milliseconds}

theorem tidies_dropCursor (n : Nat) (k : Client) :
    ReflTransGen Tidies k.session ((dropCursor n).final k).session := by
  rw [final_dropCursor]
  cases k.cursors.get? n with
  | none => exact .refl
  | some c =>
    simp only [final_onCursor]
    exact Cursor.IsMethod.drop.tidying (c, k.session)

theorem cleared_keepOutcome {x : Action Client Outcome}
    (hx : x.outcome k = .error (.timeout op ms) → Cleared early op k.session (x.final k).session)
    (times : (keepOutcome n x).outcome k = .error (.timeout op ms)) :
    Cleared early op k.session ((keepOutcome n x).final k).session := by
  rw [session_keepOutcome]
  exact (hx (keepOutcome_error_iff.mp times)).tidies (tidies_dropCursor n (x.final k))

theorem cleared_keepCursor {x : Action Client Cursor}
    (hx : x.outcome k = .error (.timeout op ms) → Cleared early op k.session (x.final k).session)
    (times : (keepCursor n x).outcome k = .error (.timeout op ms)) :
    Cleared early op k.session ((keepCursor n x).final k).session := by
  rw [session_keepCursor]
  exact (hx (keepCursor_error_iff.mp times)).tidies (tidies_dropCursor n (x.final k))

theorem cleared_onSession {α : Type} {x : Action Session α} {opens : α → Option Cursor}
    (hx : Statement.IsExecution early x opens)
    (times : (onSession x).outcome k = .error (.timeout op ms)) :
    Cleared early op k.session ((onSession x).final k).session := by
  rw [onSession, outcome_zoom] at times
  rw [final_onSession]
  have executes := hx.executing k.session k.session .refl
  exact executes.cleared (by rw [times, Except.map])

theorem cleared_onPrepared {α : Type} {x : PreparedStatement.Method α} {opens : α → Option Cursor}
    {q : PreparedStatement} (hx : PreparedStatement.IsExecution x opens)
    (times : (onPrepared n q x).outcome k = .error (.timeout op ms)) :
    Cleared true op k.session ((onPrepared n q x).final k).session := by
  rw [onPrepared, outcome_zoom] at times
  rw [final_onPrepared]
  have executes := hx.executing k.session (q, k.session) .refl
  exact executes.cleared (by rw [times, Except.map])

end Client

open Client

variable {k : Client} {n : Nat} {op : Operation} {ms : Milliseconds}

theorem StatementCall.cleared (st : Statement) (c : StatementCall)
    (executes : (Call.statement n c).executes = true)
    (times : (c.perform n st).outcome k = .error (.timeout op ms)) :
    Cleared (Call.statement n c).preparesEarly op k.session ((c.perform n st).final k).session := by
  cases c with
  | query keep sql => exact cleared_keepCursor (cleared_onSession (.query st sql)) times
  | update sql => exact cleared_onSession (.update st sql) times
  | execute keep sql => exact cleared_keepOutcome (cleared_onSession (.execute st sql)) times
  | executeBatch =>
    rw [perform, onStatement, outcome_zoom, Statement.outcome_executeBatch] at times
    rw [perform, final_onStatement, Statement.final_executeBatch]
    have runs := (Statement.IsExecution.batch st st.batch).executing k.session k.session .refl
    exact runs.cleared (by rw [times, Except.map])
  | addBatch | clearBatch | setMaxRows | setTimeout | close => cases executes

theorem PreparedCall.cleared (q : PreparedStatement) (c : PreparedCall)
    (executes : (Call.prepared n c).executes = true)
    (times : (c.perform n q).outcome k = .error (.timeout op ms)) :
    Cleared (Call.prepared n c).preparesEarly op k.session ((c.perform n q).final k).session := by
  cases c with
  | query keep => exact cleared_keepCursor (cleared_onPrepared .query) times
  | update => exact cleared_onPrepared .update times
  | execute keep => exact cleared_keepOutcome (cleared_onPrepared .execute) times
  | executeBatch => exact cleared_onPrepared .batch times
  | _ => cases executes

namespace Client

/-- After an execution that times out no transaction is live; but where the text is prepared early and
this is what timed out, the live transaction may be left as it was. -/
theorem timeout_clears_slot (k : Client) {c : Call} (executes : c.executes = true) {op : Operation}
    {ms : Milliseconds} (times : (k.call c).1 = some (.error (.timeout op ms))) :
    (k.call c).2.session.live? = none ∨ c.preparesEarly = true ∧ op = .prepare ∧
      (k.call c).2.session.live? = k.session.live? := by
  cases c with
  | connection | coordinator | handle | cursor => cases executes
  | statement n c =>
    simp only [Client.call, runOn_eq] at times ⊢
    cases known : k.statements.get? n with
    | none =>
      rw [known] at times
      cases times
    | some st =>
      rw [known] at times
      exact c.cleared st executes (Option.some.inj times)
  | prepared n c =>
    simp only [Client.call, runOn_eq] at times ⊢
    cases known : k.prepared.get? n with
    | none =>
      rw [known] at times
      cases times
    | some q =>
      rw [known] at times
      exact c.cleared q executes (Option.some.inj times)

def hasty : ConnectionConfig where
  autocommit := false
  timeouts := ⟨none, none, some 5, none, none⟩
  settings := .new
  conversion := default
  maxRows := none

def slowed (op : Operation) : List Command :=
  [.call (.coordinator (.transaction none)), .call (.connection (.statement 0)),
    .arrange (.delay op 60000)]

theorem timeout_clears_slot_update :
    ((start hasty).after (slowed .prepare)).session.live? = some ⟨1⟩ ∧
      (((start hasty).after (slowed .prepare)).call
        (.statement 0 (.update "insert into t values (1)"))).2.session.live? = none := by
  have times : (((start hasty).after (slowed .prepare)).call
      (.statement 0 (.update "insert into t values (1)"))).1 = some (.error (.timeout .prepare 5)) := by
    rfl
  refine ⟨by decide, ?_⟩
  rcases timeout_clears_slot _ rfl times with cleared | ⟨early, -, -⟩
  · exact cleared
  · cases early

theorem timeout_keeps_transaction :
    ¬∀ k : Client, k.Reached → ∀ c : Call, c.executes = true → ∀ op ms,
      op ∈ [.begin, .prepare, .execute, .commit] →
        (k.call c).1 = some (.error (.timeout op ms)) → (k.call c).2.session.live? = none := by
  intro law
  have reached := @reached_of_start hasty (slowed .prepare) (by decide)
  have cleared := law _ reached (.statement 0 (.query 0 "select * from t")) rfl .prepare 5
    (by decide) rfl
  have live : (((start hasty).after (slowed .prepare)).call
      (.statement 0 (.query 0 "select * from t"))).2.session.live? = some ⟨1⟩ := by decide
  cases live.symm.trans cleared

end Client

end SqlClient
