import SqlClient.Proofs.Calls

namespace SqlClient

open SqlClient.Action Relation Session

def Call.register? : Call → Option Nat
  | .statement _ (.query n _) | .statement _ (.execute n _) | .prepared _ (.query n)
  | .prepared _ (.execute n) => some n
  | _ => none

def Call.reaches? : Call → Option Nat
  | .cursor n _ => some n
  | c => c.register?

namespace Client

variable {α : Type} {k : Client} {n m : Nat}

abbrev Passing (n : Nat) (x : Action Client α) : Prop :=
  x.Follows Eq fun k => k.cursors.get? n

theorem Passing.get?_final {x : Action Client α} (hx : Passing n x) (k : Client) :
    (x.final k).cursors.get? n = k.cursors.get? n := by
  have along {a b : Option Cursor} (run : ReflTransGen Eq a b) : b = a := by
    induction run with
    | refl => rfl
    | tail _ same ih => exact same.symm.trans ih
  exact along (hx k)

theorem passing_onSession (x : Action Session α) : Passing n (onSession x) :=
  follows_of_final_eq fun k => by rw [final_onSession]

theorem passing_onStatement (st : Statement) (x : Action (Statement × Session) α) :
    Passing n (onStatement m st x) :=
  follows_of_final_eq fun k => by rw [final_onStatement]

theorem passing_onPrepared (p : PreparedStatement) (x : PreparedStatement.Method α) :
    Passing n (onPrepared m p x) :=
  follows_of_final_eq fun k => by rw [final_onPrepared]

theorem passing_modify {f : Client → Client} (same : ∀ k, (f k).cursors = k.cursors) :
    Passing n (modify f) :=
  follows_of_final_eq fun k => by rw [final_modify, same]

theorem passing_keepHandle (m : Option Nat) (tx : Option TransactionId) :
    Passing n (keepHandle m tx) := by
  unfold keepHandle
  split
  · exact follows_pure _
  · exact passing_modify fun _ => rfl

theorem passing_keepTransaction (m : Option Nat) (find : Action Session TransactionId) :
    Passing n (keepTransaction m find) :=
  (passing_onSession find).attempt.bind fun _ => (passing_keepHandle m _).bind fun _ =>
    follows_ofExcept _

theorem passing_keepStatement (m : Nat) : Passing n (keepStatement m) :=
  Follows.bind (passing_modify fun _ => rfl) fun _ => (passing_onSession _).bind fun _ =>
    passing_modify fun _ => rfl

theorem passing_dropPrepared (m : Nat) : Passing n (dropPrepared m) := by
  refine follows_get.bind fun k => ?_
  split
  · exact follows_pure _
  · exact (passing_onPrepared _ _).bind fun _ => passing_modify fun _ => rfl

theorem passing_keepPrepared (m : Nat) (sql : String) : Passing n (keepPrepared m sql) :=
  (passing_onSession _).attempt.bind fun _ => (passing_dropPrepared m).bind fun _ =>
    (follows_ofExcept _).bind fun _ => passing_modify fun _ => rfl

section Other

variable (other : n ≠ m)

include other

theorem passing_onCursor (c : Cursor) (x : Cursor.Method α) : Passing n (onCursor m c x) := by
  refine follows_of_final_eq fun k => ?_
  rw [final_onCursor]
  exact Keyed.get?_put_of_ne _ _ other

theorem passing_dropCursor : Passing n (dropCursor m) := by
  refine follows_get.bind fun k => ?_
  split
  · exact follows_pure _
  · next c _ =>
    refine (passing_onCursor other c Cursor.drop).bind fun _ => follows_of_final_eq fun k => ?_
    rw [final_modify]
    exact Keyed.get?_erase_of_ne _ other

theorem passing_keepOutcome {x : Action Client Outcome} (hx : Passing n x) :
    Passing n (keepOutcome m x) := by
  refine hx.attempt.bind fun _ => (passing_dropCursor other).bind fun _ =>
    (follows_ofExcept _).bind fun outcome => ?_
  cases outcome with
  | updated count => exact follows_pure _
  | rows c =>
    refine Follows.bind (follows_of_final_eq fun k => ?_) fun _ => follows_pure _
    rw [final_modify]
    exact Keyed.get?_put_of_ne _ _ other

theorem passing_keepCursor {x : Action Client Cursor} (hx : Passing n x) :
    Passing n (keepCursor m x) := by
  have rows : Passing n (Outcome.rows <$> x) := by
    rw [map_eq_pure_bind]
    exact hx.bind fun _ => follows_pure _
  exact (passing_keepOutcome other rows).bind fun _ => follows_pure _

end Other

end Client

open Client

variable {n m : Nat}

theorem ConnectionCall.passing_perform (c : ConnectionCall) : Passing n c.perform := by
  cases c with
  | statement keep => exact passing_keepStatement keep
  | prepare keep sql => exact passing_keepPrepared keep sql
  | transaction keep | requireActive keep => exact passing_keepTransaction keep _
  | current keep =>
    exact (passing_onSession _).bind fun tx => (passing_keepHandle keep tx).bind fun _ => follows_pure tx
  | drop => exact (passing_onSession _).bestEffort
  | _ => exact passing_onSession _

theorem CoordinatorCall.passing_perform (c : CoordinatorCall) : Passing n c.perform := by
  cases c with
  | transaction keep => exact passing_keepTransaction keep _
  | complete | close => exact passing_onSession _

theorem HandleCall.passing_perform (tx : TransactionId) (c : HandleCall) :
    Passing n (c.perform tx) := by
  cases c <;> exact passing_onSession _

theorem StatementCall.passing_perform (st : Statement) (c : StatementCall)
    (other : (Call.statement m c).reaches? ≠ some n) : Passing n (c.perform m st) := by
  cases c with
  | query keep sql =>
    exact passing_keepCursor (fun same => other (congrArg some same.symm)) (passing_onSession _)
  | execute keep sql =>
    exact passing_keepOutcome (fun same => other (congrArg some same.symm)) (passing_onSession _)
  | update => exact passing_onSession _
  | executeBatch => exact passing_onStatement _ _
  | _ => exact passing_modify fun _ => rfl

theorem PreparedCall.passing_perform (p : PreparedStatement) (c : PreparedCall)
    (other : (Call.prepared m c).reaches? ≠ some n) : Passing n (c.perform m p) := by
  cases c with
  | query keep =>
    exact passing_keepCursor (fun same => other (congrArg some same.symm)) (passing_onPrepared _ _)
  | execute keep =>
    exact passing_keepOutcome (fun same => other (congrArg some same.symm)) (passing_onPrepared _ _)
  | drop => exact passing_dropPrepared m
  | clearParameters | clearBatch | setMaxRows | setTimeout => exact passing_modify fun _ => rfl
  | _ => exact passing_onPrepared _ _

theorem CursorCall.passing_perform (c : Cursor) (call : CursorCall) (other : n ≠ m) :
    Passing n (call.perform m c) := by
  cases call with
  | drop => exact passing_dropCursor other
  | _ => exact passing_onCursor other c _

namespace Client

theorem get?_runOn {ο α : Type} {x : ο → Action Client α} (hx : ∀ o, Passing n (x o))
    (object : Option ο) (k : Client) :
    (runOn object x k).2.cursors.get? n = k.cursors.get? n := by
  rw [runOn_eq]
  cases object with
  | none => rfl
  | some o => exact (hx o).get?_final k

theorem get?_call (k : Client) {c : Call} (other : c.reaches? ≠ some n) :
    (k.call c).2.cursors.get? n = k.cursors.get? n := by
  cases c with
  | connection c => exact get?_runOn (fun _ => c.passing_perform) _ k
  | coordinator c => exact get?_runOn (fun _ => c.passing_perform) _ k
  | handle _ c => exact get?_runOn (fun tx => c.passing_perform tx) _ k
  | statement _ c => exact get?_runOn (fun st => c.passing_perform st other) _ k
  | prepared _ c => exact get?_runOn (fun p => c.passing_perform p other) _ k
  | cursor m c =>
    exact get?_runOn (fun cursor => c.passing_perform cursor fun same => other (congrArg some same.symm))
      _ k

variable {α : Type} {k : Client}

def Moved (k k' : Client) : Prop :=
  k'.cursors = k.cursors ∧ ReflTransGen Move k.session k'.session

theorem moved_onSession {x : Action Session α} (hx : Session.Moving (fun _ => True) x) (k : Client) :
    k.Moved ((onSession x).final k) := by
  rw [final_onSession]
  exact ⟨rfl, hx k.session⟩

theorem moved_onPrepared {x : PreparedStatement.Method α} (hx : PreparedStatement.IsMethod x)
    (p : PreparedStatement) (k : Client) : k.Moved ((onPrepared m p x).final k) := by
  rw [final_onPrepared]
  exact ⟨rfl, PreparedStatement.moves_session (hx.moving (p, k.session))⟩

theorem outcome_keepOutcome_congr {k' : Client} {x y : Action Client Outcome}
    (same : x.outcome k = y.outcome k') : (keepOutcome n x).outcome k = (keepOutcome n y).outcome k' := by
  simp only [keepOutcome, outcome_bind, outcome_attempt, final_attempt, outcome_dropCursor,
    outcome_ofExcept, same]
  cases y.outcome k' with
  | error e => rfl
  | ok outcome => cases outcome <;> rfl

theorem outcome_keepCursor_congr {k' : Client} {x y : Action Client Cursor}
    (same : x.outcome k = y.outcome k') : (keepCursor n x).outcome k = (keepCursor n y).outcome k' := by
  have rows : (Outcome.rows <$> x).outcome k = (Outcome.rows <$> y).outcome k' := by
    rw [outcome_map, outcome_map, same]
  rw [keepCursor, keepCursor, outcome_bind, outcome_bind, outcome_keepOutcome_congr rows]
  cases (keepOutcome n (Outcome.rows <$> y)).outcome k' <;> rfl

structure Replaces {α : Type} (k : Client) (n : Nat) (answer unkept : α) (s : Session) : Prop where
  answers : answer = unkept
  drops : ∃ u, k.Moved u ∧ s = ((dropCursor n).final u).session

theorem replaces_runOn {ο : Type} {object : Option ο} {i : ο} (found : object = some i)
    {x : ο → Action Client α} {u : Client} (moved : k.Moved u)
    (same : (x i).outcome k = (x i).outcome { k with cursors := k.cursors.erase n })
    (drops : ((x i).final k).session = ((dropCursor n).final u).session) :
    k.Replaces n (runOn object x k).1 (runOn object x { k with cursors := k.cursors.erase n }).1
      (runOn object x k).2.session := by
  rw [runOn_eq, runOn_eq, found]
  exact ⟨congrArg some same, u, moved, drops⟩

theorem call_replaces {call : Call} (keeps : call.register? = some n) :
    k.call call = (none, k) ∨
      k.Replaces n (k.call call).1 (Client.call { k with cursors := k.cursors.erase n } call).1
        (k.call call).2.session := by
  have every (r : Request) : True := trivial
  cases call with
  | statement m asked =>
    cases found : k.statements.get? m with
    | none =>
      left
      rw [Client.call, runOn_eq, found]
    | some st =>
      right
      have same {α : Type} (x : Action Session α) : (onSession x).outcome k =
          (onSession x).outcome { k with cursors := k.cursors.erase n } := by
        rw [onSession, outcome_zoom, outcome_zoom]
      cases asked with
      | query _ sql =>
        cases keeps
        have moved := moved_onSession (st.moving_executeQuery every sql) k
        exact replaces_runOn found moved (outcome_keepCursor_congr (same _)) (session_keepCursor n _ k)
      | execute _ sql =>
        cases keeps
        have moved := moved_onSession (st.moving_execute every sql) k
        exact replaces_runOn found moved (outcome_keepOutcome_congr (same _)) (session_keepOutcome n _ k)
      | _ => cases keeps
  | prepared m asked =>
    cases found : k.prepared.get? m with
    | none =>
      left
      rw [Client.call, runOn_eq, found]
    | some p =>
      right
      have same {α : Type} (x : PreparedStatement.Method α) : (onPrepared m p x).outcome k =
          (onPrepared m p x).outcome { k with cursors := k.cursors.erase n } := by
        rw [onPrepared, outcome_zoom, outcome_zoom]
      cases asked with
      | query =>
        cases keeps
        have moved := moved_onPrepared (m := m) .executeQuery p k
        exact replaces_runOn found moved (outcome_keepCursor_congr (same _)) (session_keepCursor n _ k)
      | execute =>
        cases keeps
        have moved := moved_onPrepared (m := m) .execute p k
        exact replaces_runOn found moved (outcome_keepOutcome_congr (same _)) (session_keepOutcome n _ k)
      | _ => cases keeps
  | _ => cases keeps

end Client

end SqlClient
