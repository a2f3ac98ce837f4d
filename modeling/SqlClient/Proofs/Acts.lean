import SqlClient.Client
import SqlClient.Proofs.ObjectMoves

namespace SqlClient

open SqlClient.Action Relation Session

inductive PreparedStatement.IsMethod : {α : Type} → PreparedStatement.Method α → Prop
  | bind (index : Nat) (value : HostValue) (declared : Option Atom) :
    IsMethod (bind index value declared)
  | clearParameters : IsMethod (change clearParameters)
  | executeQuery : IsMethod executeQuery
  | executeUpdate : IsMethod executeUpdate
  | execute : IsMethod execute
  | addBatch : IsMethod addBatch
  | clearBatch : IsMethod (change clearBatch)
  | executeBatch : IsMethod executeBatch
  | setMaxRows (max : Option Nat) : IsMethod (change fun p => p.setMaxRows max)
  | setTimeout (timeout : Option Milliseconds) : IsMethod (change fun p => p.setTimeout timeout)
  | close : IsMethod close

theorem PreparedStatement.IsMethod.moving {α : Type} {x : PreparedStatement.Method α}
    (hx : PreparedStatement.IsMethod x) : PreparedStatement.Moving (fun _ => True) x := by
  have every (r : Request) : True := trivial
  cases hx with
  | bind index value declared => exact PreparedStatement.moving_bind index value declared
  | executeQuery => exact PreparedStatement.moving_executeQuery every
  | executeUpdate => exact PreparedStatement.moving_executeUpdate every
  | execute => exact PreparedStatement.moving_execute every
  | addBatch => exact PreparedStatement.moving_addBatch
  | executeBatch => exact PreparedStatement.moving_executeBatch every
  | close => exact PreparedStatement.moving_close fun _ => trivial
  | clearParameters | clearBatch | setMaxRows | setTimeout =>
    exact PreparedStatement.moving_change (fun _ => rfl) fun _ => rfl

inductive Cursor.IsMethod : {α : Type} → Cursor.Method α → Prop
  | advance : IsMethod advance
  | columns : IsMethod knownColumns
  | find (name : String) : IsMethod (find name)
  | read (index : Nat) (reader : ColumnReader) (asked : ReadRequest) :
    IsMethod (read index reader asked)
  | readDecimal (index scale : Nat) : IsMethod (readDecimal index scale)
  | close : IsMethod close
  | drop : IsMethod drop

theorem Cursor.IsMethod.turning {α : Type} {x : Cursor.Method α} (hx : Cursor.IsMethod x) :
    Cursor.Turning x := by
  cases hx with
  | advance => exact Cursor.turning_advance
  | columns => exact Cursor.turning_of_looking Cursor.looking_knownColumns
  | find name => exact Cursor.turning_of_looking (Cursor.looking_find name)
  | read index reader asked => exact Cursor.turning_of_looking (Cursor.looking_read index reader asked)
  | readDecimal index scale => exact Cursor.turning_of_looking (Cursor.looking_readDecimal index scale)
  | close => exact Cursor.turning_close
  | drop => exact Cursor.turning_close.bestEffort

theorem Cursor.IsMethod.tidying {α : Type} {x : Cursor.Method α} (hx : Cursor.IsMethod x) :
    Cursor.Tidying x :=
  Cursor.tidying_of_turning hx.turning

abbrev Session.Move : Session → Session → Prop :=
  Moves fun _ => True

namespace Client

section Final

variable {α : Type} (k : Client) (n : Nat)

theorem final_onSession (x : Action Session α) :
    (onSession x).final k = { k with session := x.final k.session } :=
  final_zoom _ _ x k

theorem final_onStatement (st : Statement) (x : Action (Statement × Session) α) :
    (onStatement n st x).final k =
      { k with session := (x.final (st, k.session)).2
               statements := k.statements.put n (x.final (st, k.session)).1 } :=
  final_zoom _ _ x k

theorem final_onPrepared (p : PreparedStatement) (x : PreparedStatement.Method α) :
    (onPrepared n p x).final k =
      { k with session := (x.final (p, k.session)).2
               prepared := k.prepared.put n (x.final (p, k.session)).1 } :=
  final_zoom _ _ x k

theorem final_onCursor (c : Cursor) (x : Cursor.Method α) :
    (onCursor n c x).final k =
      { k with session := (x.final (c, k.session)).2
               cursors := k.cursors.put n (x.final (c, k.session)).1 } :=
  final_zoom _ _ x k

end Final

inductive Acts : Client → Client → Prop
  | session {α : Type} {x : Action Session α} (hx : Session.Moving (fun _ => True) x) (k : Client) :
    Acts k ((onSession x).final k)
  | statement {α : Type} {x : Action (Statement × Session) α} (hx : x.Follows Move Prod.snd)
      (n : Nat) (st : Statement) (k : Client) : Acts k ((onStatement n st x).final k)
  | cursor {α : Type} {x : Cursor.Method α} (hx : Cursor.IsMethod x) (n : Nat) (c : Cursor)
      (k : Client) : Acts k ((onCursor n c x).final k)
  | prepared {α : Type} {x : PreparedStatement.Method α} (hx : PreparedStatement.IsMethod x)
      {n : Nat} {p : PreparedStatement} {k : Client} (known : k.prepared.get? n = some p) :
    Acts k ((onPrepared n p x).final k)
  | hold (statements : Keyed Nat Statement) (cursors : Keyed Nat Cursor)
      (handles : Keyed Nat TransactionId) (k : Client) :
    Acts k { k with statements := statements, cursors := cursors, handles := handles }
  | prepare (n : Nat) (sql : String) (k : Client) :
    Acts k { k with prepared := k.prepared.put n (.new sql) }
  | forget (n : Nat) (k : Client) : Acts k { k with prepared := k.prepared.erase n }

variable {α : Type}

abbrev Acting (x : Action Client α) : Prop :=
  x.Follows Acts id

theorem acts_bind {β : Type} {k : Client} {x : Action Client α} {f : α → Action Client β}
    (hx : ReflTransGen Acts k (x.final k)) (hf : ∀ a, Acting (f a)) :
    ReflTransGen Acts k ((x >>= f).final k) :=
  @reaches_bind _ _ _ _ Acts id k x f hx hf

theorem acting_onSession {x : Action Session α} (hx : Session.Moving (fun _ => True) x) :
    Acting (onSession x) :=
  fun k => .single (.session hx k)

theorem acting_hold {f : Client → Client} (h : ∀ k, f k =
    { k with statements := (f k).statements, cursors := (f k).cursors, handles := (f k).handles }) :
    Acting (modify f) := by
  intro k
  refine .single ?_
  have held := Acts.hold (f k).statements (f k).cursors (f k).handles k
  rw [← h k] at held
  exact held

theorem acting_changeStatement (n : Nat) (st : Statement) : Acting (changeStatement n st) :=
  acting_hold fun _ => rfl

theorem acting_keepHandle (n : Option Nat) (tx : Option TransactionId) : Acting (keepHandle n tx) := by
  unfold keepHandle
  split
  · exact follows_pure _
  · exact acting_hold fun _ => rfl

theorem acting_keepTransaction (n : Option Nat) {find : Action Session TransactionId}
    (hf : Session.Moving (fun _ => True) find) : Acting (keepTransaction n find) :=
  (acting_onSession hf).attempt.bind fun _ => (acting_keepHandle _ _).bind fun _ =>
    follows_ofExcept _

theorem acting_keepStatement (n : Nat) : Acting (keepStatement n) :=
  Follows.bind (acting_hold fun _ => rfl) fun _ => (acting_onSession moving_ensureOpen).bind fun _ =>
    acting_changeStatement _ _

theorem acting_dropCursor (n : Nat) : Acting (dropCursor n) := by
  refine follows_get.bind fun k => ?_
  split
  · exact follows_pure _
  · next c _ =>
    exact Follows.bind (fun k => .single (.cursor .drop n c k)) fun _ =>
      acting_hold fun _ => rfl

theorem acting_dropPrepared (n : Nat) : Acting (dropPrepared n) := by
  intro k
  simp only [dropPrepared, final_bind, outcome_get, final_get]
  split
  · exact .refl
  · next p known =>
    exact acts_bind (.single (.prepared .close known)) fun _ k' => .single (.forget n k')

theorem acting_keepPrepared (n : Nat) (sql : String) : Acting (keepPrepared n sql) :=
  (acting_onSession moving_ensureOpen).attempt.bind fun _ => (acting_dropPrepared n).bind fun _ =>
    (follows_ofExcept _).bind fun _ k => .single (.prepare n sql k)

variable {k : Client}

theorem acts_keepOutcome (n : Nat) {execute : Action Client Outcome}
    (hx : ReflTransGen Acts k (execute.final k)) :
    ReflTransGen Acts k ((keepOutcome n execute).final k) := by
  have attempted : ReflTransGen Acts k (execute.attempt.final k) := by
    rw [final_attempt]
    exact hx
  refine acts_bind attempted fun outcome => (acting_dropCursor n).bind fun _ =>
    (follows_ofExcept _).bind fun outcome => ?_
  cases outcome with
  | rows c => exact Follows.bind (acting_hold fun _ => rfl) fun _ => follows_pure _
  | updated count => exact follows_pure _

theorem acts_keepCursor (n : Nat) {query : Action Client Cursor}
    (hx : ReflTransGen Acts k (query.final k)) :
    ReflTransGen Acts k ((keepCursor n query).final k) := by
  have rows : ReflTransGen Acts k ((Outcome.rows <$> query).final k) := by
    rw [map_eq_pure_bind]
    exact acts_bind hx fun c => follows_pure _
  exact acts_bind (acts_keepOutcome n rows) fun _ => follows_pure _

end Client

theorem ConnectionCall.acting_perform (c : ConnectionCall) : Client.Acting c.perform := by
  have every (r : Request) : True := trivial
  have controls := Request.Controls.every every
  cases c with
  | statement keep => exact Client.acting_keepStatement keep
  | prepare keep sql => exact Client.acting_keepPrepared keep sql
  | setAutocommit on =>
    exact Client.acting_onSession (moving_setUp every (fun _ => on) Session.settings Session.closed)
  | complete how => exact Client.acting_onSession (moving_completeOpen controls how)
  | transaction keep => exact Client.acting_keepTransaction keep (moving_transaction controls)
  | current keep =>
    exact (Client.acting_onSession moving_current).bind fun tx =>
      (Client.acting_keepHandle keep tx).bind fun _ => follows_pure tx
  | requireActive keep => exact Client.acting_keepTransaction keep moving_requireActive
  | requireNone => exact Client.acting_onSession moving_requireNone
  | changeSettings change =>
    exact Client.acting_onSession
      (moving_setUp every Session.autocommit (fun s => s.settings.set change) Session.closed)
  | buildOptions => exact Client.acting_onSession (moving_buildOptions every)
  | close => exact Client.acting_onSession (moving_close every)
  | drop => exact (Client.acting_onSession (moving_close every)).bestEffort

theorem CoordinatorCall.acting_perform (c : CoordinatorCall) : Client.Acting c.perform := by
  have controls := Request.Controls.every fun _ => trivial
  cases c with
  | transaction keep => exact Client.acting_keepTransaction keep (moving_getOrBegin controls.begin)
  | complete how => exact Client.acting_onSession (moving_completeLive controls how)
  | close => exact Client.acting_onSession (moving_completeTaken controls .rollback)

theorem HandleCall.acting_perform (tx : TransactionId) (c : HandleCall) :
    Client.Acting (c.perform tx) := by
  have controls := Request.Controls.every fun _ => trivial
  cases c with
  | complete how => exact Client.acting_onSession (moving_complete controls how tx)
  | finish => exact Client.acting_onSession (moving_finish controls tx)

variable {k : Client} {n : Nat}

theorem StatementCall.acts_perform (st : Statement) (c : StatementCall) :
    ReflTransGen Client.Acts k ((c.perform n st).final k) := by
  have every (r : Request) : True := trivial
  have on {α : Type} {x : Action Session α} (hx : Session.Moving (fun _ => True) x) :=
    Client.acting_onSession hx k
  cases c with
  | query keep sql => exact Client.acts_keepCursor keep (on (st.moving_executeQuery every sql))
  | update sql => exact on (st.moving_executeUpdate every sql)
  | execute keep sql => exact Client.acts_keepOutcome keep (on (st.moving_execute every sql))
  | executeBatch => exact .single (.statement (Statement.moving_executeBatch every) n st k)
  | addBatch | clearBatch | setMaxRows | setTimeout | close =>
    exact Client.acting_changeStatement n _ k

theorem PreparedCall.acts_perform {p : PreparedStatement} (known : k.prepared.get? n = some p)
    (c : PreparedCall) : ReflTransGen Client.Acts k ((c.perform n p).final k) := by
  have on {α : Type} {x : PreparedStatement.Method α} (hx : PreparedStatement.IsMethod x) :
      ReflTransGen Client.Acts k ((Client.onPrepared n p x).final k) := .single (.prepared hx known)
  cases c with
  | bind index value declared => exact on (.bind index value declared)
  | clearParameters => exact on .clearParameters
  | query keep => exact Client.acts_keepCursor keep (on .executeQuery)
  | update => exact on .executeUpdate
  | execute keep => exact Client.acts_keepOutcome keep (on .execute)
  | addBatch => exact on .addBatch
  | clearBatch => exact on .clearBatch
  | executeBatch => exact on .executeBatch
  | setMaxRows max => exact on (.setMaxRows max)
  | setTimeout timeout => exact on (.setTimeout timeout)
  | close => exact on .close
  | drop => exact Client.acting_dropPrepared n k

theorem CursorCall.acts_perform (c : Cursor) (call : CursorCall) :
    ReflTransGen Client.Acts k ((call.perform n c).final k) := by
  have on {α : Type} {x : Cursor.Method α} (hx : Cursor.IsMethod x) :
      ReflTransGen Client.Acts k ((Client.onCursor n c x).final k) := .single (.cursor hx n c k)
  cases call with
  | advance => exact on .advance
  | columns => exact on .columns
  | find name => exact on (.find name)
  | read index target => exact on (.read index _ _)
  | readInZone index target zone => exact on (.read index _ _)
  | readDecimal index scale => exact on (.readDecimal index scale)
  | close => exact on .close
  | drop => exact Client.acting_dropCursor n k

namespace Client

theorem run_eq (x : Action Client α) (k : Client) : run x k = (x.outcome k, x.final k) := by
  simp only [run, outcome, final]
  cases x k <;> rfl

theorem runOn_eq {ο : Type} (object : Option ο) (x : ο → Action Client α) (k : Client) :
    runOn object x k =
      match object with
      | none => (none, k)
      | some o => (some ((x o).outcome k), (x o).final k) := by
  cases object with
  | none => rfl
  | some o => simp only [runOn, run_eq]

theorem acts_runOn {ο : Type} (object : Option ο) {x : ο → Action Client α}
    (hx : ∀ o, object = some o → ReflTransGen Acts k ((x o).final k)) :
    ReflTransGen Acts k (runOn object x k).2 := by
  rw [runOn_eq]
  cases object with
  | none => exact .refl
  | some o => exact hx o rfl

theorem acts_call (k : Client) (c : Call) : ReflTransGen Acts k (k.call c).2 := by
  cases c with
  | connection c => exact acts_runOn _ fun _ _ => c.acting_perform k
  | coordinator c => exact acts_runOn _ fun _ _ => c.acting_perform k
  | handle n c => exact acts_runOn _ fun tx _ => c.acting_perform tx k
  | statement n c => exact acts_runOn _ fun st _ => c.acts_perform st
  | prepared n c => exact acts_runOn _ fun _ known => c.acts_perform known
  | cursor n c => exact acts_runOn _ fun cursor _ => c.acts_perform cursor

theorem Acts.moves {k k' : Client} (h : Acts k k') : ReflTransGen Move k.session k'.session := by
  cases h with
  | session hx =>
    rw [final_onSession]
    exact hx k.session
  | statement hx n st =>
    rw [final_onStatement]
    exact hx (st, k.session)
  | cursor hx n c =>
    rw [final_onCursor]
    exact Cursor.moving_of_tidying hx.tidying (fun _ => trivial) (c, k.session)
  | @prepared _ _ hx n p _ known =>
    rw [final_onPrepared]
    exact PreparedStatement.moves_session (hx.moving (p, k.session))
  | hold | prepare | forget => exact .refl

theorem moves_of_acts {k k' : Client} (h : ReflTransGen Acts k k') :
    ReflTransGen Move k.session k'.session := by
  induction h with
  | refl => exact .refl
  | tail _ act ih => exact ih.trans act.moves

end Client

end SqlClient
