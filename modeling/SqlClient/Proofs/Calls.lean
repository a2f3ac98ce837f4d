import SqlClient.Proofs.Holdings

namespace SqlClient

open SqlClient.Action Relation Session

def Call.executes : Call → Bool
  | .statement _ (.query ..) | .statement _ (.update _) | .statement _ (.execute ..)
  | .statement _ .executeBatch | .prepared _ (.query _) | .prepared _ .update
  | .prepared _ (.execute _) | .prepared _ .executeBatch => true
  | _ => false

def Call.setsAutocommit : Call → Bool
  | .connection (.setAutocommit _) => true
  | _ => false

def Call.configures : Call → Bool
  | .connection (.changeSettings _) => true
  | _ => false

def Call.closes : Call → Bool
  | .connection .close | .connection .drop => true
  | _ => false

theorem Cursor.isClosed_close (c : Cursor) (s : Session) :
    (Cursor.close.final (c, s)).1.isClosed = true := by
  simp only [Cursor.close, Cursor.cursor, final_bind, outcome_bind, outcome_get, final_get,
    outcome_pure, final_pure]
  cases hr : c.resources with
  | none =>
    simp only [final_pure, Cursor.isClosed, hr]
    rfl
  | some r =>
    simp only [Cursor.change, final_bind, outcome_modify, final_modify, outcome_attempt, final_attempt,
      final_onSecond, final_both]
    rfl

theorem PreparedStatement.closed_close (p : PreparedStatement) (s : Session) :
    (PreparedStatement.close.final (p, s)).1.closed = true := by
  simp only [PreparedStatement.close, PreparedStatement.statement, final_bind, outcome_bind,
    outcome_get, final_get, outcome_pure, final_pure]
  cases hc : p.closed with
  | true => exact hc
  | false =>
    simp only [Bool.false_eq_true, ↓reduceIte, PreparedStatement.change, final_bind, outcome_modify,
      final_modify]
    cases p.remote with
    | none => rfl
    | some prepared =>
      dsimp only
      rw [PreparedStatement.final_send]

theorem PreparedStatement.outcome_close (p : PreparedStatement) (s : Session) :
    PreparedStatement.close.outcome (p, s) = .ok () := by
  simp only [PreparedStatement.close, PreparedStatement.statement, outcome_bind, outcome_get,
    final_get, outcome_pure]
  split
  · rfl
  · simp only [PreparedStatement.change, outcome_bind, outcome_modify, final_modify]
    split
    · rw [PreparedStatement.outcome_send, dispose, outcome_bestEffort]
    · rfl

namespace Client

def Ends (k : Client) (how : Completion) (tx : TransactionId) : Call → Prop
  | .connection (.complete how') | .coordinator (.complete how') => how' = how
  | .handle n (.complete how') => how' = how ∧ k.handles.get? n = some tx
  | .connection .close | .connection .drop | .coordinator .close => how = .rollback
  | c => c.executes = true ∧ how = .rollback ∧ ∃ r, (k.call c).1 = some r ∧ TimesOut r

def Begins (k : Client) : Call → Prop
  | .connection (.transaction _) => k.session.closed = false
  | .coordinator (.transaction _) => True
  | _ => False

def permit (k : Client) (c : Call) : Permit where
  completes how tx := k.Ends how tx c
  begins := k.Begins c
  switches := c.setsAutocommit = true
  configures := c.configures = true
  shuts := c.closes = true

def holdingWith (k : Client) (extra : List Cursor) : Holding :=
  ⟨extra ++ k.cursors.values, k.prepared.values, k.session⟩

def holding (k : Client) : Holding :=
  k.holdingWith []

variable {α : Type} {p : Permit} {k : Client} {n : Nat}

theorem does_of_steers {s t : Session} (h : ReflTransGen (Steers p) s t) (cs : List Cursor)
    (ps : List PreparedStatement) : ReflTransGen (Does p) ⟨cs, ps, s⟩ ⟨cs, ps, t⟩ :=
  ReflTransGen.lift (fun s => (⟨cs, ps, s⟩ : Holding)) (fun _ _ h => .steer h cs ps) _ _ h

theorem does_onCursor {x : Cursor.Method α} (hx : Cursor.IsMethod x) {c : Cursor}
    (known : k.cursors.get? n = some c) (extra : List Cursor) :
    ReflTransGen (Does p) (k.holdingWith extra) (((onCursor n c x).final k).holdingWith extra) := by
  rw [final_onCursor]
  have finds : (extra ++ k.cursors.values).Perm (c :: (extra ++ (k.cursors.erase n).values)) :=
    ((Keyed.perm_values_of_get? known).append_left extra).trans List.perm_middle
  have uses := Does.useCursor (p := p) hx c (extra ++ (k.cursors.erase n).values) k.prepared.values
    k.session
  refine ((ReflTransGen.single (.rearrange finds (.refl _) _)).tail uses).tail ?_
  exact .rearrange List.perm_middle.symm (.refl _) _

theorem final_dropCursor (n : Nat) (k : Client) :
    (dropCursor n).final k =
      match k.cursors.get? n with
      | none => k
      | some c =>
        { (onCursor n c Cursor.drop).final k with
          cursors := ((onCursor n c Cursor.drop).final k).cursors.erase n } := by
  simp only [dropCursor, final_bind, outcome_get, final_get]
  cases k.cursors.get? n with
  | none => rfl
  | some c =>
    have drops : (onCursor n c Cursor.drop).outcome k = .ok () := by
      rw [onCursor, outcome_zoom, Cursor.drop, outcome_bestEffort]
    simp only [final_bind, drops, final_modify]

theorem outcome_dropCursor (n : Nat) (k : Client) : (dropCursor n).outcome k = .ok () := by
  simp only [dropCursor, outcome_bind, outcome_get, final_get]
  cases k.cursors.get? n with
  | none => rfl
  | some c =>
    have drops : (onCursor n c Cursor.drop).outcome k = .ok () := by
      rw [onCursor, outcome_zoom, Cursor.drop, outcome_bestEffort]
    simp only [outcome_bind, drops, outcome_modify]

theorem get?_dropCursor (n : Nat) (k : Client) :
    ((dropCursor n).final k).cursors.get? n = none := by
  rw [final_dropCursor]
  cases known : k.cursors.get? n with
  | none => exact known
  | some c => exact Keyed.get?_erase_self _ _

theorem does_dropCursor (n : Nat) (k : Client) (extra : List Cursor) :
    ReflTransGen (Does p) (k.holdingWith extra) (((dropCursor n).final k).holdingWith extra) := by
  rw [final_dropCursor]
  cases known : k.cursors.get? n with
  | none => exact .refl
  | some c =>
    have closes : ((Cursor.drop).final (c, k.session)).1.isClosed = true := by
      rw [Cursor.drop, final_bestEffort]
      exact c.isClosed_close k.session
    have drops := does_onCursor (p := p) Cursor.IsMethod.drop known extra
    simp only [holdingWith, final_onCursor, Keyed.values_put, Keyed.values_erase_put] at drops ⊢
    exact (drops.tail (.rearrange List.perm_middle (.refl _) _)).tail (.discardCursor closes _ _ _)

theorem session_keepOutcome (n : Nat) (x : Action Client Outcome) (k : Client) :
    ((keepOutcome n x).final k).session = ((dropCursor n).final (x.final k)).session := by
  simp only [keepOutcome, final_bind, outcome_attempt, final_attempt, outcome_dropCursor,
    outcome_ofExcept, final_ofExcept]
  cases x.outcome k with
  | error e => rfl
  | ok outcome => cases outcome <;> rfl

theorem keepOutcome_error_iff {x : Action Client Outcome} {e : Error} :
    (keepOutcome n x).outcome k = .error e ↔ x.outcome k = .error e := by
  simp only [keepOutcome, outcome_bind, outcome_attempt, final_attempt, outcome_dropCursor,
    outcome_ofExcept]
  cases x.outcome k with
  | error e' => simp
  | ok outcome =>
    cases outcome <;> constructor <;> intro h <;> cases h

theorem does_keepOutcome {x : Action Client Outcome}
    (hx : ReflTransGen (Does p) k.holding
      ((x.final k).holdingWith (leaves ((x.outcome k).map Outcome.cursor?)))) :
    ReflTransGen (Does p) k.holding ((keepOutcome n x).final k).holding := by
  -- the new cursor is held already while the old one is dropped
  have drops := hx.trans (does_dropCursor n (x.final k) _)
  simp only [keepOutcome, final_bind, outcome_attempt, final_attempt, outcome_dropCursor,
    outcome_ofExcept, final_ofExcept]
  cases h : x.outcome k with
  | error e =>
    rw [h] at drops
    exact drops
  | ok outcome =>
    rw [h] at drops
    cases outcome with
    | updated count => exact drops
    | rows c =>
      have puts := Keyed.values_put_of_none (get?_dropCursor n (x.final k)) c
      simp only [final_bind, outcome_modify, final_modify, final_pure, holding, holdingWith, puts]
      exact drops

theorem final_keepCursor (x : Action Client Cursor) :
    (keepCursor n x).final k = (keepOutcome n (Outcome.rows <$> x)).final k := by
  rw [keepCursor, final_bind]
  cases (keepOutcome n (Outcome.rows <$> x)).outcome k <;> rfl

theorem session_keepCursor (n : Nat) (x : Action Client Cursor) (k : Client) :
    ((keepCursor n x).final k).session = ((dropCursor n).final (x.final k)).session := by
  rw [final_keepCursor, session_keepOutcome, final_map]

theorem keepCursor_error_iff {x : Action Client Cursor} {e : Error} :
    (keepCursor n x).outcome k = .error e ↔ x.outcome k = .error e := by
  have rows : (Outcome.rows <$> x).outcome k = .error e ↔ x.outcome k = .error e := by
    rw [outcome_map]
    cases x.outcome k <;> simp [Except.map]
  rw [← rows, ← keepOutcome_error_iff (n := n), keepCursor, outcome_bind]
  cases (keepOutcome n (Outcome.rows <$> x)).outcome k <;> simp

theorem does_keepCursor {x : Action Client Cursor}
    (hx : ReflTransGen (Does p) k.holding
      ((x.final k).holdingWith (leaves ((x.outcome k).map some)))) :
    ReflTransGen (Does p) k.holding ((keepCursor n x).final k).holding := by
  rw [final_keepCursor]
  apply does_keepOutcome
  rw [final_map, outcome_map]
  cases h : x.outcome k <;> rw [h] at hx <;> exact hx

theorem timesOut_keepOutcome {x : Action Client Outcome} (h : TimesOut (x.outcome k)) :
    TimesOut ((keepOutcome n x).outcome k) := by
  obtain ⟨op, ms, h⟩ := h
  exact ⟨op, ms, keepOutcome_error_iff.mpr h⟩

theorem timesOut_keepCursor {x : Action Client Cursor} (h : TimesOut (x.outcome k)) :
    TimesOut ((keepCursor n x).outcome k) := by
  obtain ⟨op, ms, h⟩ := h
  exact ⟨op, ms, keepCursor_error_iff.mpr h⟩

theorem does_onPrepared {x : PreparedStatement.Method α} {q : PreparedStatement}
    {extra : List Cursor} (known : k.prepared.get? n = some q)
    (uses : ∀ cs ps, ReflTransGen (Does p) ⟨cs, q :: ps, k.session⟩
      ⟨extra ++ cs, (x.final (q, k.session)).1 :: ps, (x.final (q, k.session)).2⟩) :
    ReflTransGen (Does p) k.holding (((onPrepared n q x).final k).holdingWith extra) := by
  rw [final_onPrepared]
  have finds := Keyed.perm_values_of_get? known
  exact ReflTransGen.head (.rearrange (.refl _) finds _) (uses _ _)

theorem does_closePrepared {q : PreparedStatement} (known : k.prepared.get? n = some q) :
    ReflTransGen (Does p) k.holding ((onPrepared n q PreparedStatement.close).final k).holding :=
  does_onPrepared known fun cs ps => .single (.closePrepared q cs ps k.session)

theorem does_changePrepared {q q' : PreparedStatement} (known : k.prepared.get? n = some q)
    (remote : q'.remote = q.remote) (closed : q'.closed = q.closed) :
    ReflTransGen (Does p) k.holding ((changePrepared n q').final k).holding := by
  have finds := Keyed.perm_values_of_get? known
  exact (ReflTransGen.single (.rearrange (.refl _) finds _)).tail
    (.changePrepared remote closed _ _ _)

theorem outcome_onPrepared_close (n : Nat) (q : PreparedStatement) (k : Client) :
    (onPrepared n q PreparedStatement.close).outcome k = .ok () := by
  rw [onPrepared, outcome_zoom, PreparedStatement.outcome_close]

theorem final_dropPrepared (n : Nat) (k : Client) :
    (dropPrepared n).final k =
      match k.prepared.get? n with
      | none => k
      | some q =>
        { (onPrepared n q PreparedStatement.close).final k with
          prepared := ((onPrepared n q PreparedStatement.close).final k).prepared.erase n } := by
  simp only [dropPrepared, final_bind, outcome_get, final_get]
  cases k.prepared.get? n with
  | none => rfl
  | some q => simp only [final_bind, outcome_onPrepared_close, final_modify]

theorem outcome_dropPrepared (n : Nat) (k : Client) : (dropPrepared n).outcome k = .ok () := by
  simp only [dropPrepared, outcome_bind, outcome_get, final_get]
  cases k.prepared.get? n with
  | none => rfl
  | some q => simp only [outcome_bind, outcome_onPrepared_close, outcome_modify]

theorem get?_dropPrepared (n : Nat) (k : Client) :
    ((dropPrepared n).final k).prepared.get? n = none := by
  rw [final_dropPrepared]
  cases known : k.prepared.get? n with
  | none => exact known
  | some q => exact Keyed.get?_erase_self _ _

theorem does_dropPrepared (n : Nat) (k : Client) :
    ReflTransGen (Does p) k.holding ((dropPrepared n).final k).holding := by
  rw [final_dropPrepared]
  cases known : k.prepared.get? n with
  | none => exact .refl
  | some q =>
    have drops := does_closePrepared (p := p) known
    simp only [holding, holdingWith, final_onPrepared, Keyed.values_put, Keyed.values_erase_put]
      at drops ⊢
    exact drops.tail (.discardPrepared (q.closed_close k.session) _ _ _)

theorem does_keepPrepared (n : Nat) (sql : String) (k : Client) :
    ReflTransGen (Does p) k.holding ((keepPrepared n sql).final k).holding := by
  have opens : (onSession ensureOpen).final k = k := by
    rw [final_onSession, Session.final_ensureOpen]
  have drops := does_dropPrepared (p := p) n k
  have fresh := get?_dropPrepared n k
  simp only [keepPrepared, final_bind, outcome_attempt, final_attempt, opens, outcome_dropPrepared,
    outcome_ofExcept, final_ofExcept]
  cases (onSession ensureOpen).outcome k with
  | error e => exact drops
  | ok _ =>
    have puts := Keyed.values_put_of_none fresh (.new sql)
    simp only [changePrepared, final_modify, holding, holdingWith, puts]
    exact drops.tail (.prepare sql _ _ _)

theorem does_onSession {x : Action Session α} (hx : Steering p x) (k : Client) :
    ReflTransGen (Does p) k.holding ((onSession x).final k).holding := by
  rw [final_onSession]
  exact does_of_steers (hx k.session) _ _

theorem holding_keepHandle (n : Option Nat) (tx : Option TransactionId) (k : Client) :
    ((keepHandle n tx).final k).holding = k.holding := by
  cases n <;> rfl

theorem keepTransaction_error {n : Option Nat} {find : Action Session TransactionId} {e : Error}
    (fails : (onSession find).outcome k = .error e) : (keepTransaction n find).outcome k = .error e := by
  simp only [keepTransaction, outcome_bind, outcome_attempt, fails, outcome_ofExcept]
  cases n <;> rfl

theorem does_keepTransaction {n : Option Nat} {find : Action Session TransactionId}
    (hf : ReflTransGen (Steers p) k.session (find.final k.session)) :
    ReflTransGen (Does p) k.holding ((keepTransaction n find).final k).holding := by
  have finds := does_of_steers hf k.cursors.values k.prepared.values
  have kept : (keepHandle n ((onSession find).outcome k).toOption).outcome
      ((onSession find).final k) = .ok () := by
    cases n <;> rfl
  simp only [keepTransaction, final_bind, outcome_attempt, final_attempt, kept, final_ofExcept,
    holding_keepHandle]
  rw [final_onSession]
  exact finds

end Client

open Client

variable {k : Client} {n : Nat}

theorem ConnectionCall.does_perform (c : ConnectionCall) (k : Client) :
    ReflTransGen (Does (k.permit (.connection c))) k.holding (c.perform.final k).holding := by
  cases c with
  | statement keep =>
    have opens : (onSession ensureOpen).final
        { k with statements := k.statements.erase keep } =
          { k with statements := k.statements.erase keep } := by
      rw [final_onSession, Session.final_ensureOpen]
    simp only [perform, keepStatement, final_bind, outcome_modify, final_modify, opens, changeStatement]
    split <;> exact .refl
  | prepare keep sql => exact does_keepPrepared keep sql k
  | setAutocommit on =>
    have switches : Steering (k.permit (.connection (.setAutocommit on)))
        (modify fun s : Session => { s with autocommit := on }) :=
      fun s => .single (.switch rfl on s)
    exact does_onSession switches k
  | complete how =>
    have completes : Steering (k.permit (.connection (.complete how))) (completeLive how) :=
      steering_completeLive fun _ => rfl
    exact does_onSession (steering_ensureOpen.bind fun _ => completes) k
  | transaction keep =>
    apply does_keepTransaction
    cases closed : k.session.closed with
    | true =>
      have refuses : Session.transaction.final k.session = k.session := by
        simp only [Session.transaction, ensureOpen, final_bind, outcome_bind, outcome_get, final_get,
          closed, ↓reduceIte, outcome_throw, final_throw]
      rw [refuses]
    | false =>
      have begins : (k.permit (.connection (.transaction keep))).begins := closed
      exact (steering_ensureOpen.bind fun _ => steering_getOrBegin begins) k.session
  | current keep =>
    have finds := does_onSession (p := k.permit (.connection (.current keep))) steering_current k
    simp only [perform, final_bind]
    cases (onSession Session.current).outcome k with
    | error e => exact finds
    | ok tx =>
      have kept : ((keepHandle keep tx).final ((onSession Session.current).final k)).holding =
          ((onSession Session.current).final k).holding := holding_keepHandle keep tx _
      dsimp only
      split
      · rw [final_pure, kept]
        exact finds
      · rw [kept]
        exact finds
  | requireActive keep => exact does_keepTransaction (steering_requireActive k.session)
  | requireNone => exact does_onSession steering_requireNone k
  | changeSettings change =>
    have configures : Steering (k.permit (.connection (.changeSettings change)))
        (modify fun s : Session => { s with settings := s.settings.set change }) :=
      fun s => .single (.configure rfl change s)
    exact does_onSession configures k
  | buildOptions => exact does_onSession steering_buildOptions k
  | close => exact does_onSession (steering_close rfl fun _ => rfl) k
  | drop =>
    rw [perform, final_bestEffort]
    exact does_onSession (steering_close rfl fun _ => rfl) k

theorem CoordinatorCall.does_perform (c : CoordinatorCall) (k : Client) :
    ReflTransGen (Does (k.permit (.coordinator c))) k.holding (c.perform.final k).holding := by
  cases c with
  | transaction keep => exact does_keepTransaction (steering_getOrBegin trivial k.session)
  | complete how => exact does_onSession (steering_completeLive fun _ => rfl) k
  | close => exact does_onSession (steering_abandon fun _ => rfl) k

theorem HandleCall.does_perform {tx : TransactionId} (known : k.handles.get? n = some tx)
    (c : HandleCall) :
    ReflTransGen (Does (k.permit (.handle n c))) k.holding ((c.perform tx).final k).holding := by
  cases c with
  | complete how =>
    have ends : (k.permit (.handle n (.complete how))).completes how tx := ⟨rfl, known⟩
    have completes : Steering (k.permit (.handle n (.complete how))) (Session.complete how tx) :=
      fun s => .single (.complete ends s)
    exact does_onSession completes k
  | finish =>
    have finishes : Steering (k.permit (.handle n .finish)) (Session.finish tx) :=
      fun s => .single (.finish tx s)
    exact does_onSession finishes k

theorem StatementCall.does_perform {st : Statement} (known : k.statements.get? n = some st)
    (c : StatementCall) :
    ReflTransGen (Does (k.permit (.statement n c))) k.holding ((c.perform n st).final k).holding := by
  have answers : (k.call (.statement n c)).1 = some ((c.perform n st).outcome k) := by
    rw [Client.call, runOn_eq, known]
  have executes {early : Bool} {α : Type} {x : Action Session α} {opens : α → Option Cursor}
      (hx : Statement.IsExecution early x opens) (hc : (Call.statement n c).executes = true)
      (times : TimesOut (x.outcome k.session) → TimesOut ((c.perform n st).outcome k)) :
      ReflTransGen (Does (k.permit (.statement n c))) k.holding
        (((onSession x).final k).holdingWith (leaves (((onSession x).outcome k).map opens))) := by
    have aborts (h : TimesOut (x.outcome k.session)) (tx : TransactionId) :
        k.Ends .rollback tx (.statement n c) := ⟨hc, rfl, _, answers, times h⟩
    rw [final_onSession, onSession, outcome_zoom]
    exact .single (.execute hx aborts _ _)
  have within {α : Type} {x : Action Session α} (h : TimesOut (x.outcome k.session)) :
      TimesOut ((onSession x).outcome k) := by
    rw [onSession, outcome_zoom]
    exact h
  cases c with
  | query keep sql =>
    exact does_keepCursor (executes (.query st sql) rfl fun h => timesOut_keepCursor (within h))
  | update sql =>
    have runs := executes (.update st sql) rfl within
    cases h : (onSession (st.executeUpdate sql)).outcome k <;> rw [h] at runs <;> exact runs
  | execute keep sql =>
    exact does_keepOutcome (executes (.execute st sql) rfl fun h => timesOut_keepOutcome (within h))
  | executeBatch =>
    have runs := executes (.batch st st.batch) rfl fun h => by
      rw [perform, onStatement, outcome_zoom, Statement.outcome_executeBatch]
      exact h
    rw [perform, final_onStatement, Statement.final_executeBatch]
    rw [final_onSession] at runs
    cases h : (onSession (st.executeAll st.batch)).outcome k <;> rw [h] at runs <;> exact runs
  | addBatch | clearBatch | setMaxRows | setTimeout | close => exact .refl

theorem PreparedCall.does_perform {q : PreparedStatement} (known : k.prepared.get? n = some q)
    (c : PreparedCall) :
    ReflTransGen (Does (k.permit (.prepared n c))) k.holding ((c.perform n q).final k).holding := by
  have answers : (k.call (.prepared n c)).1 = some ((c.perform n q).outcome k) := by
    rw [Client.call, runOn_eq, known]
  have executes {α : Type} {x : PreparedStatement.Method α} {opens : α → Option Cursor}
      (hx : PreparedStatement.IsExecution x opens) (hc : (Call.prepared n c).executes = true)
      (times : TimesOut ((onPrepared n q x).outcome k) → TimesOut ((c.perform n q).outcome k)) :
      ReflTransGen (Does (k.permit (.prepared n c))) k.holding
        (((onPrepared n q x).final k).holdingWith
          (leaves (((onPrepared n q x).outcome k).map opens))) := by
    have same : (onPrepared n q x).outcome k = x.outcome (q, k.session) := outcome_zoom _ _ x k
    rw [same] at times ⊢
    have aborts (h : TimesOut (x.outcome (q, k.session))) (tx : TransactionId) :
        k.Ends .rollback tx (.prepared n c) := ⟨hc, rfl, _, answers, times h⟩
    exact does_onPrepared known fun cs ps => .single (.executePrepared hx aborts cs ps)
  have retains {x : PreparedStatement.Method Unit}
      (hx : x.Follows PreparedStatement.Retains id) :
      ReflTransGen (Does (k.permit (.prepared n c))) k.holding ((onPrepared n q x).final k).holding := by
    have kept : PreparedStatement.Retains (q, k.session) (x.final (q, k.session)) :=
      .of_run (hx (q, k.session))
    refine does_onPrepared known fun cs ps => ?_
    rw [kept.session]
    exact .single (.changePrepared kept.remote kept.closed cs ps k.session)
  cases c with
  | query keep =>
    exact does_keepCursor (executes .query rfl fun h => timesOut_keepCursor h)
  | update =>
    have runs := executes .update rfl id
    cases h : (onPrepared n q PreparedStatement.executeUpdate).outcome k <;> rw [h] at runs <;>
      exact runs
  | execute keep =>
    exact does_keepOutcome (executes .execute rfl fun h => timesOut_keepOutcome h)
  | executeBatch =>
    have runs := executes .batch rfl id
    cases h : (onPrepared n q PreparedStatement.executeBatch).outcome k <;> rw [h] at runs <;>
      exact runs
  | bind index value declared => exact retains (PreparedStatement.retaining_bind index value declared)
  | addBatch => exact retains PreparedStatement.retaining_addBatch
  | clearParameters | clearBatch | setMaxRows | setTimeout =>
    exact does_changePrepared known rfl rfl
  | close => exact does_closePrepared known
  | drop => exact does_dropPrepared n k

theorem CursorCall.does_perform {cursor : Cursor} (known : k.cursors.get? n = some cursor)
    (c : CursorCall) :
    ReflTransGen (Does (k.permit (.cursor n c))) k.holding ((c.perform n cursor).final k).holding := by
  cases c with
  | advance => exact does_onCursor .advance known []
  | columns => exact does_onCursor .columns known []
  | find name => exact does_onCursor (.find name) known []
  | read index target => exact does_onCursor (.read index _ _) known []
  | readInZone index target zone => exact does_onCursor (.read index _ _) known []
  | readDecimal index scale => exact does_onCursor (.readDecimal index scale) known []
  | close => exact does_onCursor .close known []
  | drop => exact does_dropCursor n k []

theorem Client.does_call (k : Client) (c : Call) :
    ReflTransGen (Does (k.permit c)) k.holding (k.call c).2.holding := by
  have runs {ο α : Type} (object : Option ο) (x : ο → Action Client α)
      (hx : ∀ o, object = some o → ReflTransGen (Does (k.permit c)) k.holding ((x o).final k).holding) :
      ReflTransGen (Does (k.permit c)) k.holding (runOn object x k).2.holding := by
    rw [runOn_eq]
    cases object with
    | none => exact .refl
    | some o => exact hx o rfl
  cases c with
  | connection c => exact runs _ _ fun _ _ => c.does_perform k
  | coordinator c => exact runs _ _ fun _ _ => c.does_perform k
  | handle n c => exact runs _ _ fun tx known => c.does_perform known
  | statement n c => exact runs _ _ fun st known => c.does_perform known
  | prepared n c => exact runs _ _ fun q known => c.does_perform known
  | cursor n c => exact runs _ _ fun cursor known => c.does_perform known

namespace Client

theorem keeps_call {I : Holding → Prop} (k : Client) (c : Call)
    (step : ∀ h h', Does (k.permit c) h h' → I h → I h') (hk : I k.holding) :
    I (k.call c).2.holding := by
  have run := k.does_call c
  generalize k.holding = h, (k.call c).2.holding = h' at run hk
  induction run with
  | refl => exact hk
  | tail _ does ih => exact step _ _ does ih

theorem begins_cases {k : Client} {c : Call} (h : (k.permit c).begins) :
    (∃ keep, c = .connection (.transaction keep) ∧ k.session.closed = false) ∨
      ∃ keep, c = .coordinator (.transaction keep) := by
  cases c with
  | connection c =>
    cases c with
    | transaction keep => exact .inl ⟨keep, rfl, h⟩
    | _ => exact absurd h id
  | coordinator c =>
    cases c with
    | transaction keep => exact .inr ⟨keep, rfl⟩
    | _ => exact absurd h id
  | _ => exact absurd h id

end Client

end SqlClient
