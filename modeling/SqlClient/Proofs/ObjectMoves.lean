import SqlClient.Proofs.Moves
import SqlClient.Session.PreparedStatement

namespace SqlClient

open SqlClient.Action Relation Session

variable {kind : Request → Prop} {α : Type}

namespace Session

inductive Tidies : Session → Session → Prop
  | aside {r : Request} (timeout : Option Milliseconds) (s : Session) (concern : r.isAside) :
    Tidies s ((call r timeout).final s)
  | finish (tx : TransactionId) (s : Session) : Tidies s ((finish tx).final s)

theorem Tidies.moves {s t : Session} (h : Tidies s t) (every : ∀ r, kind r) :
    ReflTransGen (Moves kind) s t := by
  cases h with
  | aside timeout _ concern => exact moving_aside timeout (every _) concern s
  | finish tx => exact moving_finish (.every every) tx s

theorem moves_of_tidies {s t : Session} (h : ReflTransGen Tidies s t) (every : ∀ r, kind r) :
    ReflTransGen (Moves kind) s t := by
  induction h with
  | refl => exact .refl
  | tail _ last ih => exact ih.trans (last.moves every)

end Session

namespace Cursor

abbrev Moving (kind : Request → Prop) (x : Method α) : Prop :=
  x.Follows (Moves kind) Prod.snd

abbrev Tidying (x : Method α) : Prop :=
  x.Follows Tidies Prod.snd

section Follows

variable {R : Session → Session → Prop}

theorem follows_cursor : cursor.Follows R Prod.snd :=
  follows_of_final_eq fun _ => rfl

theorem follows_session : session.Follows R Prod.snd :=
  follows_of_final_eq fun _ => rfl

theorem follows_change (f : Cursor → Cursor) : (change f).Follows R Prod.snd :=
  follows_of_final_eq fun _ => rfl

end Follows

theorem final_close (c : Cursor) (s : Session) :
    close.final (c, s) =
      match c.resources with
      | none => (c, s)
      | some r => ({ c with resources := none, row := none },
          (Session.finish c.transaction).final ((release r).final s)) := by
  simp only [close, cursor, final_bind, outcome_bind, outcome_get, final_get, outcome_pure, final_pure]
  cases c.resources with
  | none => rfl
  | some r =>
    simp only [change, final_bind, outcome_modify, final_modify, outcome_attempt, final_attempt,
      final_onSecond, final_both]

theorem final_exhaust (c : Cursor) (s : Session) :
    exhaust.final (c, s) =
      if s.isAutocommit c.transaction then close.final ({ c with afterLast := true, row := none }, s)
      else ({ c with afterLast := true, row := none }, s) := by
  simp only [exhaust, change, session, cursor, final_bind, outcome_bind, outcome_modify, final_modify,
    outcome_get, final_get, outcome_pure, final_pure]
  split <;> rfl

theorem asking_release (r : CursorResources) :
    (release r).Follows (Asks fun r => r.givesBack = true) id := by
  have gives {r : Request} (hr : r.givesBack = true) :
      (Session.call r none).attempt.Follows (Asks fun r => r.givesBack = true) id :=
    Follows.attempt fun s => .single (.ask none s hr)
  have closes (disposed : Except Error Unit) :=
    (gives (r := .closeCursor r.result) rfl).bind fun closed => follows_both disposed closed
  unfold release
  split
  · exact (gives rfl).bind closes
  · exact (follows_pure _).bind closes

theorem tidying_close : Tidying close := by
  have releases (r : CursorResources) : (release r).Follows Tidies id := by
    intro s
    refine ReflTransGen.mono ?_ _ _ (asking_release r s)
    intro a b ask
    cases ask with
    | ask timeout _ hr => exact .aside timeout a (Request.isAside_of_givesBack hr)
  have finishes (tx : TransactionId) : (Session.finish tx).Follows Tidies id :=
    fun s => .single (.finish tx s)
  refine follows_cursor.bind fun c => ?_
  split
  · exact follows_pure _
  next r _ =>
    exact (follows_change _).bind fun _ => (releases r).onSecond.attempt.bind fun _ =>
      (finishes c.transaction).onSecond.attempt.bind fun _ => follows_both _ _

theorem tidying_exhaust : Tidying exhaust :=
  (follows_change _).bind fun _ => follows_session.bind fun s => follows_cursor.bind fun c => by
    split
    · exact tidying_close
    · exact follows_pure _

inductive Turns : Cursor × Session → Cursor × Session → Prop
  | change {c c' : Cursor} (transaction : c'.transaction = c.transaction)
      (resources : c'.resources = c.resources) (afterLast : c'.afterLast = c.afterLast)
      (s : Session) : Turns (c, s) (c', s)
  | read {r : Request} (hr : r.reads) (timeout : Option Milliseconds) (c : Cursor) (s : Session) :
    Turns (c, s) (c, (Session.call r timeout).final s)
  | exhaust (c : Cursor) (s : Session) : Turns (c, s) (exhaust.final (c, s))
  | close (c : Cursor) (s : Session) : Turns (c, s) (close.final (c, s))

inductive Looks : Cursor × Session → Cursor × Session → Prop
  | note (columns : Option (List Column)) (wasNull : Bool) (c : Cursor) (s : Session) :
    Looks (c, s) ({ c with columns := columns, wasNull := wasNull }, s)
  | ask {r : Request} (hr : r.looks) (timeout : Option Milliseconds) (c : Cursor) (s : Session) :
    Looks (c, s) (c, (Session.call r timeout).final s)

theorem Looks.turns {σ σ' : Cursor × Session} (h : Looks σ σ') : Turns σ σ' := by
  cases h with
  | note columns wasNull c s =>
    exact @Turns.change c { c with columns := columns, wasNull := wasNull } rfl rfl rfl s
  | ask hr timeout c s => exact .read (Request.reads_of_looks hr) timeout c s

theorem Turns.tidies {σ σ' : Cursor × Session} (h : Turns σ σ') : ReflTransGen Tidies σ.2 σ'.2 := by
  cases h with
  | change => exact .refl
  | read hr timeout _ s => exact .single (.aside timeout s (Request.isAside_of_reads hr))
  | exhaust c s => exact tidying_exhaust (c, s)
  | close c s => exact tidying_close (c, s)

abbrev Turning (x : Method α) : Prop :=
  x.Follows Turns id

abbrev Looking (x : Method α) : Prop :=
  x.Follows Looks id

theorem turning_of_looking {x : Method α} (hx : Looking x) : Turning x :=
  fun σ => ReflTransGen.mono (fun _ _ looks => looks.turns) _ _ (hx σ)

section Looking

theorem looking_cursor : Looking cursor :=
  follows_of_final_eq fun _ => rfl

theorem looking_session : Looking session :=
  follows_of_final_eq fun _ => rfl

theorem looking_openResources : Looking openResources :=
  looking_cursor.bind fun c => by
    cases c.resources with
    | some r => exact follows_pure _
    | none => exact follows_throw _

theorem looking_call {r : Request} (hr : r.looks) : Looking (call r) := by
  refine looking_cursor.bind fun c σ => ?_
  rw [final_onSecond]
  exact .single (.ask hr c.limits.timeout σ.1 σ.2)

theorem looking_knownColumns : Looking knownColumns := by
  have notes (columns : List Column) : Looking (change fun c => { c with columns := some columns }) :=
    fun σ => .single (.note (some columns) σ.1.wasNull σ.1 σ.2)
  refine looking_cursor.bind fun c => ?_
  cases c.columns with
  | some columns => exact follows_pure _
  | none =>
    exact looking_openResources.bind fun r => (looking_call rfl).bind fun columns =>
      (notes columns).bind fun _ => follows_pure _

theorem looking_withChannel (ctx : ConversionContext) (v : WireValue) (target : Target) :
    Looking (withChannel ctx v target) := by
  unfold withChannel
  split
  · exact follows_pure _
  · refine looking_cursor.bind fun c => ?_
    split
    · exact follows_pure _
    · exact (looking_call rfl).attempt.bind fun content => follows_pure _

theorem looking_read (index : Nat) (reader : ColumnReader) (asked : ReadRequest) :
    Looking (read index reader asked) := by
  have notes (wasNull : Bool) : Looking (change fun c => { c with wasNull := wasNull }) :=
    fun σ => .single (.note σ.1.columns wasNull σ.1 σ.2)
  refine looking_cursor.bind fun _ => looking_session.bind fun _ => looking_cursor.bind fun _ =>
    (follows_ofExcept _).bind fun _ => (looking_withChannel _ _ _).bind fun ctx => ?_
  split
  · exact follows_throw _
  · exact (notes _).bind fun _ => follows_ofExcept _

theorem looking_readDecimal (index scale : Nat) : Looking (readDecimal index scale) :=
  (looking_read index _ _).bind fun _ => follows_pure _

theorem looking_find (name : String) : Looking (find name) := by
  refine looking_knownColumns.bind fun columns => ?_
  split
  · exact follows_pure _
  · exact follows_throw _

end Looking

theorem turning_cursor : Turning cursor :=
  turning_of_looking looking_cursor

theorem turning_session : Turning session :=
  turning_of_looking looking_session

theorem turning_change {f : Cursor → Cursor} (transaction : ∀ c, (f c).transaction = c.transaction)
    (resources : ∀ c, (f c).resources = c.resources)
    (afterLast : ∀ c, (f c).afterLast = c.afterLast) : Turning (change f) :=
  fun σ => .single (.change (transaction σ.1) (resources σ.1) (afterLast σ.1) σ.2)

theorem turning_openResources : Turning openResources :=
  turning_of_looking looking_openResources

theorem turning_close : Turning close :=
  fun σ => .single (.close σ.1 σ.2)

theorem turning_exhaust : Turning exhaust :=
  fun σ => .single (.exhaust σ.1 σ.2)

theorem turning_call {r : Request} (hr : r.reads) : Turning (call r) := by
  refine turning_cursor.bind fun c σ => ?_
  rw [final_onSecond]
  exact .single (.read hr c.limits.timeout σ.1 σ.2)

theorem turning_fetch (r : CursorResources) : Turning (fetch r) :=
  turning_cursor.bind fun c => by
    split
    · exact follows_pure _
    · exact turning_call rfl

theorem turning_advance : Turning advance :=
  turning_cursor.bind fun c => by
    split
    · exact follows_pure _
    · refine turning_openResources.bind fun r => turning_session.bind fun s =>
        turning_cursor.bind fun c => ?_
      dsimp only
      split
      · exact follows_throw_bind _ _
      · refine (turning_of_looking looking_knownColumns).bind fun _ => (turning_fetch r).bind fun row => ?_
        cases row with
        | some row =>
          exact Follows.bind (turning_change (fun _ => rfl) (fun _ => rfl) fun _ => rfl) fun _ =>
            follows_pure true
        | none => exact turning_exhaust.bind fun _ => follows_pure false

theorem tidying_of_turning {x : Method α} (hx : Turning x) : Tidying x := by
  have along {σ σ' : Cursor × Session} (run : ReflTransGen Turns σ σ') :
      ReflTransGen Tidies σ.2 σ'.2 := by
    induction run with
    | refl => exact .refl
    | tail _ turn ih => exact ih.trans turn.tidies
  exact fun σ => along (hx σ)

theorem moving_of_tidying {x : Method α} (hx : Tidying x) (every : ∀ r, kind r) : Moving kind x :=
  fun s => moves_of_tidies (hx s) every

end Cursor

namespace Session

theorem moving_query (controls : Request.Controls kind) (limits : StatementLimits)
    (prepared : Prepared) (owned : Bool) (parameters : List Parameter)
    (hq : ∀ tx, kind (.query tx prepared.id parameters))
    (hd : owned = true → kind (.dispose prepared.id)) :
    Moving kind (query limits prepared owned parameters) := by
  have gives {β : Type} {x : Action Session β} (hx : Moving kind x) :
      Moving kind (if owned then dispose prepared >>= fun _ => x else x) := by
    split
    next h => exact (moving_aside none (hd h) rfl).bestEffort.bind fun _ => hx
    next => exact hx
  intro s
  have begins := moving_getOrBegin controls.begin s
  simp only [query, final_bind, outcome_attempt, final_attempt]
  cases h : getOrBegin.outcome s with
  | error e => exact begins.trans (gives (follows_throw e) _)
  | ok tx =>
    have queries := begins.tail (.query limits.timeout (hq tx) (live_of_getOrBegin h))
    simp only [final_bind, outcome_attempt, final_attempt]
    split
    · exact queries
    next e _ =>
      exact queries.trans (gives ((moving_abortAfter controls tx e).bind fun _ => follows_throw e) _)

theorem moving_ensureOpen : Moving kind ensureOpen :=
  follows_get.bind fun s => by
    split
    · exact follows_throw _
    · exact follows_pure _

theorem moving_completeOpen (controls : Request.Controls kind) (how : Completion) :
    Moving kind (completeOpen how) :=
  moving_ensureOpen.bind fun _ => moving_completeLive controls how

theorem moving_transaction (controls : Request.Controls kind) : Moving kind transaction :=
  moving_ensureOpen.bind fun _ => moving_getOrBegin controls.begin

theorem moving_close (free : ∀ r, kind r) : Moving kind close :=
  follows_get.bind fun s => by
    split
    · exact follows_pure _
    · exact (moving_setUp free Session.autocommit Session.settings fun _ => true).bind fun _ =>
        moving_completeTaken (.every free) .rollback

end Session

namespace Statement

theorem outcome_executeBatch (s : Statement × Session) :
    executeBatch.outcome s = (s.1.executeAll s.1.batch).outcome s.2 := by
  simp only [executeBatch, outcome_bind, outcome_get, final_get, outcome_modify, final_modify,
    outcome_onSecond]

theorem final_executeBatch (s : Statement × Session) :
    executeBatch.final s = (s.1.clearBatch, (s.1.executeAll s.1.batch).final s.2) := by
  simp only [executeBatch, final_bind, outcome_get, final_get, outcome_modify, final_modify,
    final_onSecond]

theorem final_ensureOpen (st : Statement) (s : Session) : st.ensureOpen.final s = s := by
  unfold ensureOpen Session.ensureOpen
  split
  · rfl
  · simp only [final_bind, outcome_get, final_get]
    split <;> rfl

theorem moving_ensureOpen (st : Statement) : Session.Moving kind st.ensureOpen :=
  follows_of_final_eq st.final_ensureOpen

variable (every : ∀ r, kind r)

include every

theorem working_withPrepared {tx : TransactionId} (st : Statement) (sql : String)
    {work : Prepared → Action Session α} (hw : ∀ prepared, Working kind tx (work prepared)) :
    Working kind tx (st.withPrepared sql work) :=
  (working_aside _ tx (every _) rfl).bind fun prepared => (hw prepared).attempt.bind fun _ =>
    (working_aside _ tx (every _) rfl).bestEffort.bind fun _ => follows_ofExcept _

theorem working_executeOnly (st : Statement) (tx : TransactionId) (prepared : Prepared) :
    Working kind tx (st.executeOnly tx prepared) := by
  unfold executeOnly
  split
  · exact follows_throw _
  · exact working_execute _ tx prepared [] (every _)

theorem moving_executeQuery (st : Statement) (sql : String) :
    Session.Moving kind (st.executeQuery sql) :=
  st.moving_ensureOpen.bind fun _ => (moving_aside _ (every _) rfl).bind fun prepared => by
    split
    · exact moving_query (.every every) _ prepared true [] (fun _ => every _) fun _ => every _
    · exact (moving_dispose (fun _ => every _) prepared).bind fun _ => follows_throw _

theorem moving_executeUpdate (st : Statement) (sql : String) :
    Session.Moving kind (st.executeUpdate sql) :=
  st.moving_ensureOpen.bind fun _ => moving_inTransaction (.every every) fun tx =>
    working_withPrepared every st sql (working_executeOnly every st tx)

theorem moving_execute (st : Statement) (sql : String) : Session.Moving kind (st.execute sql) :=
  st.moving_ensureOpen.bind fun _ => (moving_aside _ (every _) rfl).bind fun prepared => by
    split
    · exact (moving_query (.every every) _ prepared true [] (fun _ => every _) fun _ =>
        every _).bind fun c => follows_pure _
    · exact (moving_inTransaction (.every every) fun tx =>
        working_execute _ tx prepared [] (every _)).attempt.bind fun _ =>
          (moving_dispose (fun _ => every _) prepared).bind fun _ =>
            (follows_ofExcept _).bind fun count => follows_pure _

theorem moving_executeAll (st : Statement) (batch : List String) :
    Session.Moving kind (st.executeAll batch) :=
  st.moving_ensureOpen.bind fun _ => by
    split
    · exact follows_pure _
    · exact moving_inTransaction (.every every) fun tx => follows_mapM fun sql _ =>
        working_withPrepared every st sql fun prepared => working_execute _ tx prepared [] (every _)

theorem moving_executeBatch :
    executeBatch.Follows (Moves kind) (Prod.snd : Statement × Session → Session) := by
  intro s
  rw [final_executeBatch]
  exact moving_executeAll every _ _ s.2

end Statement

namespace PreparedStatement

inductive Moves (kind : Request → Prop) :
    PreparedStatement × Session → PreparedStatement × Session → Prop
  | change {p p' : PreparedStatement} (s : Session) (sql : p'.sql = p.sql) (sent : p'.sent = p.sent) :
    Moves kind (p, s) (p', s)
  | send {β : Type} {x : Action Session β} (hx : Session.Moving kind x)
      (σ : PreparedStatement × Session) : Moves kind σ ((send x).final σ)

abbrev Moving (kind : Request → Prop) (x : Method α) : Prop :=
  x.Follows (Moves kind) id

theorem final_send (x : Action Session α) (p : PreparedStatement) (s : Session) :
    (send x).final (p, s) =
      ({ p with sent := p.sent ++ (x.final s).exchanges.drop s.exchanges.length }, x.final s) :=
  final_zoom _ _ x (p, s)

theorem outcome_send (x : Action Session α) (σ : PreparedStatement × Session) :
    (send x).outcome σ = x.outcome σ.2 :=
  outcome_zoom _ _ x σ

theorem moves_session {σ σ' : PreparedStatement × Session} (h : ReflTransGen (Moves kind) σ σ') :
    ReflTransGen (Session.Moves kind) σ.2 σ'.2 := by
  induction h with
  | refl => exact .refl
  | tail _ move ih =>
    cases move with
    | change => exact ih
    | send hx =>
      rw [final_send]
      exact ih.trans (hx _)

theorem moving_statement : Moving kind statement :=
  follows_of_final_eq fun _ => rfl

theorem moving_change {f : PreparedStatement → PreparedStatement} (sql : ∀ p, (f p).sql = p.sql)
    (sent : ∀ p, (f p).sent = p.sent) : Moving kind (change f) :=
  fun σ => .single (.change σ.2 (sql σ.1) (sent σ.1))

theorem moving_send {x : Action Session α} (hx : Session.Moving kind x) : Moving kind (send x) :=
  fun σ => .single (.send hx σ)

theorem final_ensureOpen (σ : PreparedStatement × Session) : ensureOpen.final σ = σ := by
  simp only [ensureOpen, Session.ensureOpen, statement, final_bind, outcome_bind, outcome_get, final_get,
    outcome_pure, final_pure]
  split
  · rfl
  · rw [final_onSecond]
    simp only [final_bind, outcome_get, final_get]
    split <;> rfl

theorem moving_ensureOpen : Moving kind ensureOpen :=
  follows_of_final_eq final_ensureOpen

theorem moving_bind (index : Nat) (value : HostValue) (declared : Option Atom) :
    Moving kind (bind index value declared) :=
  moving_ensureOpen.bind fun _ => moving_statement.bind fun _ =>
    Follows.bind (moving_change (fun _ => rfl) fun _ => rfl) fun _ => follows_ofExcept _

theorem moving_boundParameters : Moving kind boundParameters :=
  follows_get.bind fun _ => follows_ofExcept _

theorem moving_addBatch : Moving kind addBatch := by
  have queues : Moving kind (do
      let parameters ← boundParameters
      change fun p => { p with batch := p.batch ++ [parameters] }) :=
    moving_boundParameters.bind fun _ => moving_change (fun _ => rfl) fun _ => rfl
  refine moving_ensureOpen.bind fun _ => moving_statement.bind fun _ => (follows_ofExcept _).bind
    fun _ => moving_statement.bind fun p => ?_
  dsimp only
  split
  · split
    · exact follows_throw_bind _ _
    · exact queues
  · exact Follows.bind (moving_change (fun _ => rfl) fun _ => rfl) fun _ => queues

theorem moving_update (controls : Request.Controls kind) (prepared : Prepared)
    (parameters : List Parameter) (hr : ∀ tx, kind (.execute tx prepared.id parameters)) :
    Moving kind (update prepared parameters) :=
  moving_statement.bind fun p => moving_send (moving_inTransaction controls fun tx =>
    working_execute p.limits tx prepared parameters (hr tx))

theorem moving_query (controls : Request.Controls kind) (prepared : Prepared)
    (parameters : List Parameter) (hr : ∀ tx, kind (.query tx prepared.id parameters)) :
    Moving kind (query prepared parameters) :=
  moving_statement.bind fun p =>
    moving_send (Session.moving_query controls p.limits prepared false parameters hr (by simp))

theorem moving_executeAll (controls : Request.Controls kind) (prepared : Prepared)
    (batch : List (List Parameter))
    (hr : ∀ tx, ∀ parameters ∈ batch, kind (.execute tx prepared.id parameters)) :
    Moving kind (executeAll prepared batch) :=
  moving_statement.bind fun p => moving_send (moving_inTransaction controls fun tx =>
    follows_mapM fun parameters h =>
      working_execute p.limits tx prepared parameters (hr tx parameters h))

theorem moving_close (hd : ∀ id, kind (.dispose id)) : Moving kind close :=
  moving_statement.bind fun p => by
    split
    · exact follows_pure _
    · refine Follows.bind (moving_change (fun _ => rfl) fun _ => rfl) fun _ => ?_
      split
      · exact moving_send (moving_dispose hd _)
      · exact follows_pure _

section Ready

variable (hp : ∀ sql placeholders, kind (.prepare sql placeholders)) (hd : ∀ id, kind (.dispose id))

include hp hd

theorem moving_prepareAgain : Moving kind prepareAgain := by
  have prepares (placeholders : List Placeholder) : Moving kind (do
      let p ← statement
      let prepared ← send (Session.prepare p.limits p.sql placeholders)
      change fun p => { p with remote := some prepared }
      return prepared) :=
    moving_statement.bind fun p => (moving_send (moving_aside _ (hp _ _) rfl)).bind fun prepared =>
      Follows.bind (moving_change (fun _ => rfl) fun _ => rfl) fun _ => follows_pure prepared
  refine moving_statement.bind fun _ => (follows_ofExcept _).bind fun placeholders =>
    moving_statement.bind fun p => Follows.bind (moving_change (fun _ => rfl) fun _ => rfl) fun _ => ?_
  dsimp only
  split
  · exact (moving_send (moving_dispose hd _)).bind fun _ => prepares placeholders
  · exact prepares placeholders

theorem moving_ensurePrepared : Moving kind ensurePrepared := by
  refine moving_statement.bind fun p => ?_
  refine Follows.bind (moving_change (fun _ => rfl) fun _ => rfl) fun _ =>
    moving_statement.bind fun p' => ?_
  split
  · split
    · exact moving_prepareAgain hp hd
    · exact follows_pure _
  · exact moving_prepareAgain hp hd

theorem moving_ready : Moving kind ready :=
  moving_ensureOpen.bind fun _ => moving_boundParameters.bind fun _ =>
    (moving_ensurePrepared hp hd).bind fun _ => follows_pure _

end Ready

variable (every : ∀ r, kind r)

include every

theorem moving_executeQuery : Moving kind executeQuery := by
  refine (moving_ready (fun _ _ => every _) fun _ => every _).bind fun ready => ?_
  dsimp only
  split
  · exact moving_query (.every every) _ _ fun _ => every _
  · exact follows_throw _

theorem moving_executeUpdate : Moving kind executeUpdate := by
  refine (moving_ready (fun _ _ => every _) fun _ => every _).bind fun ready => ?_
  dsimp only
  split
  · exact follows_throw _
  · exact moving_update (.every every) _ _ fun _ => every _

theorem moving_execute : Moving kind execute := by
  refine (moving_ready (fun _ _ => every _) fun _ => every _).bind fun ready => ?_
  dsimp only
  split
  · exact (moving_query (.every every) _ _ fun _ => every _).bind fun _ => follows_pure _
  · exact (moving_update (.every every) _ _ fun _ => every _).bind fun _ => follows_pure _

theorem moving_executeBatch : Moving kind executeBatch := by
  refine moving_ensureOpen.bind fun _ => moving_statement.bind fun p =>
    Follows.bind (moving_change (fun _ => rfl) fun _ => rfl) fun _ => ?_
  split
  · exact follows_pure _
  · refine (follows_ofExcept _).bind fun placeholders => ?_
    dsimp only
    split
    · exact follows_throw_bind _ _
    · exact (moving_ensurePrepared (fun _ _ => every _) fun _ => every _).bind fun prepared =>
        moving_executeAll (.every every) prepared p.batch fun _ _ _ => every _

end PreparedStatement

end SqlClient
