import SqlClient.Proofs.Exchanges

namespace SqlClient

open SqlClient.Action Relation Session

theorem Server.Attempts.cursors_of_looks {s t : Server} {q : Request} (h : s.Attempts q t)
    (hq : q.looks) : t.cursors = s.cursors := by
  rcases h with ⟨failures, rfl⟩ | ⟨a, h⟩
  · rfl
  · cases h <;> first | rfl | cases hq

namespace Cursor

variable {c : Cursor} {s t : Session} {r : CursorResources} {σ σ' : Cursor × Session}

structure SamePlace (c c' : Cursor) : Prop where
  transaction : c'.transaction = c.transaction
  resources : c'.resources = c.resources
  row : c'.row = c.row
  rowNumber : c'.rowNumber = c.rowNumber
  limits : c'.limits = c.limits
  afterLast : c'.afterLast = c.afterLast

theorem SamePlace.refl (c : Cursor) : SamePlace c c :=
  ⟨rfl, rfl, rfl, rfl, rfl, rfl⟩

theorem SamePlace.isCapped {c' : Cursor} (h : SamePlace c c') : c'.isCapped = c.isCapped := by
  simp only [Cursor.isCapped, h.limits, h.rowNumber]

structure Stays (σ σ' : Cursor × Session) : Prop where
  cursor : SamePlace σ.1 σ'.1
  handles : σ'.2.handles = σ.2.handles
  cursors : σ'.2.server.cursors = σ.2.server.cursors

theorem Looks.stays (h : ReflTransGen Looks σ σ') : Stays σ σ' := by
  induction h with
  | refl => exact ⟨.refl _, rfl, rfl⟩
  | tail _ looks ih =>
    obtain ⟨place, handles, cursors⟩ := ih
    cases looks with
    | note =>
      obtain ⟨transaction, resources, row, rowNumber, limits, afterLast⟩ := place
      exact ⟨⟨transaction, resources, row, rowNumber, limits, afterLast⟩, handles, cursors⟩
    | ask hr timeout _ t =>
      have same := (call_attempts _ timeout t).cursors_of_looks hr
      exact ⟨place, by rw [final_call]; exact handles, same.trans cursors⟩

inductive Described (r : CursorResources) (c : Cursor) (s : Session) : Cursor → Session → Prop
  | before {columns : List Column} (known : c.columns = some columns) : Described r c s c s
  | now {columns : List Column} (unknown : c.columns = none)
      (describes : (Session.call (.describe r.result) c.limits.timeout).outcome s = .ok columns) :
    Described r c s { c with columns := some columns }
      ((Session.call (.describe r.result) c.limits.timeout).final s)

/-- All that an advance can come to, with what it is answered. -/
inductive Advances (c : Cursor) (s : Session) : Except Error Bool → Cursor × Session → Prop
  | past (gone : c.afterLast = true) : Advances c s (.ok false) (c, s)
  | refused {what : Resource} (more : c.afterLast = false)
      (closed : c.resources = none ∨ s.isClosed c.transaction = true) :
    Advances c s (.error (.closed what)) (c, s)
  | undescribed {r : CursorResources} {e : Error} (more : c.afterLast = false)
      (held : c.resources = some r)
      (fails : (Session.call (.describe r.result) c.limits.timeout).outcome s = .error e) :
    Advances c s (.error e) (c, (Session.call (.describe r.result) c.limits.timeout).final s)
  | unfetched {r : CursorResources} {c' : Cursor} {t : Session} {e : Error}
      (more : c.afterLast = false) (held : c.resources = some r) (described : Described r c s c' t)
      (below : c.isCapped = false)
      (fails : (Session.call (.fetch r.result) c.limits.timeout).outcome t = .error e) :
    Advances c s (.error e) (c', (Session.call (.fetch r.result) c.limits.timeout).final t)
  | delivered {r : CursorResources} {c' : Cursor} {t : Session} {row : Row}
      (more : c.afterLast = false) (held : c.resources = some r) (described : Described r c s c' t)
      (below : c.isCapped = false)
      (fetches : (Session.call (.fetch r.result) c.limits.timeout).outcome t = .ok (some row)) :
    Advances c s (.ok true) ({ c' with row := some row, rowNumber := c'.rowNumber + 1 },
      (Session.call (.fetch r.result) c.limits.timeout).final t)
  | capped {r : CursorResources} {c' : Cursor} {t : Session} (more : c.afterLast = false)
      (held : c.resources = some r) (described : Described r c s c' t) (reached : c.isCapped = true) :
    Advances c s ((exhaust.outcome (c', t)).map fun _ => false) (exhaust.final (c', t))
  | exhausted {r : CursorResources} {c' : Cursor} {t : Session} (more : c.afterLast = false)
      (held : c.resources = some r) (described : Described r c s c' t) (below : c.isCapped = false)
      (fetches : (Session.call (.fetch r.result) c.limits.timeout).outcome t = .ok none) :
    Advances c s
      ((exhaust.outcome (c', (Session.call (.fetch r.result) c.limits.timeout).final t)).map
        fun _ => false)
      (exhaust.final (c', (Session.call (.fetch r.result) c.limits.timeout).final t))

theorem Described.stays {c' : Cursor} (h : Described r c s c' t) : Stays (c, s) (c', t) := by
  cases h with
  | before => exact ⟨.refl _, rfl, rfl⟩
  | now =>
    exact ⟨⟨rfl, rfl, rfl, rfl, rfl, rfl⟩, by rw [final_call],
      (call_attempts _ _ s).cursors_of_looks rfl⟩

section Steps

variable (c : Cursor) (s : Session)

theorem outcome_call (q : Request) :
    (call q).outcome (c, s) = (Session.call q c.limits.timeout).outcome s := by
  simp only [call, cursor, outcome_bind, outcome_get, final_get, outcome_pure, final_bind, final_pure,
    outcome_onSecond]

theorem final_call (q : Request) :
    (call q).final (c, s) = (c, (Session.call q c.limits.timeout).final s) := by
  simp only [call, cursor, outcome_bind, outcome_get, final_get, outcome_pure, final_bind, final_pure,
    final_onSecond]

theorem knownColumns_cases (held : c.resources = some r) :
    (∃ e, knownColumns.outcome (c, s) = .error e ∧
        (Session.call (.describe r.result) c.limits.timeout).outcome s = .error e ∧
        knownColumns.final (c, s) =
          (c, (Session.call (.describe r.result) c.limits.timeout).final s)) ∨
      ∃ columns c' t, knownColumns.outcome (c, s) = .ok columns ∧
        knownColumns.final (c, s) = (c', t) ∧ Described r c s c' t := by
  cases known : c.columns with
  | some columns =>
    refine .inr ⟨columns, c, s, ?_, ?_, .before known⟩ <;>
      simp only [knownColumns, cursor, outcome_bind, final_bind, outcome_get, final_get, outcome_pure,
        final_pure, known]
  | none =>
    have opens : openResources.outcome (c, s) = .ok r ∧ openResources.final (c, s) = (c, s) := by
      constructor <;>
        simp only [openResources, cursor, outcome_bind, final_bind, outcome_get, final_get, outcome_pure,
          final_pure, held]
    cases describes : (Session.call (.describe r.result) c.limits.timeout).outcome s with
    | error e =>
      refine .inl ⟨e, ?_, rfl, ?_⟩ <;>
        simp only [knownColumns, cursor, outcome_bind, final_bind, outcome_get, final_get, outcome_pure,
          final_pure, known, opens, outcome_call c s (.describe _), final_call c s (.describe _),
          describes]
    | ok columns =>
      refine .inr ⟨columns, _, _, ?_, ?_, .now known describes⟩ <;>
        simp only [knownColumns, cursor, change, outcome_bind, final_bind, outcome_get, final_get,
          outcome_pure, final_pure, known, opens, outcome_call c s (.describe _),
          final_call c s (.describe _), describes, outcome_modify,
          final_modify]

theorem outcome_fetch (r : CursorResources) :
    (fetch r).outcome (c, s) =
      if c.isCapped then .ok none
      else (Session.call (.fetch r.result) c.limits.timeout).outcome s := by
  simp only [fetch, cursor, outcome_bind, final_bind, outcome_get, final_get, outcome_pure, final_pure]
  split
  · rfl
  · exact outcome_call c s (.fetch r.result)

theorem final_fetch (r : CursorResources) :
    (fetch r).final (c, s) =
      if c.isCapped then (c, s)
      else (c, (Session.call (.fetch r.result) c.limits.timeout).final s) := by
  simp only [fetch, cursor, outcome_bind, final_bind, outcome_get, final_get, outcome_pure, final_pure]
  split
  · rfl
  · exact final_call c s (.fetch r.result)

end Steps

theorem advance_past (gone : c.afterLast = true) :
    advance.outcome (c, s) = .ok false ∧ advance.final (c, s) = (c, s) := by
  constructor <;>
    simp only [advance, cursor, outcome_bind, final_bind, outcome_get, final_get, outcome_pure,
      final_pure, gone, ↓reduceIte]

structure Proceeds (r : CursorResources) (c : Cursor) (s : Session) : Prop where
  more : c.afterLast = false
  held : c.resources = some r
  goesOn : s.isClosed c.transaction = false

theorem Proceeds.opens (h : Proceeds r c s) :
    openResources.outcome (c, s) = .ok r ∧ openResources.final (c, s) = (c, s) := by
  constructor <;>
    simp only [openResources, cursor, outcome_bind, final_bind, outcome_get, final_get, outcome_pure,
      final_pure, h.held]

theorem Proceeds.undescribed (h : Proceeds r c s) {e : Error}
    (fails : knownColumns.outcome (c, s) = .error e) :
    advance.outcome (c, s) = .error e ∧ advance.final (c, s) = knownColumns.final (c, s) := by
  constructor <;>
    simp only [advance, cursor, session, outcome_bind, final_bind, outcome_get, final_get, outcome_pure,
      final_pure, h.more, Bool.false_eq_true, ↓reduceIte, h.opens, h.goesOn, fails]

theorem Proceeds.unfetched (h : Proceeds r c s) {columns : List Column} {e : Error}
    (known : knownColumns.outcome (c, s) = .ok columns)
    (fails : (fetch r).outcome (knownColumns.final (c, s)) = .error e) :
    advance.outcome (c, s) = .error e ∧
      advance.final (c, s) = (fetch r).final (knownColumns.final (c, s)) := by
  constructor <;>
    simp only [advance, cursor, session, outcome_bind, final_bind, outcome_get, final_get, outcome_pure,
      final_pure, h.more, Bool.false_eq_true, ↓reduceIte, h.opens, h.goesOn, known, fails]

theorem Proceeds.delivered (h : Proceeds r c s) {columns : List Column} {row : Row} {σ : Cursor × Session}
    (known : knownColumns.outcome (c, s) = .ok columns)
    (fetched : (fetch r).outcome (knownColumns.final (c, s)) = .ok (some row))
    (final : (fetch r).final (knownColumns.final (c, s)) = σ) :
    advance.outcome (c, s) = .ok true ∧
      advance.final (c, s) = ({ σ.1 with row := some row, rowNumber := σ.1.rowNumber + 1 }, σ.2) := by
  constructor <;>
    simp only [advance, cursor, session, change, outcome_bind, final_bind, outcome_get, final_get,
      outcome_pure, final_pure, outcome_modify, final_modify, h.more, Bool.false_eq_true, ↓reduceIte,
      h.opens, h.goesOn, known, fetched, final]

theorem Proceeds.exhausted (h : Proceeds r c s) {columns : List Column} {σ : Cursor × Session}
    (known : knownColumns.outcome (c, s) = .ok columns)
    (fetched : (fetch r).outcome (knownColumns.final (c, s)) = .ok none)
    (final : (fetch r).final (knownColumns.final (c, s)) = σ) :
    advance.outcome (c, s) = (exhaust.outcome σ).map (fun _ => false) ∧
      advance.final (c, s) = exhaust.final σ := by
  constructor <;>
    simp only [advance, cursor, session, outcome_bind, final_bind, outcome_get, final_get,
      outcome_pure, final_pure, h.more, Bool.false_eq_true, ↓reduceIte,
      h.opens, h.goesOn, known, fetched, final] <;>
    cases exhaust.outcome σ <;> rfl

theorem advance_refused (more : c.afterLast = false)
    (closed : c.resources = none ∨ s.isClosed c.transaction = true) :
    ∃ what, advance.outcome (c, s) = .error (.closed what) ∧ advance.final (c, s) = (c, s) := by
  cases held : c.resources with
  | none =>
    refine ⟨.cursor, ?_, ?_⟩ <;>
      simp only [advance, openResources, cursor, outcome_bind, final_bind, outcome_get, final_get,
        outcome_pure, final_pure, outcome_throw, final_throw, more, Bool.false_eq_true, ↓reduceIte, held]
  | some r =>
    have gone : s.isClosed c.transaction = true := by
      rcases closed with none | gone
      · cases none.symm.trans held
      · exact gone
    refine ⟨.cursorTransaction, ?_, ?_⟩ <;>
      simp only [advance, openResources, cursor, session, outcome_bind, final_bind, outcome_get,
        final_get, outcome_pure, final_pure, outcome_throw, final_throw, more, Bool.false_eq_true,
        ↓reduceIte, held, gone]

theorem Proceeds.advances (h : Proceeds r c s) :
    Advances c s (advance.outcome (c, s)) (advance.final (c, s)) := by
  rcases knownColumns_cases c s h.held with
    ⟨e, undescribed, fails, final⟩ | ⟨columns, c', t, known, arrives, described⟩
  · obtain ⟨outcome, final'⟩ := h.undescribed undescribed
    rw [outcome, final', final]
    exact .undescribed h.more h.held fails
  · have place := described.stays.cursor
    have fetches := outcome_fetch c' t r
    have fetched := final_fetch c' t r
    rw [← arrives, place.isCapped, place.limits] at fetches fetched
    cases reached : c.isCapped with
    | true =>
      rw [reached, if_pos rfl] at fetches fetched
      obtain ⟨outcome, final⟩ := h.exhausted known fetches fetched
      rw [outcome, final, arrives]
      exact .capped h.more h.held described reached
    | false =>
      rw [reached, if_neg Bool.false_ne_true] at fetches fetched
      cases answer : (Session.call (.fetch r.result) c.limits.timeout).outcome t with
      | error e =>
        obtain ⟨outcome, final⟩ := h.unfetched known (fetches.trans answer)
        rw [outcome, final, fetched]
        exact .unfetched h.more h.held described reached answer
      | ok row =>
        cases row with
        | some row =>
          obtain ⟨outcome, final⟩ := h.delivered known (fetches.trans answer) fetched
          rw [outcome, final]
          exact .delivered h.more h.held described reached answer
        | none =>
          obtain ⟨outcome, final⟩ := h.exhausted known (fetches.trans answer) fetched
          rw [outcome, final]
          exact .exhausted h.more h.held described reached answer

theorem advances (c : Cursor) (s : Session) :
    Advances c s (advance.outcome (c, s)) (advance.final (c, s)) := by
  cases more : c.afterLast with
  | true =>
    obtain ⟨outcome, final⟩ := @advance_past c s more
    rw [outcome, final]
    exact .past more
  | false =>
    by_cases closed : c.resources = none ∨ s.isClosed c.transaction = true
    · obtain ⟨what, outcome, final⟩ := advance_refused more closed
      rw [outcome, final]
      exact .refused more closed
    · obtain ⟨held, goesOn⟩ := not_or.mp closed
      obtain ⟨r, held⟩ := Option.ne_none_iff_exists'.mp held
      exact Proceeds.advances ⟨more, held, eq_false_of_ne_true goesOn⟩

theorem afterLast_exhaust (c : Cursor) (s : Session) : (exhaust.final (c, s)).1.afterLast = true := by
  rw [final_exhaust]
  split
  · rw [final_close]
    cases c.resources <;> rfl
  · rfl

theorem Advances.afterLast {o : Except Error Bool} (h : Advances c s o σ) (ends : o = .ok false) :
    σ.1.afterLast = true := by
  cases h with
  | past gone => exact gone
  | capped | exhausted => exact afterLast_exhaust _ _
  | refused | undescribed | unfetched | delivered => cases ends

end Cursor

namespace Cursor

variable {α : Type} {c : Cursor} {s : Session}

def Rests (s : Session) (σ : Cursor × Session) : Prop :=
  σ.1.isClosed = true ∧ σ.2 = s

abbrev Resting (x : Method α) : Prop :=
  ∀ s, Ensures (Rests s) x (fun _ => Rests s) (Rests s)

theorem ensures_cursor (s : Session) :
    Ensures (Rests s) cursor (fun c σ => c.isClosed = true ∧ Rests s σ) (Rests s) := by
  refine ensures_of_final_eq (fun _ => rfl) (fun c σ found rests => ?_) fun _ rests => rests
  cases found
  exact ⟨rests.1, rests⟩

theorem ensures_openResources (s : Session) :
    Ensures (Rests s) openResources (fun _ _ => False) (Rests s) := by
  refine (ensures_cursor s).bind fun c => ?_
  cases held : c.resources with
  | none => exact ensures_throw fun _ h => h.2
  | some r =>
    refine ensures_pure fun _ h => ?_
    have closed : c.resources = none := Option.isNone_iff_eq_none.mp h.1
    cases closed.symm.trans held

theorem resting_change {f : Cursor → Cursor} (resources : ∀ c, (f c).resources = c.resources) :
    Resting (change f) := by
  intro s
  refine ensures_modify fun σ rests => ⟨?_, rests.2⟩
  rw [Cursor.isClosed, resources]
  exact rests.1

theorem resting_knownColumns : Resting knownColumns := by
  intro s
  refine (ensures_cursor s).bind fun c => ?_
  split
  · exact ensures_pure fun _ h => h.2
  · exact ((ensures_openResources s).pre fun _ h => h.2).bind fun _ _ never => never.elim

theorem resting_find (name : String) : Resting (find name) := by
  intro s
  refine (resting_knownColumns s).bind fun columns => ?_
  split
  · exact ensures_pure fun _ rests => rests
  · exact ensures_throw fun _ rests => rests

theorem resting_withChannel (ctx : ConversionContext) (v : WireValue) (target : Target) :
    Resting (withChannel ctx v target) := by
  intro s
  unfold withChannel
  split
  · exact ensures_pure fun _ rests => rests
  · refine (ensures_cursor s).bind fun c => ?_
    split
    · exact ensures_pure fun _ h => h.2
    next isOpen =>
      -- the channel is opened for an open cursor only
      intro σ h
      exact absurd h.1 isOpen

theorem resting_read (index : Nat) (reader : ColumnReader) (asked : ReadRequest) :
    Resting (read index reader asked) := by
  intro s
  have notes (wasNull : Bool) : Resting (change fun c => { c with wasNull := wasNull }) :=
    resting_change fun _ => rfl
  have looks := (ensures_cursor s).post fun _ _ h => h.2
  have session : Ensures (Rests s) session (fun _ => Rests s) (Rests s) :=
    ensures_of_final_eq (fun _ => rfl) (fun _ _ _ rests => rests) fun _ rests => rests
  refine looks.bind fun _ => session.bind fun _ => looks.bind fun _ => ?_
  refine (ensures_ofExcept (fun _ _ _ rests => rests) fun _ _ _ rests => rests).bind fun v => ?_
  refine (resting_withChannel _ v reader.target s).bind fun ctx => ?_
  split
  · exact ensures_throw fun _ rests => rests
  · refine (notes _ s).bind fun _ => ?_
    exact ensures_ofExcept (fun _ _ _ rests => rests) fun _ _ _ rests => rests

theorem resting_readDecimal (index scale : Nat) : Resting (readDecimal index scale) :=
  fun s => (resting_read index _ _ s).bind fun _ => ensures_pure fun _ rests => rests

theorem Resting.rests {x : Method α} (hx : Resting x) (closed : c.isClosed = true) :
    Rests s (x.final (c, s)) :=
  (hx s).of_kept ⟨closed, rfl⟩

theorem rests_advance (closed : c.isClosed = true) : Rests s (advance.final (c, s)) := by
  have released : c.resources = none := Option.isNone_iff_eq_none.mp closed
  cases more : c.afterLast with
  | true =>
    rw [(advance_past more).2]
    exact ⟨closed, rfl⟩
  | false =>
    obtain ⟨what, -, final⟩ := @advance_refused c s more (.inl released)
    rw [final]
    exact ⟨closed, rfl⟩

theorem rests_close (closed : c.isClosed = true) : Rests s (close.final (c, s)) := by
  have released : c.resources = none := Option.isNone_iff_eq_none.mp closed
  rw [final_close, released]
  exact ⟨closed, rfl⟩

theorem IsMethod.rests {x : Method α} (hx : IsMethod x) (closed : c.isClosed = true) :
    Rests s (x.final (c, s)) := by
  cases hx with
  | advance => exact rests_advance closed
  | columns => exact resting_knownColumns.rests closed
  | find name => exact (resting_find name).rests closed
  | read index reader asked => exact (resting_read index reader asked).rests closed
  | readDecimal index scale => exact (resting_readDecimal index scale).rests closed
  | close => exact rests_close closed
  | drop =>
    rw [Cursor.drop, final_bestEffort]
    exact rests_close closed

end Cursor

def Exchange.failure? (e : Exchange) : Option Error :=
  match e.outcome with
  | .ok _ => none
  | .error e => some e

def firstFailure (es : List Exchange) : Except Error Unit :=
  match es.findSome? Exchange.failure? with
  | none => .ok ()
  | some e => .error e

theorem firstFailure_singleton (q : Request) (o : Except Error q.Answer) :
    firstFailure [⟨q, o⟩] = o.map fun _ => () := by
  cases o <;> rfl

theorem firstFailure_append (es es' : List Exchange) :
    firstFailure (es ++ es') = firstFailure es >>= fun _ => firstFailure es' := by
  simp only [firstFailure, List.findSome?_append]
  cases es.findSome? Exchange.failure? <;> rfl

theorem Session.asked_call (q : Request) (timeout : Option Milliseconds) (s : Session) :
    ((call q timeout).final s).exchanges = s.exchanges ++ [⟨q, (call q timeout).outcome s⟩] := by
  rw [exchanges_call, outcome_call]

theorem Action.outcome_both {σ : Type} (first second : Except Error Unit) (s : σ) :
    (both first second : Action σ Unit).outcome s = first >>= fun _ => second := by
  cases first <;> cases second <;> rfl

def CursorResources.givingBack (r : CursorResources) : List Request :=
  (r.prepared.map fun p => Request.dispose p.id).toList ++ [.closeCursor r.result]

theorem CursorResources.givesBack_of_mem {r : CursorResources} {q : Request}
    (h : q ∈ r.givingBack) : q.givesBack = true := by
  simp only [givingBack, List.mem_append, Option.mem_toList, Option.map_eq_some_iff,
    List.mem_singleton] at h
  rcases h with ⟨p, -, rfl⟩ | rfl <;> rfl

def Session.finishing (s : Session) (tx : TransactionId) : List Request :=
  if s.isAutocommit tx = true ∧ s.isClosed tx = false then
    [.complete .commit tx, .closeTransaction tx]
  else []

namespace Cursor

/-- From `s` to `t` the resources are given back and after that the transaction is finished, each
request whatever became of those before, and `o` is the first failure among them. The release of the
transaction on the server does not count. -/
def Ends (r : CursorResources) (tx : TransactionId) (s : Session) (o : Except Error Unit)
    (t : Session) : Prop :=
  ∃ es, t.exchanges = s.exchanges ++ es ∧
    es.map Exchange.request = r.givingBack ++ s.finishing tx ∧
    o = firstFailure (es.filter fun e => e.request ≠ .closeTransaction tx)

variable {c : Cursor} {s : Session} {r : CursorResources}

theorem exchanges_release (r : CursorResources) (s : Session) :
    ∃ es, ((release r).final s).exchanges = s.exchanges ++ es ∧
      es.map Exchange.request = r.givingBack ∧ (release r).outcome s = firstFailure es := by
  cases hr : r.prepared with
  | none =>
    refine ⟨[⟨.closeCursor r.result, (Session.call (.closeCursor r.result) none).outcome s⟩], ?_, ?_, ?_⟩
    · simp only [release, hr, final_bind, outcome_pure, final_pure, outcome_attempt, final_attempt,
        final_both, asked_call (.closeCursor r.result)]
    · simp only [CursorResources.givingBack, hr]
      rfl
    · simp only [release, hr, outcome_bind, outcome_pure, final_pure, outcome_attempt, outcome_both,
        firstFailure_singleton]
      cases (Session.call (.closeCursor r.result) none).outcome s <;> rfl
  | some p =>
    let t := (Session.call (.dispose p.id) none).final s
    refine ⟨[⟨.dispose p.id, (Session.call (.dispose p.id) none).outcome s⟩] ++
      [⟨.closeCursor r.result, (Session.call (.closeCursor r.result) none).outcome t⟩], ?_, ?_, ?_⟩
    · simp only [release, hr, final_bind, outcome_attempt, final_attempt, final_both, asked_call (.dispose p.id),
        asked_call (.closeCursor r.result), t, List.append_assoc]
    · simp only [CursorResources.givingBack, hr]
      rfl
    · simp only [release, hr, outcome_bind, outcome_attempt, final_attempt, outcome_both,
        firstFailure_append, firstFailure_singleton, t]
      cases (Session.call (.dispose p.id) none).outcome s <;>
        cases (Session.call (.closeCursor r.result) none).outcome
          ((Session.call (.dispose p.id) none).final s) <;> rfl

theorem exchanges_finish (tx : TransactionId) (s : Session) :
    ∃ es, ((finish tx).final s).exchanges = s.exchanges ++ es ∧
      es.map Exchange.request = s.finishing tx ∧
      (finish tx).outcome s = firstFailure (es.filter fun e => e.request ≠ .closeTransaction tx) := by
  have outcome : (finish tx).outcome s =
      if s.isAutocommit tx then (complete .commit tx).outcome s else .ok () := by
    simp only [finish, outcome_bind, outcome_get, final_get]
    split <;> rfl
  rw [outcome, final_finish, finishing]
  cases auto : s.isAutocommit tx with
  | false => exact ⟨[], (List.append_nil _).symm, rfl, rfl⟩
  | true =>
    cases isOpen : s.isClosed tx with
    | true =>
      refine ⟨[], ?_, rfl, ?_⟩
      · rw [if_pos rfl, final_complete_closed .commit tx isOpen, List.append_nil]
      · simp only [complete, outcome_bind, outcome_get, final_get, isOpen, ↓reduceIte, outcome_pure]
        rfl
    | false =>
      obtain ⟨released, exchanges⟩ := exchanges_complete_open .commit tx isOpen
      refine ⟨_, exchanges, rfl, ?_⟩
      rw [if_pos rfl, List.filter_cons_of_pos (by simp), List.filter_cons_of_neg (by simp),
        List.filter_nil, firstFailure_singleton]
      cases (complete .commit tx).outcome s <;> rfl

theorem outcome_close (c : Cursor) (s : Session) :
    close.outcome (c, s) =
      match c.resources with
      | none => .ok ()
      | some r =>
        (release r).outcome s >>= fun _ => (finish c.transaction).outcome ((release r).final s) := by
  simp only [close, cursor, outcome_bind, final_bind, outcome_get, final_get, outcome_pure, final_pure]
  cases c.resources with
  | none => rfl
  | some r =>
    simp only [change, outcome_bind, outcome_modify, final_modify, outcome_attempt, final_attempt,
      outcome_onSecond, final_onSecond, outcome_both]

theorem ends_close (held : c.resources = some r) :
    Ends r c.transaction s (close.outcome (c, s)) (close.final (c, s)).2 := by
  obtain ⟨es, released, gives, outcome⟩ := exchanges_release r s
  obtain ⟨es', finished, finishes, outcome'⟩ := exchanges_finish c.transaction ((release r).final s)
  have same : ((release r).final s).finishing c.transaction = s.finishing c.transaction := by
    have frame : (release r).final s = _ := asks_frame (asking_release r s)
    rw [frame]
    rfl
  have all : es.filter (fun e => e.request ≠ .closeTransaction c.transaction) = es := by
    rw [List.filter_eq_self]
    intro e mem
    have givesBack : e.request.givesBack = true :=
      CursorResources.givesBack_of_mem (gives ▸ List.mem_map_of_mem mem)
    refine decide_eq_true fun releases => ?_
    rw [releases] at givesBack
    cases givesBack
  refine ⟨es ++ es', ?_, ?_, ?_⟩
  · rw [final_close, held]
    dsimp only
    rw [finished, released, List.append_assoc]
  · rw [List.map_append, gives, finishes, same]
  · rw [outcome_close, held, List.filter_append, all, firstFailure_append, ← outcome, ← outcome']

end Cursor

end SqlClient
