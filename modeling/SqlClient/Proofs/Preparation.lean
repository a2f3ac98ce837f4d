import SqlClient.Proofs.Bindings
import SqlClient.Proofs.Exchanges

namespace SqlClient

open SqlClient.Action Session Relation

def Request.execution? : Request → Option (PreparedId × List Parameter)
  | query _ id parameters | execute _ id parameters => some (id, parameters)
  | _ => none

/-- Among the exchanges `sql` was prepared under `id` with these placeholders only, and it was not given
back. -/
structure Stands (sql : String) (es : List Exchange) (id : PreparedId) (q : List Placeholder) :
    Prop where
  prepared : ∃ p : Prepared, p.id = id ∧ (⟨.prepare sql q, .ok p⟩ : Exchange) ∈ es
  only : ∀ text q' (p : Prepared), (⟨.prepare text q', .ok p⟩ : Exchange) ∈ es → p.id = id → q' = q
  kept : ∀ outcome, (⟨.dispose id, outcome⟩ : Exchange) ∉ es

/-- After the exchanges the statement may be executed with the parameters: its placeholders are called
as they are, one after the other, and have their types. -/
structure Fits (sql : String) (es : List Exchange) (id : PreparedId) (parameters : List Parameter) :
    Prop where
  stands : Stands sql es id (parameters.map Parameter.placeholder)
  names : parameters.map Parameter.name =
    (List.range parameters.length).map fun i => placeholderName (i + 1)

def Faithful (sql : String) (es : List Exchange) : Prop :=
  ∀ before e after id parameters, es = before ++ e :: after →
    e.request.execution? = some (id, parameters) → Fits sql before id parameters

def Request.Executes (id : PreparedId) (batch : List (List Parameter)) : Request → Prop
  | query _ id' parameters | execute _ id' parameters => id' = id ∧ parameters ∈ batch
  | begin _ | complete .. | closeTransaction _ => True
  | _ => False

section Exchanges

variable {sql : String} {es : List Exchange} {id : PreparedId} {q : List Placeholder}
  {parameters : List Parameter} {batch : List (List Parameter)}

theorem controls_executes (id : PreparedId) (batch : List (List Parameter)) :
    Request.Controls (Request.Executes id batch) :=
  ⟨fun _ => trivial, fun _ _ => trivial, fun _ => trivial⟩

theorem Stands.append (h : Stands sql es id q) {added : List Exchange}
    (prepares : ∀ text q' outcome, (⟨.prepare text q', outcome⟩ : Exchange) ∉ added)
    (disposes : ∀ outcome, (⟨.dispose id, outcome⟩ : Exchange) ∉ added) :
    Stands sql (es ++ added) id q where
  prepared := by
    obtain ⟨p, hp, he⟩ := h.prepared
    exact ⟨p, hp, List.mem_append_left _ he⟩
  only text q' p he hp := by
    rcases List.mem_append.mp he with old | new
    · exact h.only text q' p old hp
    · exact absurd new (prepares text q' _)
  kept outcome he := by
    rcases List.mem_append.mp he with old | new
    · exact h.kept outcome old
    · exact disposes outcome new

theorem Faithful.append_one (h : Faithful sql es) {e : Exchange}
    (he : ∀ id parameters, e.request.execution? = some (id, parameters) → Fits sql es id parameters) :
    Faithful sql (es ++ [e]) := by
  intro before e' after id parameters split executes
  rcases List.eq_nil_or_concat after with rfl | ⟨after, last, rfl⟩
  · obtain ⟨rfl, same⟩ := List.append_inj' split rfl
    rw [← List.singleton_inj.mp same] at executes
    exact he id parameters executes
  · rw [List.concat_eq_append, ← List.cons_append, ← List.append_assoc] at split
    obtain ⟨rfl, -⟩ := List.append_inj' split rfl
    exact h before e' after id parameters rfl executes

theorem Request.execution?_of_executes {r : Request} (h : r.Executes id batch) {id' : PreparedId}
    (hr : r.execution? = some (id', parameters)) : id' = id ∧ parameters ∈ batch := by
  cases r with
  | query | execute =>
    cases hr
    exact h
  | _ => cases hr

theorem Faithful.append (h : Faithful sql es) {added : List Exchange}
    (executes : ∀ e ∈ added, e.request.Executes id batch)
    (fits : ∀ parameters ∈ batch, Fits sql es id parameters) : Faithful sql (es ++ added) := by
  induction added generalizing es with
  | nil => exact (List.append_nil es).symm ▸ h
  | cons e added ih =>
    have first := executes e List.mem_cons_self
    have later := fun e' he' => executes e' (List.mem_cons_of_mem e he')
    rw [List.append_cons]
    apply ih _ later
    · intro parameters hp
      refine ⟨(fits parameters hp).stands.append ?_ ?_, (fits parameters hp).names⟩
      · intro text q' outcome he
        rw [← List.mem_singleton.mp he] at first
        exact first
      · intro outcome he
        rw [← List.mem_singleton.mp he] at first
        exact first
    · refine h.append_one fun id' parameters he => ?_
      obtain ⟨rfl, hp⟩ := Request.execution?_of_executes first he
      exact fits parameters hp

end Exchanges

structure PreparedStatement.Sound (p : PreparedStatement) (s : Session) : Prop where
  known : ∀ e ∈ p.sent, e ∈ s.exchanges
  faithful : Faithful p.sql p.sent
  disposed : ∀ id outcome, (⟨.dispose id, outcome⟩ : Exchange) ∈ p.sent →
    ∃ text q, ∃ r : Prepared, r.id = id ∧ (⟨.prepare text q, .ok r⟩ : Exchange) ∈ p.sent
  remote : ∀ r, p.remote = some r → ∃ q, Stands p.sql p.sent r.id q ∧
    (p.bindings.changed = false → ∀ q', p.bindings.placeholders = .ok q' → q' = q)
  queued : ∀ parameters ∈ p.batch, p.batchPlaceholders = some (parameters.map Parameter.placeholder)

namespace PreparedStatement

variable {α : Type} {p : PreparedStatement} {s t : Session}

theorem sound_new (sql : String) (s : Session) : (new sql).Sound s where
  known e he := by cases he
  faithful before e after id parameters split := by
    have := congrArg List.length split
    simp [new] at this
  disposed id outcome he := by cases he
  remote r hr := by cases hr
  queued parameters hp := by cases hp

theorem Sound.extends (hs : p.Sound s) (h : ∀ e ∈ s.exchanges, e ∈ t.exchanges) : p.Sound t :=
  { hs with known := fun e he => h e (hs.known e he) }

theorem Sound.append (hs : p.Sound s) {added : List Exchange}
    (exchanges : t.exchanges = s.exchanges ++ added) (faithful : Faithful p.sql (p.sent ++ added))
    (disposed : ∀ id outcome, (⟨.dispose id, outcome⟩ : Exchange) ∈ added →
      ∃ text q, ∃ r : Prepared, r.id = id ∧ (⟨.prepare text q, .ok r⟩ : Exchange) ∈ p.sent)
    (stands : ∀ r q, p.remote = some r → Stands p.sql p.sent r.id q →
      Stands p.sql (p.sent ++ added) r.id q) :
    Sound { p with sent := p.sent ++ added } t where
  known e he := by
    rw [exchanges]
    rcases List.mem_append.mp he with old | new
    · exact List.mem_append_left _ (hs.known e old)
    · exact List.mem_append_right _ new
  faithful := faithful
  disposed id outcome he := by
    have prepared : ∃ text q, ∃ r : Prepared, r.id = id ∧
        (⟨.prepare text q, .ok r⟩ : Exchange) ∈ p.sent := by
      rcases List.mem_append.mp he with old | new
      · exact hs.disposed id outcome old
      · exact disposed id outcome new
    obtain ⟨text, q, r, hr, hp⟩ := prepared
    exact ⟨text, q, r, hr, List.mem_append_left _ hp⟩
  remote r hr := by
    obtain ⟨q, hq, flag⟩ := hs.remote r hr
    exact ⟨q, stands r q hr hq, flag⟩
  queued := hs.queued

def InOrder (σ : PreparedStatement × Session) : Prop :=
  σ.1.Sound σ.2 ∧ σ.2.Named

theorem noted_of_moves {kind : Request → Prop} {σ σ' : PreparedStatement × Session}
    (h : ReflTransGen (Moves kind) σ σ') :
    σ'.1.sql = σ.1.sql ∧ ∃ added, σ'.2.exchanges = σ.2.exchanges ++ added ∧
      σ'.1.sent = σ.1.sent ++ added := by
  induction h with
  | refl => exact ⟨rfl, [], (List.append_nil _).symm, (List.append_nil _).symm⟩
  | @tail τ _ _ move ih =>
    obtain ⟨sql, added, exchanges, sent⟩ := ih
    cases move with
    | change s sql' sent' => exact ⟨sql'.trans sql, added, exchanges, sent'.trans sent⟩
    | send hx =>
      obtain ⟨more, exchanges', -⟩ := adds_of_moving hx τ.2
      rw [final_send, exchanges', List.drop_left, exchanges, sent]
      exact ⟨sql, added ++ more, List.append_assoc _ _ _, List.append_assoc _ _ _⟩

section Sends

variable {id : PreparedId} {batch : List (List Parameter)} {r : Prepared}

theorem InOrder.executes (h : InOrder (p, s)) {x : Action Session α}
    (hx : Session.Moving (Request.Executes id batch) x)
    (fits : ∀ parameters ∈ batch, Fits p.sql p.sent id parameters) :
    InOrder ((send x).final (p, s)) := by
  have puts : ReflTransGen (Puts (Request.Executes id batch)) s (x.final s) := puts_of_moves (hx s)
  obtain ⟨added, exchanges, executes⟩ := adds_of_puts puts
  rw [final_send, exchanges, List.drop_left]
  refine ⟨h.1.append exchanges (h.1.faithful.append executes fits) ?_ ?_, h.2.run puts⟩
  · intro id' outcome he
    exact (executes _ he).elim
  · intro r q _ hq
    exact hq.append (fun text q' outcome he => executes _ he) fun outcome he => executes _ he

theorem InOrder.disposes (h : InOrder (p, s)) (forgotten : p.remote = none)
    (prepared : ∃ q, Stands p.sql p.sent r.id q) :
    InOrder ((send (Session.dispose r)).final (p, s)) := by
  have puts := @puts_call (fun _ => True) (.dispose r.id) none s trivial
  have exchanges := exchanges_call (.dispose r.id) none s
  obtain ⟨q, hq⟩ := prepared
  obtain ⟨r', hid, hr'⟩ := hq.prepared
  rw [final_send, Session.dispose, final_bestEffort, exchanges, List.drop_left]
  refine ⟨h.1.append exchanges ?_ ?_ ?_, h.2.puts puts⟩
  · exact h.1.faithful.append_one fun id parameters he => by cases he
  · intro id outcome he
    rw [List.mem_singleton] at he
    injection he with same
    injection same with same
    exact ⟨p.sql, q, r', same ▸ hid, hr'⟩
  · intro r q remote
    rw [forgotten] at remote
    cases remote

theorem InOrder.prepares (h : InOrder (p, s)) (forgotten : p.remote = none) (limits : StatementLimits)
    (q : List Placeholder) :
    InOrder ((send (Session.prepare limits p.sql q)).final (p, s)) ∧
      ∀ r, (Session.prepare limits p.sql q).outcome s = .ok r →
        Stands p.sql ((send (Session.prepare limits p.sql q)).final (p, s)).1.sent r.id q := by
  have puts := @puts_call (fun _ => True) (.prepare p.sql q) limits.timeout s trivial
  have exchanges := exchanges_call (.prepare p.sql q) limits.timeout s
  rw [final_send, Session.prepare, exchanges, List.drop_left]
  refine ⟨⟨h.1.append exchanges ?_ ?_ ?_, h.2.puts puts⟩, fun r hr => ?_⟩
  · exact h.1.faithful.append_one fun id parameters he => by cases he
  · intro id outcome he
    rw [List.mem_singleton] at he
    injection he with same
    cases same
  · intro r q remote
    rw [forgotten] at remote
    cases remote
  · rw [outcome_call] at hr
    -- the number is new, so nothing that was sent before concerns it
    have new := (put_performs hr).named.1
    have used (text : String) (q' : List Placeholder) (r' : Prepared)
        (he : (⟨.prepare text q', .ok r'⟩ : Exchange) ∈ p.sent) : r'.id ≠ r.id := by
      intro same
      have old := (h.2 text q' r' (h.1.known _ he)).1
      rw [same, new] at old
      exact Nat.not_succ_le_self _ old
    refine ⟨⟨r, rfl, ?_⟩, fun text q' r' he hid => ?_, fun outcome he => ?_⟩
    · rw [hr]
      exact List.mem_append_right _ List.mem_cons_self
    · rcases List.mem_append.mp he with old | last
      · exact absurd hid (used text q' r' old)
      · rw [List.mem_singleton] at last
        injection last with same
        injection same
    · rcases List.mem_append.mp he with old | last
      · obtain ⟨text, q', r', hid, hr'⟩ := h.1.disposed r.id outcome old
        exact used text q' r' hr' hid
      · rw [List.mem_singleton] at last
        injection last with same
        cases same

end Sends

end PreparedStatement

end SqlClient
