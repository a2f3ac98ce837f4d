import SqlClient.Proofs.Preparation

namespace SqlClient

open SqlClient.Action Session Relation

namespace PreparedStatement

variable {α : Type} {P : PreparedStatement × Session → Prop}

abbrev Keeps (x : Method α) : Prop :=
  Ensures InOrder x (fun _ => InOrder) InOrder

theorem ensures_statement {E : PreparedStatement × Session → Prop} :
    Ensures P statement (fun p σ => P σ ∧ σ.1 = p) E :=
  fun _ hσ => ⟨hσ, rfl⟩

theorem ensures_statement_of_eq {p : PreparedStatement} {f : PreparedStatement → Method α}
    {Q : α → PreparedStatement × Session → Prop} {E : PreparedStatement × Session → Prop}
    (h : ∀ σ, P σ → σ.1 = p) (hf : Ensures P (f p) Q E) : Ensures P (statement >>= f) Q E := by
  refine ensures_statement.bind fun p' => ?_
  rintro σ ⟨hσ, rfl⟩
  rw [h σ hσ]
  exact hf σ hσ

theorem ensures_change {f : PreparedStatement → PreparedStatement}
    {Q E : PreparedStatement × Session → Prop} (h : ∀ σ, P σ → Q (f σ.1, σ.2)) :
    Ensures P (change f) (fun _ => Q) E :=
  fun σ hσ => h σ hσ

def Taken (σ : PreparedStatement × Session) : Prop :=
  InOrder ({ σ.1 with bindings := { σ.1.bindings with changed := true } }, σ.2)

theorem InOrder.taken {σ : PreparedStatement × Session} (h : InOrder σ) (changed : Bool) :
    Taken ({ σ.1 with bindings := { σ.1.bindings with changed := changed } }, σ.2) := by
  refine ⟨{ h.1 with remote := fun r hr => ?_ }, h.2⟩
  obtain ⟨q, hq, -⟩ := h.1.remote r hr
  exact ⟨q, hq, fun up => by cases up⟩

def Unprepared (q : List Placeholder) (σ : PreparedStatement × Session) : Prop :=
  InOrder σ ∧ σ.1.remote = none ∧ σ.1.bindings.placeholders = .ok q

theorem ensures_disposeStale (r : Prepared) (q : List Placeholder)
    {E : PreparedStatement × Session → Prop} :
    Ensures (fun σ => Unprepared q σ ∧ ∃ q', Stands σ.1.sql σ.1.sent r.id q')
      (send (Session.dispose r)) (fun _ => Unprepared q) E := by
  rintro ⟨p, s⟩ ⟨⟨inOrder, forgotten, placeholders⟩, prepared⟩
  have sent := inOrder.disposes forgotten prepared
  rw [outcome_send, Session.dispose, outcome_bestEffort]
  rw [final_send] at sent ⊢
  exact ⟨sent, forgotten, placeholders⟩

theorem ensures_prepareNow (q : List Placeholder) :
    Ensures (Unprepared q)
      (do
        let p ← statement
        let prepared ← send (Session.prepare p.limits p.sql q)
        change fun p => { p with remote := some prepared }
        return prepared)
      (fun r σ => InOrder σ ∧ Stands σ.1.sql σ.1.sent r.id q) InOrder := by
  refine ensures_statement.bind fun _ => Ensures.bind (Q := fun r σ =>
    InOrder σ ∧ σ.1.bindings.placeholders = .ok q ∧ Stands σ.1.sql σ.1.sent r.id q) ?_ fun r => ?_
  · rintro ⟨p, s⟩ ⟨⟨inOrder, forgotten, placeholders⟩, rfl⟩
    obtain ⟨sent, stands⟩ := inOrder.prepares forgotten p.limits q
    rw [outcome_send]
    dsimp only
    cases ho : (Session.prepare p.limits p.sql q).outcome s with
    | error e => exact sent
    | ok r =>
      have stands := stands r ho
      rw [final_send] at sent stands ⊢
      exact ⟨sent, placeholders, stands⟩
  · refine Ensures.bind (ensures_change (Q := fun σ => InOrder σ ∧ Stands σ.1.sql σ.1.sent r.id q) ?_)
      fun _ => ensures_pure fun _ h => h
    rintro ⟨p, s⟩ ⟨inOrder, placeholders, stands⟩
    refine ⟨⟨{ inOrder.1 with remote := fun r' hr => ?_ }, inOrder.2⟩, stands⟩
    cases hr
    exact ⟨q, stands, fun _ q' hq' => Except.ok.inj (hq'.symm.trans placeholders)⟩

theorem ensures_prepareAgain (q : List Placeholder) :
    Ensures (fun σ => Taken σ ∧ σ.1.bindings.placeholders = .ok q) prepareAgain
      (fun r σ => InOrder σ ∧ Stands σ.1.sql σ.1.sent r.id q) InOrder := by
  refine ensures_statement.bind fun p => ?_
  refine (ensures_ofExcept (Q := fun q' σ => (Taken σ ∧ σ.1.bindings.placeholders = .ok q) ∧ q' = q)
    ?_ ?_).bind fun q' => ?_
  · rintro q' σ hq' ⟨hσ, rfl⟩
    exact ⟨hσ, Except.ok.inj (hq'.symm.trans hσ.2)⟩
  · rintro e σ he ⟨hσ, rfl⟩
    cases he.symm.trans hσ.2
  · refine ensures_statement.bind fun p => ?_
    refine (ensures_change (Q := fun σ => (Unprepared q σ ∧
      ∀ r, p.remote = some r → ∃ q', Stands σ.1.sql σ.1.sent r.id q') ∧ q' = q) ?_).bind fun _ => ?_
    · -- nothing is prepared from here on, so that the flag does not matter any more
      rintro ⟨_, s⟩ ⟨⟨⟨taken, placeholders⟩, same⟩, rfl⟩
      refine ⟨⟨⟨⟨{ taken.1 with remote := fun r hr => ?_ }, taken.2⟩, rfl, placeholders⟩, fun r hr => ?_⟩,
        same⟩
      · cases hr
      · obtain ⟨q', hq', -⟩ := taken.1.remote r hr
        exact ⟨q', hq'⟩
    · dsimp only
      split
      · next r stale =>
        rintro σ ⟨⟨unprepared, prepared⟩, rfl⟩
        exact ((ensures_disposeStale r q').bind fun _ => ensures_prepareNow q') σ
          ⟨unprepared, prepared r stale⟩
      · rintro σ ⟨⟨unprepared, -⟩, rfl⟩
        exact ensures_prepareNow q' σ unprepared

theorem ensures_ensurePrepared (q : List Placeholder) :
    Ensures (fun σ => InOrder σ ∧ σ.1.bindings.placeholders = .ok q) ensurePrepared
      (fun r σ => InOrder σ ∧ Stands σ.1.sql σ.1.sent r.id q) InOrder := by
  refine ensures_statement.bind fun p => ?_
  dsimp only
  refine (ensures_change (Q := fun σ => Taken σ ∧ σ.1.bindings.placeholders = .ok q ∧
    σ.1.bindings.changed = false ∧ (p.bindings.changed = false → InOrder σ)) ?_).bind fun _ => ?_
  · rintro ⟨_, s⟩ ⟨⟨inOrder, placeholders⟩, rfl⟩
    refine ⟨inOrder.taken false, placeholders, rfl, fun down => ?_⟩
    simpa only [Bindings.takeChanged, ← down] using inOrder
  · refine ensures_statement.bind fun p' => ?_
    have again {F : PreparedStatement × Session → Prop} : Ensures
        (fun σ => (Taken σ ∧ σ.1.bindings.placeholders = .ok q ∧ F σ) ∧ σ.1 = p') prepareAgain
        (fun r σ => InOrder σ ∧ Stands σ.1.sql σ.1.sent r.id q) InOrder :=
      (ensures_prepareAgain q).pre fun σ hσ => ⟨hσ.1.1, hσ.1.2.1⟩
    split
    · next r remote =>
      split
      · exact again
      · next down =>
        -- the flag was down, so the bindings have the types that were prepared
        refine ensures_pure ?_
        rintro ⟨_, s⟩ ⟨⟨-, placeholders, taken, inOrder⟩, rfl⟩
        have inOrder := inOrder (eq_false_of_ne_true down)
        obtain ⟨q', hq', flag⟩ := inOrder.1.remote r remote
        exact ⟨inOrder, flag taken q placeholders ▸ hq'⟩
    · exact again

theorem keeps_ensureOpen : Keeps ensureOpen :=
  ensures_of_final_eq final_ensureOpen (fun _ _ _ h => h) fun _ h => h

theorem ensures_boundParameters (hp : ∀ σ, P σ → InOrder σ) : Ensures P boundParameters
    (fun parameters σ => P σ ∧
      σ.1.bindings.placeholders = .ok (parameters.map Parameter.placeholder)) InOrder := by
  rintro ⟨p, s⟩ hσ
  simp only [boundParameters, outcome_bind, final_bind, outcome_get, final_get, outcome_ofExcept,
    final_ofExcept]
  cases h : p.bindings.encode (.ofSettings s.conversion) with
  | error e => exact hp _ hσ
  | ok parameters => exact ⟨hσ, Bindings.placeholders_of_encode h⟩

theorem fits_of_placeholders {sql : String} {es : List Exchange} {id : PreparedId} {b : Bindings}
    {parameters : List Parameter}
    (placeholders : b.placeholders = .ok (parameters.map Parameter.placeholder))
    (stands : Stands sql es id (parameters.map Parameter.placeholder)) :
    Fits sql es id parameters := by
  have names := Bindings.names_of_placeholders placeholders
  rw [List.map_map, List.length_map] at names
  exact ⟨stands, names⟩

theorem ensures_fitting (q : List Placeholder) :
    Ensures (fun σ => InOrder σ ∧ σ.1.bindings.placeholders = .ok q) ensurePrepared
      (fun r σ => InOrder σ ∧ ∀ parameters : List Parameter,
        parameters.map Parameter.placeholder = q → Fits σ.1.sql σ.1.sent r.id parameters)
      InOrder := by
  rintro σ ⟨inOrder, placeholders⟩
  have fits (r : Prepared) (σ' : PreparedStatement × Session)
      (h : InOrder σ' ∧ Stands σ'.1.sql σ'.1.sent r.id q) :
      InOrder σ' ∧ ∀ parameters : List Parameter,
        parameters.map Parameter.placeholder = q → Fits σ'.1.sql σ'.1.sent r.id parameters := by
    refine ⟨h.1, fun parameters same => ?_⟩
    subst same
    exact fits_of_placeholders placeholders h.2
  exact (ensures_ensurePrepared q).post fits σ ⟨inOrder, placeholders⟩

theorem ensures_ready : Ensures InOrder ready
    (fun r σ => InOrder σ ∧ Fits σ.1.sql σ.1.sent r.2.id r.1) InOrder := by
  refine keeps_ensureOpen.bind fun _ => (ensures_boundParameters fun _ h => h).bind fun parameters => ?_
  refine (ensures_fitting _).bind fun r => ensures_pure ?_
  exact fun σ h => ⟨h.1, h.2 parameters rfl⟩

theorem keeps_executes {id : PreparedId} {batch : List (List Parameter)}
    {x : PreparedStatement → Action Session α}
    (hx : ∀ p, Session.Moving (Request.Executes id batch) (x p)) :
    Ensures (fun σ => InOrder σ ∧ ∀ parameters ∈ batch, Fits σ.1.sql σ.1.sent id parameters)
      (do
        let p ← statement
        send (x p)) (fun _ => InOrder) InOrder := by
  refine ensures_statement.bind fun p => ?_
  rintro ⟨p, s⟩ ⟨⟨inOrder, fits⟩, rfl⟩
  have sent := inOrder.executes (hx p) fits
  split <;> exact sent

theorem keeps_query (prepared : Prepared) (parameters : List Parameter) :
    Ensures (fun σ => InOrder σ ∧ Fits σ.1.sql σ.1.sent prepared.id parameters)
      (query prepared parameters) (fun _ => InOrder) InOrder := by
  have moving (p : PreparedStatement) :
      Session.Moving (Request.Executes prepared.id [parameters])
        (Session.query p.limits prepared false parameters) :=
    Session.moving_query (controls_executes _ _) p.limits prepared false parameters
      (fun _ => ⟨rfl, List.mem_cons_self⟩) (by simp)
  refine (keeps_executes moving).pre fun σ hσ => ⟨hσ.1, ?_⟩
  exact List.forall_mem_singleton.mpr hσ.2

theorem keeps_update (prepared : Prepared) (parameters : List Parameter) :
    Ensures (fun σ => InOrder σ ∧ Fits σ.1.sql σ.1.sent prepared.id parameters)
      (update prepared parameters) (fun _ => InOrder) InOrder := by
  have moving (p : PreparedStatement) :
      Session.Moving (Request.Executes prepared.id [parameters])
        (Session.inTransaction fun tx => Session.execute p.limits tx prepared parameters) :=
    moving_inTransaction (controls_executes _ _) fun tx =>
      working_execute p.limits tx prepared parameters ⟨rfl, List.mem_cons_self⟩
  refine (keeps_executes moving).pre fun σ hσ => ⟨hσ.1, ?_⟩
  exact List.forall_mem_singleton.mpr hσ.2

theorem keeps_executeAll (prepared : Prepared) (batch : List (List Parameter)) :
    Ensures (fun σ => InOrder σ ∧ ∀ parameters ∈ batch, Fits σ.1.sql σ.1.sent prepared.id parameters)
      (executeAll prepared batch) (fun _ => InOrder) InOrder :=
  keeps_executes fun p => moving_inTransaction (controls_executes _ _) fun tx =>
    follows_mapM fun parameters h => working_execute p.limits tx prepared parameters ⟨rfl, h⟩

theorem keeps_executeQuery : Keeps executeQuery := by
  refine ensures_ready.bind fun r => ?_
  dsimp only
  split
  · exact keeps_query _ _
  · exact ensures_throw fun _ h => h.1

theorem keeps_executeUpdate : Keeps executeUpdate := by
  refine ensures_ready.bind fun r => ?_
  dsimp only
  split
  · exact ensures_throw fun _ h => h.1
  · exact keeps_update _ _

theorem keeps_execute : Keeps execute := by
  refine ensures_ready.bind fun r => ?_
  dsimp only
  split
  · exact (keeps_query _ _).bind fun _ => ensures_pure fun _ h => h
  · exact (keeps_update _ _).bind fun _ => ensures_pure fun _ h => h

theorem InOrder.bind {σ : PreparedStatement × Session} (h : InOrder σ) (index : Nat) (value : HostValue)
    (declared : Option Atom) :
    InOrder ({ σ.1 with bindings := (σ.1.bindings.bind index value declared).2 }, σ.2) := by
  refine ⟨{ h.1 with remote := fun r hr => ?_ }, h.2⟩
  obtain ⟨q, hq, flag⟩ := h.1.remote r hr
  refine ⟨q, hq, fun down q' hq' => ?_⟩
  obtain ⟨atoms, down'⟩ := Bindings.atoms_bind down hq'
  exact flag down' q' ((Bindings.placeholders_congr atoms).symm.trans hq')

theorem keeps_bind (index : Nat) (value : HostValue) (declared : Option Atom) :
    Keeps (bind index value declared) := by
  refine keeps_ensureOpen.bind fun _ => ensures_statement.bind fun p => ?_
  refine Ensures.bind (ensures_change (Q := InOrder) ?_) fun _ =>
    ensures_ofExcept (fun _ _ _ h => h) fun _ _ _ h => h
  rintro ⟨p, s⟩ ⟨inOrder, rfl⟩
  exact inOrder.bind index value declared

def Queueing (q : List Placeholder) (σ : PreparedStatement × Session) : Prop :=
  InOrder σ ∧ σ.1.bindings.placeholders = .ok q ∧ σ.1.batchPlaceholders = some q

theorem keeps_queue (q : List Placeholder) :
    Ensures (Queueing q)
      (do
        let parameters ← boundParameters
        change fun p => { p with batch := p.batch ++ [parameters] })
      (fun _ => InOrder) InOrder := by
  refine (ensures_boundParameters fun _ h => h.1).bind fun parameters => ensures_change ?_
  rintro ⟨p, s⟩ ⟨⟨inOrder, placeholders, queued⟩, same⟩
  refine ⟨{ inOrder.1 with queued := fun entry h => ?_ }, inOrder.2⟩
  rcases List.mem_append.mp h with old | new
  · exact inOrder.1.queued entry old
  · rw [List.mem_singleton.mp new, ← Except.ok.inj (placeholders.symm.trans same)]
    exact queued

theorem keeps_addBatch : Keeps addBatch := by
  refine keeps_ensureOpen.bind fun _ => ensures_statement.bind fun p => ?_
  refine (ensures_ofExcept (Q := fun q σ => InOrder σ ∧ σ.1.bindings.placeholders = .ok q) ?_ ?_).bind
    fun q => ?_
  · rintro q σ hq ⟨inOrder, rfl⟩
    exact ⟨inOrder, hq⟩
  · exact fun _ _ _ h => h.1
  · refine ensures_statement.bind fun p => ?_
    dsimp only
    split
    · next queued hqueued =>
      split
      · exact fun σ h => h.1.1
      · next same =>
        rintro σ ⟨⟨inOrder, placeholders⟩, rfl⟩
        rw [bne_iff_ne, ne_eq, Decidable.not_not] at same
        exact keeps_queue q σ ⟨inOrder, placeholders, same ▸ hqueued⟩
    · next idle =>
      refine Ensures.bind (ensures_change (Q := Queueing q) ?_) fun _ => keeps_queue q
      rintro ⟨p, s⟩ ⟨⟨inOrder, placeholders⟩, rfl⟩
      -- no entry is queued under placeholders that are not noted
      refine ⟨⟨{ inOrder.1 with queued := fun entry h => ?_ }, inOrder.2⟩, placeholders, rfl⟩
      cases idle.symm.trans (inOrder.1.queued entry h)

theorem keeps_executeBatch : Keeps executeBatch := by
  refine keeps_ensureOpen.bind fun _ => ensures_statement.bind fun p => ?_
  refine Ensures.bind (ensures_change (Q := fun σ => InOrder σ ∧ σ.1.bindings = p.bindings ∧
    ∀ entry ∈ p.batch, p.batchPlaceholders = some (entry.map Parameter.placeholder)) ?_) fun _ => ?_
  · rintro ⟨p, s⟩ ⟨inOrder, rfl⟩
    exact ⟨⟨{ inOrder.1 with queued := fun _ h => by cases h }, inOrder.2⟩, rfl, inOrder.1.queued⟩
  · split
    · exact ensures_pure fun _ h => h.1
    · next queued hqueued =>
      refine (ensures_ofExcept (Q := fun q σ => (InOrder σ ∧ σ.1.bindings.placeholders = .ok q) ∧
        ∀ entry ∈ p.batch, p.batchPlaceholders = some (entry.map Parameter.placeholder)) ?_ ?_).bind
        fun q => ?_
      · rintro q σ hq ⟨inOrder, bindings, entries⟩
        exact ⟨⟨inOrder, bindings ▸ hq⟩, entries⟩
      · exact fun _ _ _ h => h.1
      · dsimp only
        split
        · exact fun σ h => h.1.1
        · next same =>
          rw [bne_iff_ne, ne_eq, Decidable.not_not] at same
          rintro σ ⟨hσ, entries⟩
          refine ((ensures_fitting q).bind fun prepared => (keeps_executeAll prepared p.batch).pre
            fun σ h => ⟨h.1, fun entry he => h.2 entry ?_⟩) σ hσ
          have entry := hqueued.symm.trans (entries entry he)
          rw [same, Option.some.inj entry]

theorem keeps_close : Keeps close := by
  refine ensures_statement.bind fun p => ?_
  split
  · exact ensures_pure fun _ h => h.1
  · refine Ensures.bind (ensures_change (Q := fun σ => InOrder σ ∧ σ.1.remote = none ∧
      ∀ r, p.remote = some r → ∃ q, Stands σ.1.sql σ.1.sent r.id q) ?_) fun _ => ?_
    · rintro ⟨p, s⟩ ⟨inOrder, rfl⟩
      refine ⟨⟨{ inOrder.1 with remote := fun r hr => ?_, queued := fun _ h => ?_ }, inOrder.2⟩, rfl,
        fun r hr => ?_⟩
      · cases hr
      · cases h
      · obtain ⟨q, hq, -⟩ := inOrder.1.remote r hr
        exact ⟨q, hq⟩
    · split
      · next r remote =>
        rintro ⟨p, s⟩ ⟨inOrder, forgotten, prepared⟩
        rw [outcome_send, Session.dispose, outcome_bestEffort]
        exact inOrder.disposes forgotten (prepared r remote)
      · exact ensures_pure fun _ h => h.1

end PreparedStatement

end SqlClient
