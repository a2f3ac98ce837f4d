import SqlClient.Proofs.Bindings
import SqlClient.Proofs.Runs

namespace SqlClient

open SqlClient.Action

namespace PreparedStatement

variable {p : PreparedStatement} {s : Session}

def Takes (p : PreparedStatement) (q : List Placeholder) : Prop :=
  p.batchPlaceholders = none ∨ p.batchPlaceholders = some q

inductive Queues (p : PreparedStatement) (s : Session) : Except Error Unit → PreparedStatement → Prop
  | closed {e : Error} (refuses : ensureOpen.outcome (p, s) = .error e) : Queues p s (.error e) p
  | untyped {e : Error} (opened : ensureOpen.outcome (p, s) = .ok ())
      (lacks : p.bindings.placeholders = .error e) : Queues p s (.error e) p
  | differs {q : List Placeholder} (opened : ensureOpen.outcome (p, s) = .ok ())
      (types : p.bindings.placeholders = .ok q) (noted : ¬p.Takes q) :
    Queues p s (.error (.parameter .batchTypesDiffer)) p
  | unencoded {q : List Placeholder} {e : Error} (opened : ensureOpen.outcome (p, s) = .ok ())
      (types : p.bindings.placeholders = .ok q) (takes : p.Takes q)
      (fails : p.bindings.encode (.ofSettings s.conversion) = .error e) :
    Queues p s (.error e) { p with batchPlaceholders := some q }
  | queued {q : List Placeholder} {parameters : List Parameter}
      (opened : ensureOpen.outcome (p, s) = .ok ()) (types : p.bindings.placeholders = .ok q)
      (takes : p.Takes q) (encodes : p.bindings.encode (.ofSettings s.conversion) = .ok parameters) :
    Queues p s (.ok ()) { p with batch := p.batch ++ [parameters], batchPlaceholders := some q }

def queueBound : Method Unit := do
  let parameters ← boundParameters
  change fun p => { p with batch := p.batch ++ [parameters] }

theorem queues_queueBound {q : List Placeholder} (opened : ensureOpen.outcome (p, s) = .ok ())
    (types : p.bindings.placeholders = .ok q) (takes : p.Takes q) :
    Queues p s (queueBound.outcome ({ p with batchPlaceholders := some q }, s))
        (queueBound.final ({ p with batchPlaceholders := some q }, s)).1 ∧
      (queueBound.final ({ p with batchPlaceholders := some q }, s)).2 = s := by
  simp only [queueBound, boundParameters, change, outcome_bind, final_bind, outcome_get, final_get,
    outcome_modify, final_modify, outcome_ofExcept, final_ofExcept]
  cases encodes : p.bindings.encode (.ofSettings s.conversion) with
  | error e => exact ⟨.unencoded opened types takes encodes, rfl⟩
  | ok parameters => exact ⟨.queued opened types takes encodes, rfl⟩

theorem queues_addBatch (p : PreparedStatement) (s : Session) :
    Queues p s (addBatch.outcome (p, s)) (addBatch.final (p, s)).1 ∧ (addBatch.final (p, s)).2 = s := by
  simp only [addBatch, statement, change, outcome_bind, final_bind, final_ensureOpen, outcome_get, final_get,
    outcome_pure, final_pure, outcome_ofExcept, final_ofExcept]
  cases opened : ensureOpen.outcome (p, s) with
  | error e => exact ⟨.closed opened, rfl⟩
  | ok _ =>
    dsimp only
    cases types : p.bindings.placeholders with
    | error e => exact ⟨.untyped opened types, rfl⟩
    | ok q =>
      dsimp only
      cases noted : p.batchPlaceholders with
      | none => exact queues_queueBound opened types (.inl noted)
      | some queued =>
        by_cases same : queued = q
        · subst same
          -- what would be noted is noted already
          have run := queues_queueBound opened types (.inr noted)
          rw [← noted] at run
          simp only [bne_self_eq_false, Bool.false_eq_true, ↓reduceIte]
          exact run
        · have differs : ¬p.Takes q := by
            rw [Takes, noted]
            simpa using same
          have other : (queued != q) = true := bne_iff_ne.mpr same
          simp only [other, ↓reduceIte, outcome_bind, final_bind, outcome_throw, final_throw]
          exact ⟨.differs opened types differs, trivial⟩

structure Unencoded (p : PreparedStatement) (s : Session) (q : List Placeholder) : Prop where
  opened : ensureOpen.outcome (p, s) = .ok ()
  unnoted : p.batchPlaceholders = none
  types : p.bindings.placeholders = .ok q
  fails : ∀ parameters, p.bindings.encode (.ofSettings s.conversion) ≠ .ok parameters

theorem executeBatch_unnoted (opened : ensureOpen.outcome (p, s) = .ok ())
    (unnoted : p.batchPlaceholders = none) :
    executeBatch.outcome (p, s) = .ok [] ∧ executeBatch.final (p, s) = (p.clearBatch, s) := by
  simp only [executeBatch, statement, change, outcome_bind, final_bind, final_ensureOpen, opened, outcome_get,
    final_get, outcome_pure, final_pure, outcome_modify, final_modify, unnoted, and_self]

def rebound (p : PreparedStatement) (b : Bindings) : PreparedStatement :=
  { p with bindings := b }

theorem opened_of_closed_eq {p' : PreparedStatement} (opened : ensureOpen.outcome (p, s) = .ok ())
    (same : p'.closed = p.closed) : ensureOpen.outcome (p', s) = .ok () := by
  rw [← opened]
  simp only [ensureOpen, statement, outcome_bind, final_bind, outcome_get, final_get, outcome_pure,
    final_pure, same]
  split <;> simp only [outcome_bind, outcome_throw, outcome_onSecond]

theorem addBatch_error {e : Error} (fails : addBatch.outcome (p, s) = .error e) :
    (addBatch.final (p, s) = (p, s) ∧ ∀ q, ¬p.Unencoded s q) ∨
      ∃ q, p.Unencoded s q ∧ addBatch.final (p, s) = ({ p with batchPlaceholders := some q }, s) := by
  obtain ⟨run, same⟩ := p.queues_addBatch s
  rw [fails] at run
  generalize addBatch.final (p, s) = σ at run same ⊢
  obtain ⟨p', s'⟩ := σ
  dsimp only at run same
  subst same
  cases run with
  | closed refuses =>
    refine .inl ⟨rfl, fun q h => ?_⟩
    cases h.opened.symm.trans refuses
  | untyped _ lacks =>
    refine .inl ⟨rfl, fun q h => ?_⟩
    cases h.types.symm.trans lacks
  | differs _ _ noted => exact .inl ⟨rfl, fun q h => noted (.inl h.unnoted)⟩
  | @unencoded q _ opened types takes fails =>
    rcases takes with none | queued
    · refine .inr ⟨q, ⟨opened, none, types, fun parameters encodes => ?_⟩, rfl⟩
      cases fails.symm.trans encodes
    · refine .inl ⟨by rw [← queued], fun q h => ?_⟩
      cases h.unnoted.symm.trans queued

theorem addBatch_accepts {q : List Placeholder} {parameters : List Parameter}
    (opened : ensureOpen.outcome (p, s) = .ok ()) (types : p.bindings.placeholders = .ok q)
    (takes : p.Takes q) (encodes : p.bindings.encode (.ofSettings s.conversion) = .ok parameters) :
    addBatch.outcome (p, s) = .ok () := by
  have run := (p.queues_addBatch s).1
  generalize addBatch.outcome (p, s) = o, (addBatch.final (p, s)).1 = p' at run ⊢
  cases run with
  | closed refuses => cases opened.symm.trans refuses
  | untyped _ lacks => cases types.symm.trans lacks
  | differs _ types' noted =>
    cases types.symm.trans types'
    exact absurd takes noted
  | unencoded _ _ _ fails => cases encodes.symm.trans fails
  | queued => rfl

theorem addBatch_refuses {q : List Placeholder} (opened : ensureOpen.outcome (p, s) = .ok ())
    (types : p.bindings.placeholders = .ok q) (noted : ¬p.Takes q) :
    addBatch.outcome (p, s) = .error (.parameter .batchTypesDiffer) := by
  have run := (p.queues_addBatch s).1
  generalize addBatch.outcome (p, s) = o, (addBatch.final (p, s)).1 = p' at run ⊢
  cases run with
  | closed refuses => cases opened.symm.trans refuses
  | untyped _ lacks => cases types.symm.trans lacks
  | differs => rfl
  | unencoded _ types' takes | queued _ types' takes =>
    cases types.symm.trans types'
    exact absurd takes noted

/-- A failure to queue an entry changes nothing, so that a queue without noted types stays empty and takes
any later entry, unless no types were noted and the entry has its types but not its values. Then its types
are noted, and a later entry with other types is refused. -/
theorem addBatch_error_keeps_iff {e : Error} (fails : addBatch.outcome (p, s) = .error e) :
    (addBatch.final (p, s) = (p, s) ↔ ∀ q, ¬p.Unencoded s q) ∧
      ((∀ q, ¬p.Unencoded s q) → ensureOpen.outcome (p, s) = .ok () → p.batchPlaceholders = none →
        executeBatch.outcome (addBatch.final (p, s)) = .ok [] ∧
        (executeBatch.final (addBatch.final (p, s))).2 = s ∧
        ∀ b parameters, b.encode (.ofSettings s.conversion) = .ok parameters →
          addBatch.outcome ((addBatch.final (p, s)).1.rebound b, s) = .ok ()) ∧
      ∀ q, p.Unencoded s q →
        addBatch.final (p, s) = ({ p with batchPlaceholders := some q }, s) ∧
        ∀ b q', b.placeholders = .ok q' → q' ≠ q →
          addBatch.outcome ((addBatch.final (p, s)).1.rebound b, s) =
            .error (.parameter .batchTypesDiffer) := by
  rcases addBatch_error fails with ⟨kept, encoded⟩ | ⟨q, unencoded, noted⟩
  · refine ⟨⟨fun _ => encoded, fun _ => kept⟩, fun _ opened unnoted => ?_, fun q h => absurd h (encoded q)⟩
    rw [kept]
    obtain ⟨answers, final⟩ := executeBatch_unnoted opened unnoted
    refine ⟨answers, by rw [final], fun b parameters encodes => ?_⟩
    have stillOpen : ensureOpen.outcome (p.rebound b, s) = .ok () := opened_of_closed_eq opened rfl
    exact addBatch_accepts stillOpen (Bindings.placeholders_of_encode encodes) (.inl unnoted) encodes
  · refine ⟨⟨fun kept => ?_, fun none => absurd unencoded (none q)⟩, fun none => absurd unencoded (none q),
      fun q' h => ?_⟩
    · have signature := congrArg (fun σ => σ.1.batchPlaceholders) (noted.symm.trans kept)
      cases signature.trans unencoded.unnoted
    · cases h.types.symm.trans unencoded.types
      refine ⟨noted, fun b q' types other => ?_⟩
      rw [noted]
      have stillOpen : ensureOpen.outcome ({ p with batchPlaceholders := some q }.rebound b, s) = .ok () :=
        opened_of_closed_eq unencoded.opened rfl
      refine addBatch_refuses stillOpen types ?_
      rintro (none | some)
      · cases none
      · exact other (Option.some.inj some).symm

end PreparedStatement

namespace Client

open PreparedStatement

def binding (index : Nat) (value : HostValue) (declared : Option Atom) : List Command :=
  [.call (.connection (.prepare 0 "insert into t values (1)")),
    .call (.prepared 0 (.bind index value declared))]

def bound (index : Nat) (value : HostValue) (declared : Option Atom) : Client :=
  (start (.plain true)).after (binding index value declared)

def gappy : PreparedStatement :=
  (new "insert into t values (1)").rebound ⟨[none, some ⟨.int4, some (.int 1)⟩], true⟩

def worded : Bindings :=
  ⟨[some ⟨.character, some (.string "a")⟩], true⟩

theorem addBatch_error_keeps_gappy :
    (bound 2 (.int 1) none).prepared.get? 0 = some gappy ∧
      addBatch.outcome (gappy, (bound 2 (.int 1) none).session) = .error (.parameter (.notSet 1)) ∧
      executeBatch.outcome (addBatch.final (gappy, (bound 2 (.int 1) none).session)) = .ok [] ∧
      addBatch.outcome ((addBatch.final (gappy, (bound 2 (.int 1) none).session)).1.rebound worded,
        (bound 2 (.int 1) none).session) = .ok () := by
  have fails : addBatch.outcome (gappy, (bound 2 (.int 1) none).session) =
      .error (.parameter (.notSet 1)) := rfl
  have untyped (q : List Placeholder) : ¬gappy.Unencoded (bound 2 (.int 1) none).session q := by
    intro h
    cases h.types
  obtain ⟨empty, -, accepts⟩ := (addBatch_error_keeps_iff fails).2.1 untyped rfl rfl
  exact ⟨rfl, fails, empty, accepts worded _ rfl⟩

def misread : PreparedStatement :=
  (new "insert into t values (1)").rebound ⟨[some ⟨.int4, some (.string "x")⟩], true⟩

theorem addBatch_notes_misread :
    ¬∀ k : Client, k.Reached → ∀ n p e, k.prepared.get? n = some p →
      addBatch.outcome (p, k.session) = .error e →
        (addBatch.final (p, k.session)).1.batchPlaceholders = p.batchPlaceholders := by
  intro law
  have reached : (bound 1 (.string "x") (some .int4)).Reached := reached_of_start (.plain true) (by decide)
  have same := law _ reached 0 misread _ rfl rfl
  have noted : (addBatch.final (misread, (bound 1 (.string "x") (some .int4)).session)).1.batchPlaceholders =
      some [⟨placeholderName 1, .int4⟩] := rfl
  cases noted.symm.trans same

end Client

end SqlClient
