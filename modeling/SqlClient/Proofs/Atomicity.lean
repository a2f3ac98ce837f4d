import SqlClient.Proofs.AutocommitStatements
import SqlClient.Proofs.PreparedRuns

namespace SqlClient

open SqlClient.Action Relation Session

def Call.isUpdate : Call → Bool
  | .statement _ (.update _) | .statement _ (.execute ..) | .statement _ .executeBatch
  | .prepared _ .update | .prepared _ (.execute _) | .prepared _ .executeBatch => true
  | _ => false

def Call.counts : (c : Call) → c.Answer → Bool
  | .statement _ (.execute ..), count | .prepared _ (.execute _), count => count.isSome
  | _, _ => true

def StatementCall.writes (st : Statement) : StatementCall → List Write
  | update sql | execute _ sql => (Sql.write? sql []).toList
  | executeBatch => st.batch.filterMap fun sql => Sql.write? sql []
  | _ => []

def StatementCall.isVacant (st : Statement) : StatementCall → Bool
  | executeBatch => st.batch.isEmpty
  | _ => false

def PreparedCall.writes (p : PreparedStatement) (settings : ConversionSettings) :
    PreparedCall → List Write
  | update | execute _ => p.writes settings
  | executeBatch => p.batch.filterMap (Sql.write? p.sql)
  | _ => []

def PreparedCall.isVacant (p : PreparedStatement) : PreparedCall → Bool
  | executeBatch => p.batch.isEmpty
  | _ => false

namespace Client

def writes (k : Client) : Call → List Write
  | .statement n c => ((k.statements.get? n).map fun st => c.writes st).getD []
  | .prepared n c => ((k.prepared.get? n).map fun p => c.writes p k.session.conversion).getD []
  | _ => []

def isVacant (k : Client) : Call → Bool
  | .statement n c => ((k.statements.get? n).map fun st => c.isVacant st).getD false
  | .prepared n c => ((k.prepared.get? n).map fun p => c.isVacant p).getD false
  | _ => false

structure Carried (k : Client) (ws : List Write) (vacant : Bool) (k' : Client) : Prop where
  tables : k'.session.server.tables = ws.foldl Server.applyWrite k.session.server.tables
  ended : (∀ tx, k'.session.isClosed tx = true) ∨ vacant ∧ k'.session = k.session

structure Dropped (k k' : Client) : Prop where
  tables : k'.session.server.tables = k.session.server.tables
  never : Adds (Request.OnlyRuns fun tx => ∀ cs : List Command, (∀ c ∈ cs, c.isDirect = false) →
    .completed .commit tx ∉ (k'.after cs).session.server.events) k.session k'.session

variable {α : Type} {k : Client} {s₀ : Session} {ws : List Write} {vacant : Bool}
  {D E : Session → Prop}

theorem carried_of_done {k' : Client} (h : Done k.session ws k'.session) : k.Carried ws vacant k' :=
  ⟨h.tables, .inl h.closed⟩

theorem carried_of_batch {ι : Type} {batch : List ι} {write? : ι → Option Write} {k' : Client}
    (h : Done k.session (batch.filterMap write?) k'.session ∨
      batch = [] ∧ k'.session = k.session) :
    k.Carried (batch.filterMap write?) batch.isEmpty k' := by
  rcases h with done | ⟨rfl, same⟩
  · exact carried_of_done done
  · exact ⟨by rw [same]; rfl, .inr ⟨rfl, same⟩⟩

theorem dropped_of_spent {k' : Client} (numbered : k'.session.Numbered)
    (h : Spent k.session k'.session) : k.Dropped k' := by
  refine ⟨h.tables, h.ran.allow fun tx abandoned cs hcs => ?_⟩
  -- what is closed without a commit stays so, since only an open transaction is completed
  have kept := numbered.run (I := fun s => s.Abandoned tx) (fun _ _ step hs => step.abandoned hs)
    (moves_after hcs k') abandoned
  exact kept.uncommitted

theorem ensures_dropCursor (n : Nat) (hD : ∀ s t, Tidies s t → D s → D t) :
    Ensures (fun k => D k.session) (dropCursor n) (fun _ k => D k.session)
      (fun k => E k.session) := by
  have drops : Ensures (fun σ : Cursor × Session => D σ.2) Cursor.drop (fun _ σ => D σ.2)
      (fun σ => E σ.2) := by
    intro σ hσ
    rw [Cursor.drop, outcome_bestEffort, final_bestEffort]
    exact Cursor.tidying_close.keeps hD hσ
  refine ensures_get.bind fun k => ?_
  split
  · exact ensures_pure fun _ h => h.1
  next c _ =>
    have drop : Ensures (fun k => D k.session) (onCursor n c Cursor.drop) (fun _ k => D k.session)
        (fun k => E k.session) := drops.zoom (fun _ h => h) (fun _ _ _ h => h) fun _ _ h => h
    exact (drop.pre fun _ h => h.1).bind fun _ => ensures_modify fun _ h => h

theorem ensures_keepOutcome (n : Nat) {x : Action Client Outcome} {P : Client → Prop}
    (hx : Ensures P x (fun outcome k => ∀ count, outcome = .updated count → D k.session)
      (fun k => E k.session))
    (hD : ∀ s t, Tidies s t → D s → D t) (hE : ∀ s t, Tidies s t → E s → E t) :
    Ensures P (keepOutcome n x) (fun count k => count.isSome → D k.session)
      (fun k => E k.session) := by
  refine hx.attempt.bind fun outcome => ?_
  match outcome with
  | .error e => exact (ensures_dropCursor n hE).bind fun _ => ensures_throw fun _ h => h
  | .ok (.updated count) =>
    refine ((ensures_dropCursor n hD).pre fun _ h => h count rfl).bind fun _ => ?_
    exact ensures_pure fun _ h _ => h
  | .ok (.rows c) =>
    have drops := @ensures_dropCursor (fun _ => True) E n fun _ _ _ _ => trivial
    have keeps : Ensures (fun _ => True)
        (do
          modify fun k : Client => { k with cursors := k.cursors.put n c }
          return none)
        (fun (count : Option Nat) k => count.isSome → D k.session) (fun k => E k.session) :=
      Ensures.bind (Q := fun _ _ => True) (ensures_modify fun _ _ => trivial) fun _ =>
        ensures_pure fun _ _ h => by cases h
    exact (drops.pre fun _ _ => trivial).bind fun _ => keeps

abbrev Atomic (k : Client) (ws : List Write) (vacant : Bool) (counts : α → Bool)
    (x : Action Client α) : Prop :=
  Ensures (fun k' => k' = k) x (fun a k' => counts a → k.Carried ws vacant k')
    (fun k' => Spent k.session k'.session)

theorem atomic_keepOutcome (n : Nat) {x : Action Client Outcome}
    (hx : Ensures (fun k' => k' = k) x
      (fun outcome k' => (∀ count, outcome = .updated count → Done k.session ws k'.session) ∧
        k'.session.Regular)
      (fun k' => Spent k.session k'.session ∧ k'.session.Regular)) :
    Atomic k ws vacant Option.isSome (keepOutcome n x) := by
  have outcome := ensures_keepOutcome n
    (D := fun s => Done k.session ws s ∧ s.Regular) (E := fun s => Spent k.session s ∧ s.Regular)
    (hx.post fun _ _ h count same => ⟨h.1 count same, h.2⟩)
    (fun s t tidies h => ⟨h.1.calm (tidies.calm h.2), tidies.regular h.2⟩)
    (fun s t tidies h => ⟨h.1.calm (tidies.calm h.2), tidies.regular h.2⟩)
  exact (outcome.post fun _ _ h counts => carried_of_done (h counts).1).fails fun _ h => h.1

end Client

theorem StatementCall.atomic_perform {k : Client} {n : Nat} {c : StatementCall} (st : Statement)
    (updates : (Call.statement n c).isUpdate) (idle : Idle k.session k.session) :
    Client.Atomic k (c.writes st) (c.isVacant st) (Call.statement n c).counts (c.perform n st) := by
  have starts (k' : Client) (same : k' = k) : Idle k.session k'.session := same ▸ idle
  cases c with
  | update sql =>
    exact (st.ensures_executeUpdate sql).zoom starts (fun _ _ _ h _ => Client.carried_of_done h)
      fun _ _ h => h
  | execute keep sql =>
    apply Client.atomic_keepOutcome
    have execute := (@Statement.ensures_execute k.session st sql).along (I := Regular)
      (Statement.moving_execute (fun _ => trivial) st sql) fun _ _ move h => h.move move
    exact execute.zoom (fun _ same => ⟨starts _ same, same ▸ idle.regular⟩) (fun _ _ _ h => h)
      fun _ _ h => h
  | executeBatch =>
    refine (@Statement.ensures_executeBatch k.session st).zoom ?_
      (fun _ _ _ h _ => Client.carried_of_batch h) fun _ _ h => h
    rintro _ rfl
    exact ⟨rfl, idle⟩
  | _ => cases updates

theorem PreparedCall.atomic_perform {k : Client} {n : Nat} {p : PreparedStatement} {c : PreparedCall}
    (updates : (Call.prepared n c).isUpdate) (begins : p.Begins k.session (p, k.session)) :
    Client.Atomic k (c.writes p k.session.conversion) (c.isVacant p) (Call.prepared n c).counts
      (c.perform n p) := by
  have starts (k' : Client) (same : k' = k) : p.Begins k.session (p, k'.session) := same ▸ begins
  cases c with
  | update =>
    exact PreparedStatement.ensures_executeUpdate.zoom starts
      (fun _ _ _ h _ => Client.carried_of_done h) fun _ _ h => h
  | execute keep =>
    apply Client.atomic_keepOutcome
    have execute := (@PreparedStatement.ensures_execute k.session p).along (I := fun σ => σ.2.Regular)
      PreparedStatement.IsMethod.execute.moving fun _ _ move h =>
        h.run (PreparedStatement.moves_session (.single move))
    exact execute.zoom (fun _ same => ⟨starts _ same, same ▸ begins.idle.regular⟩) (fun _ _ _ h => h)
      fun _ _ h => h
  | executeBatch =>
    exact PreparedStatement.ensures_executeBatch.zoom starts
      (fun _ _ _ h _ => Client.carried_of_batch h) fun _ _ h => h
  | _ => cases updates

namespace Client

variable {k : Client}

theorem atomic_runOn {α ο : Type} {ws : List Write} {vacant : Bool} {counts : α → Bool}
    {object : Option ο} {x : ο → Action Client α}
    (hx : ∀ o, object = some o → Atomic k ws vacant counts (x o)) :
    (∀ answer, (runOn object x k).1 = some (.ok answer) → counts answer →
        k.Carried ws vacant (runOn object x k).2) ∧
      ∀ e, (runOn object x k).1 = some (.error e) →
        Spent k.session (runOn object x k).2.session := by
  rw [runOn_eq]
  cases object with
  | none => exact ⟨fun _ h => (nomatch h), fun _ h => (nomatch h)⟩
  | some o =>
    have ends := hx o rfl k rfl
    dsimp only
    cases ho : (x o).outcome k with
    | error e =>
      rw [ho] at ends
      exact ⟨fun _ h => (nomatch h), fun _ _ => ends⟩
    | ok a =>
      rw [ho] at ends
      refine ⟨fun answer h => ?_, fun _ h => (nomatch h)⟩
      cases h
      exact ends

/-- A call that executes statements while the next transaction is an autocommit one carries out all of
their writes and ends the transaction, or else it fails and none of them is ever carried out. -/
theorem Reached.autocommit_atomic (h : k.Reached) {c : Call} (updates : c.isUpdate)
    (auto : k.session.nextMode = true) :
    (∀ answer, (k.call c).1 = some (.ok answer) → c.counts answer →
        k.Carried (k.writes c) (k.isVacant c) (k.call c).2) ∧
      ∀ e, (k.call c).1 = some (.error e) → k.Dropped (k.call c).2 := by
  have idle : Idle k.session k.session := ⟨h.regular, auto, rfl, .refl _⟩
  have numbered : (k.call c).2.session.Numbered :=
    (@Reached.after k h [.call c] (by simp [Command.isDirect])).numbered
  have atomic : (∀ answer, (k.call c).1 = some (.ok answer) → c.counts answer →
      k.Carried (k.writes c) (k.isVacant c) (k.call c).2) ∧
        ∀ e, (k.call c).1 = some (.error e) → Spent k.session (k.call c).2.session := by
    cases c with
    | statement n c =>
      refine atomic_runOn fun st known => ?_
      rw [writes, isVacant, known]
      exact c.atomic_perform st updates idle
    | prepared n c =>
      refine atomic_runOn fun p known => ?_
      rw [writes, isVacant, known]
      exact c.atomic_perform updates ⟨rfl, ⟨h.sound.2 n p known, h.sound.1⟩, idle⟩
    | connection | coordinator | handle | cursor => cases updates
  exact ⟨atomic.1, fun e failed => dropped_of_spent numbered (atomic.2 e failed)⟩

def insertable (failures : List Command) : List Command :=
  [.arrange (.createTable "t" []), .call (.connection (.statement 0))] ++ failures

def insertion : Call :=
  .statement 0 (.update "insert into t values (1)")

theorem autocommit_atomic_insertion :
    ((start (.plain true)).after (insertable [])).Carried [.insert "t" [.int8 1]] false
        (((start (.plain true)).after (insertable [])).call insertion).2 ∧
      ((start (.plain true)).after (insertable [.arrange (.failNext .commit "lost")])).Dropped
        (((start (.plain true)).after (insertable [.arrange (.failNext .commit "lost")])).call
          insertion).2 := by
  have opens := @reached_of_start (.plain true) (insertable []) (by decide)
  have fails := @reached_of_start (.plain true) (insertable [.arrange (.failNext .commit "lost")])
    (by decide)
  have counted : (((start (.plain true)).after (insertable [])).call insertion).1 =
      some (.ok (1 : Nat)) := rfl
  have failed : (((start (.plain true)).after
      (insertable [.arrange (.failNext .commit "lost")])).call insertion).1 =
        some (.error (.commit (.arranged "lost"))) := rfl
  have written : ((start (.plain true)).after (insertable [])).writes insertion =
      [.insert "t" [.int8 1]] := by decide
  have needed : ((start (.plain true)).after (insertable [])).isVacant insertion = false := rfl
  refine ⟨?_, ?_⟩
  · rw [← written, ← needed]
    exact (opens.autocommit_atomic (c := insertion) rfl (by decide)).1 _ counted rfl
  · exact (fails.autocommit_atomic (c := insertion) rfl (by decide)).2 _ failed

end Client

end SqlClient
