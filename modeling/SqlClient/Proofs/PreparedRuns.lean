import SqlClient.Proofs.PreparedExecutions
import SqlClient.Proofs.Runs

namespace SqlClient

open SqlClient.Action Session Relation

namespace PreparedStatement

theorem keeps_change {f : PreparedStatement → PreparedStatement}
    (h : ∀ p s, p.Sound s → (f p).Sound s) : Keeps (change f) :=
  ensures_change fun σ hσ => ⟨h σ.1 σ.2 hσ.1, hσ.2⟩

theorem IsMethod.keeps {α : Type} {x : Method α} (hx : IsMethod x) : Keeps x := by
  cases hx with
  | bind index value declared => exact keeps_bind index value declared
  | executeQuery => exact keeps_executeQuery
  | executeUpdate => exact keeps_executeUpdate
  | execute => exact keeps_execute
  | addBatch => exact keeps_addBatch
  | executeBatch => exact keeps_executeBatch
  | close => exact keeps_close
  | clearParameters =>
    refine keeps_change fun p s hp => { hp with remote := fun r hr => ?_ }
    obtain ⟨q, hq, flag⟩ := hp.remote r hr
    refine ⟨q, hq, fun down q' hq' => flag down q' ?_⟩
    rwa [← Bindings.placeholders_congr Bindings.atoms_clear]
  | clearBatch => exact keeps_change fun p s hp => { hp with queued := fun _ h => by cases h }
  | setMaxRows | setTimeout => exact keeps_change fun p s hp => { hp with }

end PreparedStatement

namespace Client

variable {k k' : Client}

def Sound (k : Client) : Prop :=
  k.session.Named ∧ ∀ n p, k.prepared.get? n = some p → p.Sound k.session

theorem sound_extends {s t : Session} {p : PreparedStatement} (hp : p.Sound s)
    (moves : ReflTransGen Move s t) : p.Sound t := by
  obtain ⟨added, exchanges, -⟩ := adds_of_puts (puts_of_moves moves)
  refine hp.extends fun e he => ?_
  rw [exchanges]
  exact List.mem_append_left _ he

theorem Sound.elsewhere (hk : k.Sound) (moves : ReflTransGen Move k.session k'.session)
    (same : k'.prepared = k.prepared) : k'.Sound := by
  refine ⟨hk.1.run (puts_of_moves moves), fun n p hp => ?_⟩
  rw [same] at hp
  exact sound_extends (hk.2 n p hp) moves

theorem Sound.put (hk : k.Sound) {n : Nat} {p : PreparedStatement} (hp : p.Sound k.session) :
    Sound { k with prepared := k.prepared.put n p } := by
  refine ⟨hk.1, fun n' p' hp' => ?_⟩
  by_cases hn : n' = n
  · subst hn
    cases (Keyed.get?_put_self k.prepared n' p).symm.trans hp'
    exact hp
  · exact hk.2 n' p' ((Keyed.get?_put_of_ne _ _ hn).symm.trans hp')

theorem Sound.erase (hk : k.Sound) (n : Nat) :
    Sound { k with prepared := k.prepared.erase n } := by
  refine ⟨hk.1, fun n' p' hp' => ?_⟩
  by_cases hn : n' = n
  · subst hn
    cases (Keyed.get?_erase_self k.prepared n').symm.trans hp'
  · exact hk.2 n' p' ((Keyed.get?_erase_of_ne _ hn).symm.trans hp')

theorem Sound.act (hk : k.Sound) (h : Acts k k') : k'.Sound := by
  have moves := h.moves
  cases h with
  | session => exact hk.elsewhere moves (by rw [final_onSession])
  | statement => exact hk.elsewhere moves (by rw [final_onStatement])
  | cursor => exact hk.elsewhere moves (by rw [final_onCursor])
  | hold => exact hk.elsewhere .refl rfl
  | prepare n sql => exact hk.put (PreparedStatement.sound_new sql k.session)
  | forget n => exact hk.erase n
  | @prepared _ x hx n p _ known =>
    have inOrder : PreparedStatement.InOrder (x.final (p, k.session)) :=
      hx.keeps.of_kept ⟨hk.2 n p known, hk.1⟩
    have moved : Sound { k with session := (x.final (p, k.session)).2 } :=
      hk.elsewhere (PreparedStatement.moves_session (hx.moving (p, k.session))) rfl
    rw [final_onPrepared]
    exact moved.put inOrder.1

theorem Sound.acts (hk : k.Sound) (h : ReflTransGen Acts k k') : k'.Sound := by
  induction h with
  | refl => exact hk
  | tail _ act ih => exact ih.act act

theorem Reached.sound (h : k.Reached) : k.Sound := by
  refine h.induct (fun config => ⟨.opened config, fun n p hp => by cases hp⟩) fun k c hc hk => ?_
  cases c with
  | arrange a => exact hk.elsewhere (.single (.arrange (fun _ => trivial) a k.session)) rfl
  | call c => exact hk.acts (k.acts_call c)
  | direct r => cases hc

/-- Whichever method of a prepared statement is called, it notes what it puts to the server, and every
execution among all that was noted fits what the statement had prepared before and not given back. -/
theorem Reached.prepared_faithful (h : k.Reached) {n : Nat} {p : PreparedStatement}
    (hp : k.prepared.get? n = some p) {α : Type} {x : PreparedStatement.Method α}
    (hx : PreparedStatement.IsMethod x) :
    ∃ added, (x.final (p, k.session)).2.exchanges = k.session.exchanges ++ added ∧
      (x.final (p, k.session)).1.sent = p.sent ++ added ∧ Faithful p.sql (p.sent ++ added) := by
  have moves : ReflTransGen (PreparedStatement.Moves fun _ => True) (p, k.session)
      (x.final (p, k.session)) := hx.moving _
  obtain ⟨sql, added, exchanges, sent⟩ := PreparedStatement.noted_of_moves moves
  have inOrder : PreparedStatement.InOrder (x.final (p, k.session)) :=
    hx.keeps.of_kept ⟨h.sound.2 n p hp, h.sound.1⟩
  have faithful := inOrder.1.faithful
  rw [sql, sent] at faithful
  exact ⟨added, exchanges, sent, faithful⟩

def retyped : List Command :=
  [.arrange (.createTable "t" []), .call (.connection (.prepare 0 "insert into t values (1)")),
    .call (.prepared 0 (.bind 1 (.int 1) none)), .call (.prepared 0 .update),
    .call (.prepared 0 (.bind 1 (.string "a") none))]

theorem prepared_faithful_retyped : ∃ p, ((start (.plain true)).after retyped).Reached ∧
    ((start (.plain true)).after retyped).prepared.get? 0 = some p ∧
      ∃ added, (PreparedStatement.executeUpdate.final
        (p, ((start (.plain true)).after retyped).session)).1.sent = p.sent ++ added ∧
          Faithful p.sql (p.sent ++ added) := by
  have reached := @reached_of_start (.plain true) retyped (by decide)
  obtain ⟨p, hp⟩ := Option.isSome_iff_exists.mp
    (show (((start (.plain true)).after retyped).prepared.get? 0).isSome by decide)
  obtain ⟨added, -, sent, faithful⟩ := reached.prepared_faithful hp .executeUpdate
  exact ⟨p, reached, hp, added, sent, faithful⟩

end Client

end SqlClient
