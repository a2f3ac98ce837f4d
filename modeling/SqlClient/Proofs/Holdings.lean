import Mathlib.Data.List.Perm.Basic
import SqlClient.Proofs.Steering

namespace SqlClient

open SqlClient.Action Relation Session

namespace Keyed

variable {κ α : Type}

def values (m : Keyed κ α) : List α :=
  m.entries.map Prod.snd

variable [DecidableEq κ] {m : Keyed κ α} {k : κ} {a : α}

theorem values_put (m : Keyed κ α) (k : κ) (a : α) : (m.put k a).values = a :: (m.erase k).values :=
  rfl

theorem values_erase_of_none (h : m.get? k = none) : (m.erase k).values = m.values := by
  have keeps : m.entries.filter (fun e => e.1 ≠ k) = m.entries := by
    rw [List.filter_eq_self]
    simpa [get?] using h
  simp only [values, erase, keeps]

theorem values_put_of_none (h : m.get? k = none) (a : α) : (m.put k a).values = a :: m.values := by
  rw [values_put, values_erase_of_none h]

theorem values_erase_put (m : Keyed κ α) (k : κ) (a : α) :
    ((m.put k a).erase k).values = (m.erase k).values := by
  simp [values, erase, put]

theorem exists_of_mem_values (h : a ∈ m.values) : ∃ k, m.get? k = some a := by
  obtain ⟨entries, nodup⟩ := m
  simp only [values, get?] at h ⊢
  induction entries with
  | nil => cases h
  | cons e entries ih =>
    rw [List.map_cons, List.nodup_cons] at nodup
    rcases List.mem_cons.mp h with same | later
    · exact ⟨e.1, by simp [same]⟩
    · obtain ⟨k, finds⟩ := ih nodup.2 later
      have other : e.1 ≠ k := by
        rintro rfl
        obtain ⟨e', found, -⟩ := Option.map_eq_some_iff.mp finds
        have key : e'.1 = e.1 := by simpa using List.find?_some found
        exact nodup.1 (key ▸ List.mem_map_of_mem (List.mem_of_find?_eq_some found))
      refine ⟨k, ?_⟩
      rw [List.find?_cons_of_neg (by simpa using other)]
      exact finds

theorem perm_values_of_get? (h : m.get? k = some a) : m.values.Perm (a :: (m.erase k).values) := by
  obtain ⟨entries, nodup⟩ := m
  simp only [get?, values, erase] at h ⊢
  induction entries with
  | nil => cases h
  | cons e entries ih =>
    rw [List.map_cons, List.nodup_cons] at nodup
    by_cases he : e.1 = k
    · -- no later entry has the key
      have keeps : entries.filter (fun e => e.1 ≠ k) = entries := by
        rw [List.filter_eq_self]
        intro e' mem
        have other : e'.1 ≠ e.1 := fun same => nodup.1 (same ▸ List.mem_map_of_mem mem)
        simpa [← he] using other
      simp only [List.find?_cons, he, decide_true, Option.map_some, Option.some.injEq] at h
      subst h
      rw [List.filter_cons_of_neg (by simp [he]), keeps]
      exact .refl _
    · rw [List.find?_cons_of_neg (by simp [he])] at h
      rw [List.filter_cons_of_pos (by simp [he]), List.map_cons, List.map_cons]
      exact (List.Perm.cons e.2 (ih nodup.2 h)).trans (.swap _ _ _)

end Keyed

namespace PreparedStatement

structure Retains (σ σ' : PreparedStatement × Session) : Prop where
  session : σ'.2 = σ.2
  remote : σ'.1.remote = σ.1.remote
  closed : σ'.1.closed = σ.1.closed

variable {α : Type} {f : PreparedStatement → PreparedStatement}

theorem retaining_statement : statement.Follows Retains id :=
  follows_of_final_eq fun _ => rfl

theorem retaining_change (remote : ∀ p, (f p).remote = p.remote)
    (closed : ∀ p, (f p).closed = p.closed) : (change f).Follows Retains id :=
  fun σ => .single ⟨rfl, remote σ.1, closed σ.1⟩

theorem retaining_ensureOpen : ensureOpen.Follows Retains id :=
  follows_of_final_eq final_ensureOpen

theorem retaining_bind (index : Nat) (value : HostValue) (declared : Option Atom) :
    (bind index value declared).Follows Retains id :=
  retaining_ensureOpen.bind fun _ => retaining_statement.bind fun _ =>
    Follows.bind (retaining_change (fun _ => rfl) fun _ => rfl) fun _ => follows_ofExcept _

theorem retaining_addBatch : addBatch.Follows Retains id := by
  have queues : Follows Retains id (do
      let parameters ← boundParameters
      change fun p => { p with batch := p.batch ++ [parameters] }) :=
    (follows_get.bind fun _ => follows_ofExcept _).bind fun _ =>
      retaining_change (fun _ => rfl) fun _ => rfl
  refine retaining_ensureOpen.bind fun _ => retaining_statement.bind fun _ =>
    (follows_ofExcept _).bind fun _ => retaining_statement.bind fun p => ?_
  dsimp only
  split
  · split
    · exact follows_throw_bind _ _
    · exact queues
  · exact Follows.bind (retaining_change (fun _ => rfl) fun _ => rfl) fun _ => queues

theorem Retains.of_run {σ σ' : PreparedStatement × Session} (h : ReflTransGen Retains σ σ') :
    Retains σ σ' := by
  induction h with
  | refl => exact ⟨rfl, rfl, rfl⟩
  | tail _ last ih =>
    exact ⟨last.session.trans ih.session, last.remote.trans ih.remote, last.closed.trans ih.closed⟩

end PreparedStatement

structure Holding where
  cursors : List Cursor
  prepared : List PreparedStatement
  session : Session

def leaves : Except Error (Option Cursor) → List Cursor
  | .ok (some c) => [c]
  | _ => []

def TimesOut {α : Type} (r : Except Error α) : Prop :=
  ∃ op ms, r = .error (.timeout op ms)

/-- A statement that times out rolls back what is live, so it needs the permit to do so. -/
inductive Does (p : Permit) : Holding → Holding → Prop
  | rearrange {cs cs' : List Cursor} {ps ps' : List PreparedStatement} (hc : cs.Perm cs')
      (hp : ps.Perm ps') (s : Session) : Does p ⟨cs, ps, s⟩ ⟨cs', ps', s⟩
  | steer {s t : Session} (h : Steers p s t) (cs : List Cursor) (ps : List PreparedStatement) :
    Does p ⟨cs, ps, s⟩ ⟨cs, ps, t⟩
  | execute {early : Bool} {α : Type} {x : Action Session α} {opens : α → Option Cursor}
      (hx : Statement.IsExecution early x opens) {s : Session}
      (aborts : TimesOut (x.outcome s) → ∀ tx, p.completes .rollback tx) (cs : List Cursor)
      (ps : List PreparedStatement) :
    Does p ⟨cs, ps, s⟩ ⟨leaves ((x.outcome s).map opens) ++ cs, ps, x.final s⟩
  | executePrepared {α : Type} {x : PreparedStatement.Method α} {opens : α → Option Cursor}
      (hx : PreparedStatement.IsExecution x opens) {q : PreparedStatement} {s : Session}
      (aborts : TimesOut (x.outcome (q, s)) → ∀ tx, p.completes .rollback tx) (cs : List Cursor)
      (ps : List PreparedStatement) :
    Does p ⟨cs, q :: ps, s⟩
      ⟨leaves ((x.outcome (q, s)).map opens) ++ cs, (x.final (q, s)).1 :: ps, (x.final (q, s)).2⟩
  | useCursor {α : Type} {x : Cursor.Method α} (hx : Cursor.IsMethod x) (c : Cursor)
      (cs : List Cursor) (ps : List PreparedStatement) (s : Session) :
    Does p ⟨c :: cs, ps, s⟩ ⟨(x.final (c, s)).1 :: cs, ps, (x.final (c, s)).2⟩
  | discardCursor {c : Cursor} (closed : c.isClosed = true) (cs : List Cursor)
      (ps : List PreparedStatement) (s : Session) : Does p ⟨c :: cs, ps, s⟩ ⟨cs, ps, s⟩
  | prepare (sql : String) (cs : List Cursor) (ps : List PreparedStatement) (s : Session) :
    Does p ⟨cs, ps, s⟩ ⟨cs, .new sql :: ps, s⟩
  | changePrepared {q q' : PreparedStatement} (remote : q'.remote = q.remote)
      (closed : q'.closed = q.closed) (cs : List Cursor) (ps : List PreparedStatement) (s : Session) :
    Does p ⟨cs, q :: ps, s⟩ ⟨cs, q' :: ps, s⟩
  | closePrepared (q : PreparedStatement) (cs : List Cursor) (ps : List PreparedStatement)
      (s : Session) :
    Does p ⟨cs, q :: ps, s⟩
      ⟨cs, (PreparedStatement.close.final (q, s)).1 :: ps, (PreparedStatement.close.final (q, s)).2⟩
  | discardPrepared {q : PreparedStatement} (closed : q.closed = true) (cs : List Cursor)
      (ps : List PreparedStatement) (s : Session) : Does p ⟨cs, q :: ps, s⟩ ⟨cs, ps, s⟩

theorem Does.moves {p : Permit} {h h' : Holding} (does : Does p h h') :
    ReflTransGen Move h.session h'.session := by
  have every (r : Request) : True := trivial
  cases does with
  | rearrange | discardCursor | prepare | changePrepared | discardPrepared => exact .refl
  | steer steers => exact steers.moves
  | execute hx =>
    cases hx with
    | query st sql => exact st.moving_executeQuery every sql _
    | update st sql => exact st.moving_executeUpdate every sql _
    | execute st sql => exact st.moving_execute every sql _
    | batch st batch => exact st.moving_executeAll every batch _
  | @executePrepared _ _ _ hx q s =>
    exact PreparedStatement.moves_session (hx.isMethod.moving (q, s))
  | useCursor hx c _ _ s => exact Cursor.moving_of_tidying hx.tidying every (c, s)
  | closePrepared q _ _ s =>
    exact PreparedStatement.moves_session (PreparedStatement.moving_close (fun _ => trivial) (q, s))

end SqlClient
