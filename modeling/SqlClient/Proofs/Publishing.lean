import SqlClient.Proofs.Exchanges
import SqlClient.Proofs.Writes

namespace SqlClient

open Relation Session

namespace Server

variable {s t : Server} {r : Request} {tx : TransactionId} {name : String}

inductive Arises : Server → Prop
  | new : Arises .new
  | arrange {s : Server} (h : Arises s) (a : Arrangement) : Arises (s.arrange a).2
  | answer {s : Server} (h : Arises s) (r : Request) : Arises (s.answer r).2

def Grounded (s : Server) : Prop :=
  ∀ tx name row, .insert name row ∈ s.staged tx → s.tables.contains name

theorem get?_applyWrite (tables : Keyed String Table) (w : Write) (name : String) :
    (applyWrite tables w).get? name =
      (tables.get? name).map fun table => { table with rows := writeRows name table.rows w } := by
  cases w with
  | insert written | clear written =>
    by_cases own : written = name
    · subst own
      simp only [applyWrite, writeRows, Keyed.get?_update_self, ↓reduceIte]
    · simp only [applyWrite, writeRows, Keyed.get?_update_of_ne _ _ (Ne.symm own), if_neg own,
        Option.map_id']

theorem get?_foldl_applyWrite (writes : List Write) (tables : Keyed String Table) (name : String) :
    (writes.foldl applyWrite tables).get? name =
      (tables.get? name).map fun table =>
        { table with rows := writes.foldl (writeRows name) table.rows } := by
  induction writes generalizing tables with
  | nil => exact Option.map_id'.symm
  | cons w writes ih =>
    rw [List.foldl_cons, ih, get?_applyWrite, Option.map_map]
    rfl

theorem foldl_writeRows_of_not_inserted {writes : List Write}
    (absent : ∀ row, .insert name row ∉ writes) : writes.foldl (writeRows name) [] = [] := by
  induction writes with
  | nil => rfl
  | cons w writes ih =>
    have nothing : writeRows name [] w = [] := by
      cases w with
      | insert written row =>
        apply if_neg
        rintro rfl
        exact absent row List.mem_cons_self
      | clear written => exact ite_self []
    rw [List.foldl_cons, nothing]
    exact ih fun row h => absent row (List.mem_cons_of_mem _ h)

theorem tableRows_foldl_applyWrite {writes : List Write} {tables : Keyed String Table}
    (found : tables.contains name ∨ ∀ row, .insert name row ∉ writes) :
    tableRows (writes.foldl applyWrite tables) name =
      writes.foldl (writeRows name) (tableRows tables name) := by
  rw [tableRows, tableRows, get?_foldl_applyWrite]
  cases known : tables.get? name with
  | some table => rfl
  | none =>
    have absent := found.resolve_left (by simp [Keyed.contains, known])
    exact (foldl_writeRows_of_not_inserted absent).symm

theorem Performs.contains_tables {a : r.Answer} (h : s.Performs r a t) (name : String) :
    t.tables.contains name = s.tables.contains name := by
  cases h with
  | @complete how tx writes =>
    cases how with
    | commit =>
      simp only [Keyed.contains, record, tablesAfter, get?_foldl_applyWrite, Option.isSome_map]
    | rollback => rfl
  | _ => rfl

theorem contains_of_effectOf {parameters : List Parameter} {shape : SqlShape} {row : Row} {count : Nat}
    (h : s.effectOf tx parameters shape = .ok (some (.insert name row), count)) :
    s.tables.contains name := by
  cases shape with
  | insert table literals =>
    simp only [effectOf] at h
    split at h
    next found =>
      cases h
      exact found
    next => cases h
  | delete | select | other => cases h

theorem mem_staged_of_put {tx' : TransactionId} {writes : List Write} {w : Write}
    (put : t.transactions = s.transactions.put tx' writes) (h : w ∈ t.staged tx) :
    w ∈ writes ∨ w ∈ s.staged tx := by
  rw [staged, put] at h
  by_cases same : tx = tx'
  · subst same
    rw [Keyed.get?_put_self] at h
    exact .inl h
  · rw [Keyed.get?_put_of_ne _ _ same] at h
    exact .inr h

theorem mem_staged_of_erase {tx' : TransactionId} {w : Write}
    (erased : t.transactions = s.transactions.erase tx') (h : w ∈ t.staged tx) : w ∈ s.staged tx := by
  rw [staged, erased] at h
  by_cases same : tx = tx'
  · subst same
    rw [Keyed.get?_erase_self] at h
    cases h
  · rwa [Keyed.get?_erase_of_ne _ same] at h

theorem Performs.grounded {a : r.Answer} (h : s.Performs r a t) (hs : s.Grounded) : t.Grounded := by
  intro tx name row inserted
  rw [h.contains_tables]
  cases h with
  | begin | complete =>
    rcases mem_staged_of_put rfl inserted with new | old
    · cases new
    · exact hs tx name row old
  | closeTransaction => exact hs tx name row (mem_staged_of_erase rfl inserted)
  | @execute tx' id parameters sql write count writes known computed open_ =>
    rcases mem_staged_of_put rfl inserted with new | old
    · rcases List.mem_append.mp new with before | written
      · refine hs tx' name row ?_
        rwa [staged, open_]
      · rw [Option.mem_toList.mp written] at computed
        exact contains_of_effectOf computed
    · exact hs tx name row old
  | _ => exact hs tx name row inserted

namespace Grounded

theorem of_tables (hs : s.Grounded) (same : t.transactions = s.transactions)
    (kept : ∀ name, s.tables.contains name → t.tables.contains name) : t.Grounded := by
  intro tx name row inserted
  rw [staged, same] at inserted
  exact kept name (hs tx name row inserted)

theorem seed (hs : s.Grounded) (table : String) (row : Row) : (s.seed table row).Grounded := by
  refine hs.of_tables (t := s.seed table row) rfl fun name known => ?_
  rwa [Server.seed, Keyed.contains_update]

theorem arrange (hs : s.Grounded) (a : Arrangement) : (s.arrange a).2.Grounded := by
  cases a with
  | createTable table columns =>
    refine hs.of_tables (t := s.createTable table columns) rfl fun name known => ?_
    rw [createTable, Keyed.contains_put, known, Bool.or_true]
  | seed table rows =>
    simp only [Server.arrange]
    induction rows generalizing s with
    | nil => exact hs
    | cons row rows ih => exact ih (hs.seed table row)
  | _ => exact hs

theorem answer (hs : s.Grounded) (r : Request) : (s.answer r).2.Grounded := by
  rcases s.answer_cases r with ⟨e, failures, he⟩ | ⟨a, t, ha, performs⟩
  · rw [he]
    exact hs
  · rw [ha]
    exact performs.grounded hs

end Grounded

theorem Arises.grounded (h : s.Arises) : s.Grounded := by
  induction h with
  | new => exact fun _ _ _ inserted => (nomatch inserted)
  | arrange _ a ih => exact ih.arrange a
  | answer _ r ih => exact ih.answer r

theorem answer_complete_eq_ok_iff (s : Server) (how : Completion) (tx : TransactionId) :
    (s.answer (.complete how tx)).1 = .ok () ↔
      (∀ f ∈ s.failures, f.1 ≠ how.operation) ∧ s.transactions.contains tx := by
  rcases s.takeFailure_cases how.operation with ⟨spared, taken⟩ |
    ⟨⟨f, mem, arranged⟩, e, failures, taken⟩
  · rw [and_iff_right spared]
    simp only [answer, Request.operation, taken, perform, Server.complete, Keyed.contains]
    cases s.transactions.get? tx <;> simp
  · have fails : ¬∀ f ∈ s.failures, f.1 ≠ how.operation := fun spared => spared f mem arranged
    simp only [answer, Request.operation, taken, fails, false_and, reduceCtorEq]

theorem Performs.tableRows_commit {a : Unit} (h : s.Performs (.complete .commit tx) a t)
    (known : s.Arises ∨ s.tables.contains name) : tableRows t.tables name = s.visibleRows tx name := by
  rw [h.tables_commit]
  apply tableRows_foldl_applyWrite
  by_cases contains : s.tables.contains name
  · exact .inl contains
  · have arises := known.resolve_right contains
    exact .inr fun row inserted => contains (arises.grounded tx name row inserted)

theorem visibleRows_of_clean (clean : s.staged tx = []) (name : String) :
    s.visibleRows tx name = tableRows s.tables name := by
  rw [staged] at clean
  rw [visibleRows, clean]
  rfl

theorem Performs.resultOf_commit {a : Unit} (h : s.Performs (.complete .commit tx) a t)
    {tx' : TransactionId} (clean : t.staged tx' = []) (sql : String) :
    t.resultOf tx' sql = s.resultOf tx sql := by
  simp only [resultOf, h.scripts]
  cases s.scripts.get? sql with
  | some result => rfl
  | none =>
    cases Sql.shape sql with
    | select name =>
      have table := get?_foldl_applyWrite (s.staged tx) s.tables name
      rw [← h.tables_commit] at table
      simp only [table]
      cases known : s.tables.get? name with
      | none => rfl
      | some found =>
        have contains : s.tables.contains name := by simp [Keyed.contains, known]
        simp only [Option.map_some, visibleRows_of_clean clean, h.tableRows_commit (.inr contains)]
    | _ => rfl

end Server

namespace Session

variable {s t : Session} {kind : Request → Prop}

theorem arises_put (h : s.server.Arises) (r : Request) (timeout : Option Milliseconds) :
    (s.put r timeout).2.Arises := by
  simp only [put]
  cases s.expired? r.operation timeout with
  | some limit => exact h
  | none =>
    have answered := h.answer r
    revert answered
    cases s.server.answer r with
    | mk outcome server => cases outcome <;> exact id

theorem Puts.arises (h : Puts kind s t) (hs : s.server.Arises) : t.server.Arises := by
  cases h with
  | arranged _ a server => exact server ▸ hs.arrange a
  | kept server => exact server ▸ hs
  | put r timeout _ server => exact server ▸ arises_put hs r timeout

theorem arises_run (h : ReflTransGen (Puts kind) s t) (hs : s.server.Arises) : t.server.Arises := by
  induction h with
  | refl => exact hs
  | tail _ put ih => exact put.arises ih

structure Settles (s : Session) (how : Completion) (tx : TransactionId) (timeout : Option Milliseconds)
    (outcome : Except Error Unit) (t : Server) : Prop where
  ok_iff : outcome = .ok () ↔ s.expired? how.operation timeout = none ∧
    (∀ f ∈ s.server.failures, f.1 ≠ how.operation) ∧ s.server.transactions.contains tx
  /-- After a commit every table has the rows that the transaction saw in it. A name without a table has
  none, and the transaction saw none under it in any state that the server can be in. -/
  published (commits : how = .commit) (succeeds : outcome = .ok ()) (name : String)
    (known : s.server.Arises ∨ s.server.tables.contains name) :
    Server.tableRows t.tables name = s.server.visibleRows tx name
  shown (commits : how = .commit) (succeeds : outcome = .ok ()) (tx' : TransactionId)
    (clean : t.staged tx' = []) (sql : String) : t.resultOf tx' sql = s.server.resultOf tx sql
  apart (tx' : TransactionId) (other : tx' ≠ tx ∨ outcome ≠ .ok ()) :
    t.transactions.get? tx' = s.server.transactions.get? tx'
  kept (nothing : how = .rollback ∨ outcome ≠ .ok ()) : t.tables = s.server.tables

theorem put_eq_ok_iff (s : Session) (r : Request) (timeout : Option Milliseconds) (a : r.Answer) :
    (s.put r timeout).1 = .ok a ↔
      s.expired? r.operation timeout = none ∧ (s.server.answer r).1 = .ok a := by
  simp only [put]
  cases s.expired? r.operation timeout with
  | some limit => simp
  | none =>
    cases s.server.answer r with
    | mk outcome server => cases outcome <;> simp

theorem settles_put (s : Session) (how : Completion) (tx : TransactionId)
    (timeout : Option Milliseconds) :
    s.Settles how tx timeout (s.put (.complete how tx) timeout).1
      (s.put (.complete how tx) timeout).2 := by
  have ok_iff := s.put_eq_ok_iff (.complete how tx) timeout ()
  rw [Server.answer_complete_eq_ok_iff] at ok_iff
  rcases s.put_cases (.complete how tx) timeout with ⟨e, failures, failed⟩ | ⟨a, t, put, performs⟩
  · rw [failed] at ok_iff ⊢
    exact ⟨ok_iff, fun _ succeeds => (nomatch succeeds), fun _ succeeds => (nomatch succeeds),
      fun _ _ => rfl, fun _ => rfl⟩
  · rw [put] at ok_iff ⊢
    refine ⟨ok_iff, ?_, ?_, fun tx' other => ?_, fun nothing => ?_⟩
    · rintro rfl _ name known
      exact performs.tableRows_commit known
    · rintro rfl _ tx' clean sql
      exact performs.resultOf_commit clean sql
    · have ne := other.resolve_right fun fails => fails rfl
      cases performs
      exact Keyed.get?_put_of_ne _ _ ne
    · have rolls := nothing.resolve_right fun fails => fails rfl
      exact performs.tables (by simp [rolls])

end Session

namespace Client

theorem arises_after (config : ConnectionConfig) (cs : List Command) :
    ((start config).after cs).session.server.Arises := by
  refine after_induct (I := fun k => k.session.server.Arises) (P := fun _ => True) ?_
    (fun _ _ => trivial) .new
  intro k c _ hk
  cases c with
  | arrange a => exact hk.arrange a
  | call c => exact arises_run (puts_of_moves (k.moves_step (c := .call c) rfl)) hk
  | direct r => exact hk.answer r

def interleaved : Client :=
  (start (.plain false)).after
    [.arrange (.createTable "t" []), .arrange (.createTable "u" []), .arrange (.seed "t" [[.int8 1]]),
      .direct (.begin default), .direct (.begin default), .direct (.prepare "insert into t" []),
      .direct (.prepare "delete from t" []), .direct (.prepare "insert into u" []),
      .direct (.execute ⟨1⟩ ⟨3⟩ [⟨"p1", .int8, .int8 2⟩]),
      .direct (.execute ⟨2⟩ ⟨3⟩ [⟨"p1", .int8, .int8 9⟩]),
      .direct (.execute ⟨1⟩ ⟨5⟩ [⟨"p1", .int8, .int8 3⟩]), .direct (.execute ⟨1⟩ ⟨4⟩ []),
      .direct (.execute ⟨1⟩ ⟨3⟩ [⟨"p1", .int8, .int8 4⟩])]

theorem settles_put_interleaved :
    (interleaved.session.put (.complete .commit ⟨1⟩) none).2.committedRows "t" = [[.int8 4]] ∧
      (interleaved.session.put (.complete .commit ⟨1⟩) none).2.transactions.get? ⟨2⟩ =
        some [.insert "t" [.int8 9]] := by
  have settles := interleaved.session.settles_put .commit ⟨1⟩ none
  have succeeds := settles.ok_iff.mpr
    ⟨by decide +kernel, by decide +kernel, by decide +kernel⟩
  have arises : interleaved.session.server.Arises := arises_after _ _
  have seen : interleaved.session.server.visibleRows ⟨1⟩ "t" = [[.int8 4]] := by decide +kernel
  have staged : interleaved.session.server.transactions.get? ⟨2⟩ = some [.insert "t" [.int8 9]] := by
    decide +kernel
  have key : Server.tableKey "t" = "t" := by decide
  refine ⟨?_, ?_⟩
  · rw [Server.committedRows, key, settles.published rfl succeeds "t" (.inl arises), seen]
  · rw [settles.apart ⟨2⟩ (.inl (by decide)), staged]

end Client

end SqlClient
