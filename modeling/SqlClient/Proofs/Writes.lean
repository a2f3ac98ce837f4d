import SqlClient.Proofs.Moves

namespace SqlClient

def SqlShape.write? (parameters : List Parameter) : SqlShape → Option Write
  | insert table literals =>
    some (.insert table (if parameters = [] then literals.getD [] else parameters.map Parameter.value))
  | delete table => some (.clear table)
  | select _ | other => none

def Sql.write? (sql : String) (parameters : List Parameter) : Option Write :=
  (shape sql).write? parameters

namespace Server

variable {s t : Server} {r : Request} {tx : TransactionId}

theorem write_of_effectOf {parameters : List Parameter} {shape : SqlShape} {write : Option Write}
    {count : Nat} (h : s.effectOf tx parameters shape = .ok (write, count)) :
    write = shape.write? parameters := by
  cases shape with
  | insert name literals =>
    simp only [effectOf] at h
    split at h
    · cases h
      cases parameters <;> rfl
    · cases h
  | delete | select | other =>
    cases h
    rfl

theorem Performs.staged_execute {id : PreparedId} {sql : String} {parameters : List Parameter}
    {count : Nat} (h : s.Performs (.execute tx id parameters) count t) (named : s.Names id sql) :
    t.staged tx = s.staged tx ++ (Sql.write? sql parameters).toList := by
  cases h with
  | execute known computed open_ =>
    have text := named.2 _ known
    rw [text] at computed
    rw [write_of_effectOf computed, staged, staged, open_]
    exact congrArg (Option.getD · []) (Keyed.get?_put_self _ _ _)

theorem Attempts.staged_of_isAside (h : s.Attempts r t) (hr : r.isAside) (tx : TransactionId) :
    t.staged tx = s.staged tx := by
  rcases h with ⟨failures, rfl⟩ | ⟨a, h⟩
  · rfl
  · cases h with
    | begin | complete | closeTransaction | query | execute => cases hr
    | _ => rfl

theorem Attempts.staged_of_query {id : PreparedId} {parameters : List Parameter}
    (h : s.Attempts (.query tx id parameters) t) (tx' : TransactionId) :
    t.staged tx' = s.staged tx' := by
  rcases h with ⟨failures, rfl⟩ | ⟨a, h⟩
  · rfl
  · cases h
    rfl

theorem Performs.tables_commit {a : Unit} (h : s.Performs (.complete .commit tx) a t) :
    t.tables = (s.staged tx).foldl applyWrite s.tables := by
  cases h with
  | complete open_ =>
    rw [staged, open_]
    rfl

theorem Performs.staged_begin {options : TransactionOptions}
    (h : s.Performs (.begin options) tx t) : t.staged tx = [] := by
  obtain ⟨rfl, rfl⟩ := h.begun
  exact congrArg (Option.getD · []) (Keyed.get?_put_self _ _ _)

end Server

end SqlClient
