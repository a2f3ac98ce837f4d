import SqlClient.Proofs.Runs

namespace SqlClient

open SqlClient.Action Relation Session

namespace Session

variable {kind : Request → Prop} {s t u : Session} {r : Request}

inductive Puts (kind : Request → Prop) (s t : Session) : Prop
  | arranged (free : ∀ r, kind r) (a : Arrangement) (server : t.server = (s.server.arrange a).2)
      (exchanges : t.exchanges = s.exchanges)
  | kept (server : t.server = s.server) (exchanges : t.exchanges = s.exchanges)
  | put (r : Request) (timeout : Option Milliseconds) (hr : kind r)
      (server : t.server = (s.put r timeout).2)
      (exchanges : t.exchanges = s.exchanges ++ [⟨r, (s.put r timeout).1⟩])

theorem exchanges_call (r : Request) (timeout : Option Milliseconds) (s : Session) :
    ((call r timeout).final s).exchanges = s.exchanges ++ [⟨r, (s.put r timeout).1⟩] := by
  rw [final_call]

theorem puts_call (timeout : Option Milliseconds) (s : Session) (hr : kind r) :
    Puts kind s ((call r timeout).final s) := by
  refine .put r timeout hr ?_ ?_ <;> rw [final_call]

theorem puts_begin (hr : ∀ options, kind (.begin options)) (s : Session) :
    Puts kind s (Session.begin.final s) := by
  rw [final_begin]
  split <;> refine .put (.begin s.settings.options.1) none (hr _) ?_ ?_ <;> rw [final_call] <;> rfl

theorem exchanges_complete_open (how : Completion) (tx : TransactionId) {s : Session}
    (h : s.isClosed tx = false) :
    ∃ released, ((complete how tx).final s).exchanges =
      s.exchanges ++
        [⟨.complete how tx, (complete how tx).outcome s⟩, ⟨.closeTransaction tx, released⟩] := by
  rw [final_complete_open how tx h, outcome_complete_open how tx h, outcome_call, exchanges_call,
    exchanges_call, List.append_assoc]
  exact ⟨_, rfl⟩

theorem puts_complete (hc : Request.Controls kind) (how : Completion) (tx : TransactionId)
    (s : Session) : ReflTransGen (Puts kind) s ((Session.complete how tx).final s) := by
  cases h : s.isClosed tx with
  | true =>
    rw [final_complete_closed how tx h]
  | false =>
    rw [final_complete_open how tx h]
    have closes : Puts kind s (s.closeHandle tx) := .kept rfl rfl
    have completes := puts_call none (s.closeHandle tx) (hc.complete how tx)
    exact (ReflTransGen.single closes).tail completes |>.tail (puts_call none _ (hc.closeTransaction tx))

theorem Works.puts {tx : TransactionId} (h : Works kind tx s t) : ReflTransGen (Puts kind) s t := by
  apply ReflTransGen.mono _ _ _ h
  intro a b ask
  cases ask with
  | ask timeout _ hr => exact puts_call timeout a hr.1

theorem Moves.puts (h : Moves kind s t) : ReflTransGen (Puts kind) s t := by
  cases h with
  | arrange free a => exact .single (.arranged free a rfl rfl)
  | setUp | forget => exact .single (.kept rfl rfl)
  | aside timeout _ hr => exact .single (puts_call timeout s hr)
  | begin hr => exact .single (puts_begin hr s)
  | query timeout hr => exact .single (puts_call timeout s hr)
  | work _ works => exact works.puts
  | workAndEnd how hc _ works => exact works.puts.trans (puts_complete hc how _ _)
  | complete how tx _ hc => exact puts_complete hc how tx s
  | completeTaken how _ hc =>
    rw [final_completeTaken]
    split
    next tx _ =>
      have takes : Puts kind s { s with slot := none } := .kept rfl rfl
      exact (puts_complete hc how tx _).head takes
    next => exact .single (.kept rfl rfl)

def Adds (kind : Request → Prop) (s t : Session) : Prop :=
  ∃ added, t.exchanges = s.exchanges ++ added ∧ ∀ e ∈ added, kind e.request

theorem Adds.refl (s : Session) : Adds kind s s :=
  ⟨[], (List.append_nil _).symm, by simp⟩

theorem Adds.trans (h : Adds kind s t) (h' : Adds kind t u) : Adds kind s u := by
  obtain ⟨added, exchanges, hkind⟩ := h
  obtain ⟨added', exchanges', hkind'⟩ := h'
  refine ⟨added ++ added', by rw [exchanges', exchanges, List.append_assoc], fun e he => ?_⟩
  exact (List.mem_append.mp he).elim (hkind e) (hkind' e)

theorem Adds.mono {kind' : Request → Prop} (h : Adds kind s t) (hk : ∀ r, kind r → kind' r) :
    Adds kind' s t := by
  obtain ⟨added, exchanges, hkind⟩ := h
  exact ⟨added, exchanges, fun e he => hk _ (hkind e he)⟩

theorem adds_of_same (same : t.exchanges = s.exchanges) : Adds kind s t :=
  ⟨[], same.trans (List.append_nil _).symm, by simp⟩

theorem adds_call (timeout : Option Milliseconds) (s : Session) (hr : kind r) :
    Adds kind s ((call r timeout).final s) := by
  refine ⟨_, exchanges_call r timeout s, fun e he => ?_⟩
  exact List.mem_singleton.mp he ▸ hr

theorem adds_of_puts (h : ReflTransGen (Puts kind) s t) : Adds kind s t := by
  induction h with
  | refl => exact .refl s
  | tail _ put ih =>
    apply ih.trans
    cases put with
    | arranged _ _ _ same | kept _ same => exact adds_of_same same
    | put r timeout hr _ exchanges =>
      refine ⟨_, exchanges, fun e he => ?_⟩
      exact List.mem_singleton.mp he ▸ hr

theorem puts_of_moves (h : ReflTransGen (Moves kind) s t) : ReflTransGen (Puts kind) s t := by
  induction h with
  | refl => exact .refl
  | tail _ move ih => exact ih.trans move.puts

theorem adds_of_moving {α : Type} {x : Action Session α} (hx : Session.Moving kind x) (s : Session) :
    Adds kind s (x.final s) :=
  adds_of_puts (puts_of_moves (hx s))

def Named (s : Session) : Prop :=
  ∀ sql placeholders (p : Prepared),
    (⟨.prepare sql placeholders, .ok p⟩ : Exchange) ∈ s.exchanges → s.server.Names p.id sql

theorem Named.opened (config : ConnectionConfig) : (Client.opened config).Named := by
  intro sql placeholders p h
  cases h

theorem names_arrange {server : Server} {id : PreparedId} {sql : String} (h : server.Names id sql)
    (a : Arrangement) : (server.arrange a).2.Names id sql := by
  cases a with
  | putLob content => exact ⟨Nat.le_succ_of_le h.1, h.2⟩
  | seed table rows =>
    simp only [Server.arrange]
    induction rows generalizing server with
    | nil => exact h
    | cons row rows ih => exact ih h
  | _ => exact h

theorem Puts.names (h : Puts kind s t) {id : PreparedId} {sql : String}
    (hs : s.server.Names id sql) : t.server.Names id sql := by
  cases h with
  | arranged _ a server => exact server ▸ names_arrange hs a
  | kept server => exact server ▸ hs
  | put r timeout _ server => exact server ▸ (s.put_attempts r timeout).names hs

theorem names_run (h : ReflTransGen (Puts kind) s t) {id : PreparedId} {sql : String}
    (hs : s.server.Names id sql) : t.server.Names id sql := by
  induction h with
  | refl => exact hs
  | tail _ put ih => exact put.names ih

theorem tables_run (h : ReflTransGen (Puts kind) s t) (hk : ∀ tx, ¬kind (.complete .commit tx)) :
    t.server.tables = s.server.tables := by
  induction h with
  | refl => rfl
  | @tail u _ _ put ih =>
    rw [← ih]
    cases put with
    | arranged free => exact absurd (free _) (hk ⟨0⟩)
    | kept server => rw [server]
    | put r timeout hr server =>
      rw [server]
      exact (u.put_attempts r timeout).tables fun tx commits => hk tx (commits ▸ hr)

theorem Named.puts (hs : s.Named) (h : Puts kind s t) : t.Named := by
  intro sql placeholders p he
  have old (known : (⟨.prepare sql placeholders, .ok p⟩ : Exchange) ∈ s.exchanges) :
      t.server.Names p.id sql := h.names (hs sql placeholders p known)
  cases h with
  | arranged _ _ _ exchanges | kept _ exchanges => exact old (exchanges ▸ he)
  | put r timeout _ server exchanges =>
    rw [exchanges] at he
    rcases List.mem_append.mp he with known | new
    · exact old known
    · rw [List.mem_singleton] at new
      injection new with hr ho
      subst hr
      rw [server]
      exact (put_performs (eq_of_heq ho).symm).named.2

theorem Named.run (hs : s.Named) (h : ReflTransGen (Puts kind) s t) : t.Named := by
  induction h with
  | refl => exact hs
  | tail _ put ih => exact ih.puts put

end Session

end SqlClient
