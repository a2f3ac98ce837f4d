import SqlClient.Proofs.Acts

namespace SqlClient

open SqlClient.Action Relation Session

def Command.isDirect : Command → Bool
  | .direct _ => true
  | _ => false

def ConnectionConfig.plain (autocommit : Bool) : ConnectionConfig where
  autocommit := autocommit
  timeouts := default
  settings := .new
  conversion := default
  maxRows := none

namespace Client

theorem moves_step (k : Client) {c : Command} (hc : c.isDirect = false) :
    ReflTransGen Move k.session (k.step c).2.session := by
  cases c with
  | arrange a => exact .single (.arrange (fun _ => trivial) a k.session)
  | call c => exact moves_of_acts (k.acts_call c)
  | direct r => cases hc

theorem moves_after {cs : List Command} (hcs : ∀ c ∈ cs, c.isDirect = false) (k : Client) :
    ReflTransGen Move k.session (k.after cs).session := by
  induction cs generalizing k with
  | nil => exact .refl
  | cons c cs ih =>
    have first := k.moves_step (hcs c List.mem_cons_self)
    exact first.trans (ih (fun c' h => hcs c' (List.mem_cons_of_mem c h)) (k.step c).2)

theorem after_induct {I : Client → Prop} {P : Command → Prop}
    (step : ∀ k c, P c → I k → I (k.step c).2) {cs : List Command} (hcs : ∀ c ∈ cs, P c) {k : Client}
    (hk : I k) : I (k.after cs) := by
  induction cs generalizing k with
  | nil => exact hk
  | cons c cs ih =>
    obtain ⟨first, rest⟩ := List.forall_mem_cons.mp hcs
    exact ih rest (step k c first hk)

/-- A program that has opened a connection to a new server and has made calls since then, on a server
that is arranged at will but is put no request past the connection. -/
def Reached (k : Client) : Prop :=
  ∃ scheduler config start cs, connect .new scheduler config = .ok start ∧
    (∀ c ∈ cs, c.isDirect = false) ∧ k = start.after cs

theorem Reached.after {k : Client} (h : k.Reached) {cs : List Command}
    (hcs : ∀ c ∈ cs, c.isDirect = false) : (k.after cs).Reached := by
  obtain ⟨scheduler, config, start, ds, hstart, hds, rfl⟩ := h
  refine ⟨scheduler, config, start, ds ++ cs, hstart, ?_, List.foldl_append.symm⟩
  exact fun c hc => (List.mem_append.mp hc).elim (hds c) (hcs c)

def opened (config : ConnectionConfig) : Session where
  server := .new
  exchanges := []
  timeouts := config.timeouts
  conversion := config.conversion
  maxRows := config.maxRows
  closed := false
  autocommit := config.autocommit
  settings := config.settings
  slot := none
  handles := .empty

def start (config : ConnectionConfig) : Client :=
  ⟨opened config, .empty, .empty, .empty, .empty⟩

theorem reached_of_start (config : ConnectionConfig) {cs : List Command}
    (hcs : ∀ c ∈ cs, c.isDirect = false) : ((start config).after cs).Reached :=
  ⟨.multiThread, config, start config, cs, rfl, hcs, rfl⟩

theorem eq_of_connect {server : Server} {scheduler : Scheduler} {config : ConnectionConfig} {k : Client}
    (h : connect server scheduler config = .ok k) : k = (start config).onServer server := by
  cases scheduler with
  | currentThread => cases h
  | multiThread =>
    cases h
    rfl

theorem Reached.induct {I : Client → Prop} (start : ∀ config, I (start config))
    (step : ∀ k c, c.isDirect = false → I k → I (k.step c).2) {k : Client} (h : k.Reached) : I k := by
  obtain ⟨scheduler, config, k₀, cs, hk, hcs, rfl⟩ := h
  have first : I k₀ := eq_of_connect hk ▸ start config
  exact after_induct step hcs first

theorem Reached.invariant {I : Session → Prop} (start : ∀ config, I (opened config))
    (move : ∀ s t, Move s t → I s → I t) {k : Client} (h : k.Reached) : I k.session := by
  refine h.induct (I := fun k => I k.session) start fun k c hc hk => ?_
  have moves := k.moves_step hc
  generalize k.session = s, (k.step c).2.session = t at moves hk
  induction moves with
  | refl => exact hk
  | tail _ last ih => exact move _ _ last ih

end Client

end SqlClient
