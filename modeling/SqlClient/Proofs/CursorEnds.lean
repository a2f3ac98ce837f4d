import SqlClient.Proofs.Attendance
import SqlClient.Proofs.NoLeaks

namespace SqlClient

open SqlClient.Action Relation Session

namespace Cursor

variable {c c' : Cursor} {s t u : Session} {r : CursorResources} {o : Except Error Bool}
  {σ : Cursor × Session}

theorem outcome_exhaust (auto : s.isAutocommit c.transaction = true) :
    exhaust.outcome (c, s) = close.outcome ({ c with afterLast := true, row := none }, s) := by
  simp only [exhaust, change, session, cursor, outcome_bind, final_bind, outcome_modify, final_modify,
    outcome_get, final_get, outcome_pure, final_pure, auto, ↓reduceIte]

theorem exhaust_cases (held : c.resources = some r) (s : Session) :
    exhaust.final (c, s) = ({ c with afterLast := true, row := none }, s) ∨
      Ends r c.transaction s (exhaust.outcome (c, s)) (exhaust.final (c, s)).2 ∧
        (exhaust.final (c, s)).1.isClosed = true := by
  cases auto : s.isAutocommit c.transaction with
  | true =>
    right
    rw [outcome_exhaust auto, final_exhaust, if_pos auto]
    exact ⟨ends_close held, isClosed_close _ s⟩
  | false =>
    left
    rw [final_exhaust, if_neg (by rw [auto]; exact Bool.false_ne_true)]

def Fetches (r : CursorResources) (s t : Session) : Prop :=
  ∃ es, t.exchanges = s.exchanges ++ es ∧
    (es.map Exchange.request).Sublist [.describe r.result, .fetch r.result]

theorem Described.exchanges (h : Described r c s c' t) :
    ∃ es, t.exchanges = s.exchanges ++ es ∧
      (es.map Exchange.request).Sublist [.describe r.result] := by
  cases h with
  | before => exact ⟨[], (List.append_nil _).symm, List.nil_sublist _⟩
  | now => exact ⟨_, exchanges_call (.describe r.result) _ s, .refl _⟩

theorem Described.fetches (h : Described r c s c' t) : Fetches r s t := by
  obtain ⟨es, exchanges, sublist⟩ := h.exchanges
  exact ⟨es, exchanges, sublist.trans (List.sublist_append_left _ [Request.fetch r.result])⟩

theorem Described.fetches_call (h : Described r c s c' t) (timeout : Option Milliseconds) :
    Fetches r s ((Session.call (.fetch r.result) timeout).final t) := by
  obtain ⟨es, exchanges, sublist⟩ := h.exchanges
  refine ⟨es ++ [⟨.fetch r.result, (t.put (.fetch r.result) timeout).1⟩], ?_, ?_⟩
  · rw [exchanges_call, exchanges, List.append_assoc]
  · rw [List.map_append]
    exact sublist.append (.refl _)

theorem Fetches.adds (h : Fetches r s t) : Adds (fun q => q.reads = true) s t := by
  obtain ⟨es, exchanges, sublist⟩ := h
  refine ⟨es, exchanges, fun e mem => ?_⟩
  have asked := sublist.subset (List.mem_map_of_mem mem)
  simp only [List.mem_cons, List.not_mem_nil, or_false] at asked
  rcases asked with asked | asked <;> rw [asked] <;> rfl

structure Reads (σ σ' : Cursor × Session) : Prop where
  transaction : σ'.1.transaction = σ.1.transaction
  resources : σ'.1.resources = σ.1.resources
  reads : Adds (fun q => q.reads = true) σ.2 σ'.2

theorem Looks.reads {σ σ' : Cursor × Session} (looks : ReflTransGen Looks σ σ') : Reads σ σ' := by
  have place := (Looks.stays looks).cursor
  refine ⟨place.transaction, place.resources, ?_⟩
  clear place
  induction looks with
  | refl => exact .refl _
  | tail _ last ih =>
    cases last with
    | note => exact ih
    | ask hr timeout c s => exact ih.trans (adds_call timeout s (Request.reads_of_looks hr))

theorem exhaust_ends {c₀ : Cursor} (place : SamePlace c₀ c') (held : c₀.resources = some r)
    (fetches : Fetches r s t) :
    Reads (c₀, s) (exhaust.final (c', t)) ∨
      ∃ u o, Fetches r s u ∧ exhaust.outcome (c', t) = o ∧
        Ends r c₀.transaction u o (exhaust.final (c', t)).2 ∧
          (exhaust.final (c', t)).1.isClosed = true := by
  rcases exhaust_cases (place.resources.trans held) t with stays | ⟨ends, closed⟩
  · left
    rw [stays]
    exact ⟨place.transaction, place.resources, fetches.adds⟩
  · right
    rw [place.transaction] at ends
    exact ⟨t, _, fetches, rfl, ends, closed⟩

theorem Advances.reads_or_ends (h : Advances c s o σ) (held : c.resources = some r) :
    Reads (c, s) σ ∨ ∃ u ended, Fetches r s u ∧ o = ended.map (fun _ => false) ∧
      Ends r c.transaction u ended σ.2 ∧ σ.1.isClosed = true := by
  have stays {c' : Cursor} {t : Session} (place : SamePlace c c') (fetches : Fetches r s t) :
      Reads (c, s) (c', t) := ⟨place.transaction, place.resources, fetches.adds⟩
  have same {r' : CursorResources} (held' : c.resources = some r') : r' = r :=
    Option.some.inj (held'.symm.trans held)
  have ends {c' : Cursor} {t : Session} (place : SamePlace c c') (fetches : Fetches r s t) :
      Reads (c, s) (exhaust.final (c', t)) ∨ ∃ u ended, Fetches r s u ∧
        (exhaust.outcome (c', t)).map (fun _ => false) = ended.map (fun _ => false) ∧
          Ends r c.transaction u ended (exhaust.final (c', t)).2 ∧
            (exhaust.final (c', t)).1.isClosed = true := by
    refine (exhaust_ends place held fetches).imp_right ?_
    rintro ⟨u, ended, fetches, rfl, ends⟩
    exact ⟨u, _, fetches, rfl, ends⟩
  cases h with
  | past | refused => exact .inl ⟨rfl, rfl, .refl s⟩
  | undescribed _ held' =>
    exact .inl ⟨rfl, rfl, adds_call _ s rfl⟩
  | unfetched _ held' described =>
    cases same held'
    exact .inl (stays described.stays.cursor (described.fetches_call _))
  | delivered _ held' described =>
    cases same held'
    obtain ⟨transaction, resources, reads⟩ := stays described.stays.cursor
      (described.fetches_call c.limits.timeout)
    exact .inl ⟨transaction, resources, reads⟩
  | capped _ held' described =>
    cases same held'
    exact ends described.stays.cursor described.fetches
  | exhausted _ held' described =>
    cases same held'
    exact ends described.stays.cursor (described.fetches_call c.limits.timeout)

end Cursor

def CursorCall.looks : CursorCall → Bool
  | .advance | .close | .drop => false
  | _ => true

namespace Client

def KeepsOpen (k : Client) (n : Nat) (tx : TransactionId) (r : CursorResources) : Prop :=
  ∃ c, k.cursors.get? n = some c ∧ c.transaction = tx ∧ c.resources = some r

def KeepsNone (k : Client) (n : Nat) : Prop :=
  ∀ c, k.cursors.get? n = some c → c.isClosed = true

/-- The calls that close the cursor kept under `n`, with what they ask the server for and what they are
answered. -/
inductive LetsGo (k : Client) (n : Nat) (tx : TransactionId) (r : CursorResources) : Call → Prop
  | close {o : Except Error Unit} {k' : Client}
      (answers : k.call (.cursor n .close) = (some o, k')) (gone : k'.KeepsNone n)
      (ends : Cursor.Ends r tx k.session o k'.session) : LetsGo k n tx r (.cursor n .close)
  | exhaust {o : Except Error Unit} {s : Session} {k' : Client}
      (answers : k.call (.cursor n .advance) = (some (o.map fun _ => false), k'))
      (gone : k'.KeepsNone n) (fetches : Cursor.Fetches r k.session s)
      (ends : Cursor.Ends r tx s o k'.session) : LetsGo k n tx r (.cursor n .advance)
  | drop {o : Except Error Unit} {k' : Client}
      (answers : k.call (.cursor n .drop) = (some (.ok ()), k')) (gone : k'.KeepsNone n)
      (ends : Cursor.Ends r tx k.session o k'.session) : LetsGo k n tx r (.cursor n .drop)
  | replace {c : Call} {o : Except Error Unit} {s : Session} (keeps : c.register? = some n)
      (answers : (k.call c).1 = (call { k with cursors := k.cursors.erase n } c).1)
      (executes : k.session.exchanges <+: s.exchanges)
      (ends : Cursor.Ends r tx s o (k.call c).2.session) : LetsGo k n tx r c

variable {k : Client} {n : Nat} {tx : TransactionId} {r : CursorResources} {c : Cursor}

theorem call_cursor (known : k.cursors.get? n = some c) (q : CursorCall) :
    k.call (.cursor n q) = (some ((q.perform n c).outcome k), (q.perform n c).final k) := by
  rw [call, runOn_eq, known]

section OnCursor

variable {α : Type} {x : Cursor.Method α}

theorem outcome_onCursor (x : Cursor.Method α) :
    (onCursor n c x).outcome k = x.outcome (c, k.session) :=
  outcome_zoom _ _ x k

theorem get?_onCursor (x : Cursor.Method α) :
    ((onCursor n c x).final k).cursors.get? n = some (x.final (c, k.session)).1 := by
  rw [final_onCursor]
  exact Keyed.get?_put_self _ n _

theorem session_onCursor (x : Cursor.Method α) :
    ((onCursor n c x).final k).session = (x.final (c, k.session)).2 := by
  rw [final_onCursor]

theorem keepsNone_onCursor (closed : (x.final (c, k.session)).1.isClosed = true) :
    ((onCursor n c x).final k).KeepsNone n := by
  intro c' known
  rw [get?_onCursor] at known
  cases known
  exact closed

end OnCursor

theorem call_looking (known : k.cursors.get? n = some c) {q : CursorCall} (looks : q.looks = true) :
    ∃ c', (k.call (.cursor n q)).2.cursors.get? n = some c' ∧
      ReflTransGen Cursor.Looks (c, k.session) (c', (k.call (.cursor n q)).2.session) := by
  have on {α : Type} {x : Cursor.Method α} (hx : Cursor.Looking x) :
      ∃ c', ((onCursor n c x).final k).cursors.get? n = some c' ∧
        ReflTransGen Cursor.Looks (c, k.session) (c', ((onCursor n c x).final k).session) := by
    refine ⟨_, get?_onCursor x, ?_⟩
    rw [session_onCursor]
    exact hx (c, k.session)
  rw [call_cursor known]
  cases q with
  | columns => exact on Cursor.looking_knownColumns
  | find name => exact on (Cursor.looking_find name)
  | read index target => exact on (Cursor.looking_read index _ _)
  | readInZone index target zone => exact on (Cursor.looking_read index _ _)
  | readDecimal index scale => exact on (Cursor.looking_readDecimal index scale)
  | advance | close | drop => cases looks

theorem ends_dropCursor (known : k.cursors.get? n = some c) (held : c.resources = some r) :
    Cursor.Ends r c.transaction k.session (Cursor.close.outcome (c, k.session))
      ((dropCursor n).final k).session := by
  have ends := Cursor.ends_close (s := k.session) held
  rw [final_dropCursor, known]
  dsimp only
  rw [final_onCursor, Cursor.drop, final_bestEffort]
  exact ends

theorem keepsNone_dropCursor (n : Nat) (k : Client) : ((dropCursor n).final k).KeepsNone n := by
  intro c known
  cases (get?_dropCursor n k).symm.trans known

theorem keepsOpen_of_reads {k' : Client} {c' : Cursor} (held : c.resources = some r)
    (known' : k'.cursors.get? n = some c') (reads : Cursor.Reads (c, k.session) (c', k'.session)) :
    k'.KeepsOpen n c.transaction r ∧ Adds (fun q => q.reads = true) k.session k'.session :=
  ⟨⟨c', known', reads.transaction, reads.resources.trans held⟩, reads.reads⟩

theorem call_reads_or_letsGo (known : k.cursors.get? n = some c) (held : c.resources = some r)
    (q : CursorCall) :
    ((k.call (.cursor n q)).2.KeepsOpen n c.transaction r ∧
        Adds (fun q => q.reads = true) k.session (k.call (.cursor n q)).2.session) ∨
      k.LetsGo n c.transaction r (.cursor n q) := by
  cases looks : q.looks with
  | true =>
    obtain ⟨c', known', run⟩ := call_looking known looks
    exact .inl (keepsOpen_of_reads held known' (Cursor.Looks.reads run))
  | false =>
    have answers := call_cursor known q
    cases q with
    | advance =>
      rcases (Cursor.advances c k.session).reads_or_ends held with
        reads | ⟨s, o, fetches, outcome, ends, closed⟩
      · left
        have reads' : Cursor.Reads (c, k.session) ((Cursor.advance.final (c, k.session)).1,
            ((onCursor n c Cursor.advance).final k).session) := by
          rw [session_onCursor]
          exact reads
        rw [answers]
        exact keepsOpen_of_reads held (get?_onCursor Cursor.advance) reads'
      · right
        rw [← session_onCursor (n := n)] at ends
        refine .exhaust ?_ (keepsNone_onCursor closed) fetches ends
        rw [answers, ← outcome]
        exact Prod.ext (congrArg some (outcome_onCursor Cursor.advance)) rfl
    | close =>
      right
      have ends := Cursor.ends_close (s := k.session) held
      rw [← outcome_onCursor (n := n), ← session_onCursor (n := n)] at ends
      exact .close answers (keepsNone_onCursor (c.isClosed_close k.session)) ends
    | drop =>
      right
      refine .drop ?_ (keepsNone_dropCursor n k) (ends_dropCursor known held)
      rw [answers]
      exact Prod.ext (congrArg some (outcome_dropCursor n k)) rfl
    | columns | find | read | readInZone | readDecimal => cases looks

theorem Moved.exchanges {k' : Client} (h : k.Moved k') :
    k.session.exchanges <+: k'.session.exchanges := by
  obtain ⟨added, exchanges, -⟩ := adds_of_puts (puts_of_moves h.2)
  exact ⟨added, exchanges.symm⟩

theorem Replaces.letsGo (h : k.KeepsOpen n tx r) {call : Call} (keeps : call.register? = some n)
    (replaces : k.Replaces n (k.call call).1
      (Client.call { k with cursors := k.cursors.erase n } call).1 (k.call call).2.session) :
    k.LetsGo n tx r call := by
  obtain ⟨c, known, rfl, held⟩ := h
  obtain ⟨answers, u, moved, session⟩ := replaces
  have ends := ends_dropCursor (k := u) (moved.1 ▸ known) held
  rw [← session] at ends
  exact .replace keeps answers moved.exchanges ends

theorem call_keepsOpen (h : k.KeepsOpen n tx r) (call : Call) :
    (k.call call).2.KeepsOpen n tx r ∨ k.LetsGo n tx r call := by
  by_cases reaches : call.reaches? = some n
  · have own (q : CursorCall) : (k.call (.cursor n q)).2.KeepsOpen n tx r ∨
        k.LetsGo n tx r (.cursor n q) := by
      obtain ⟨c, known, rfl, held⟩ := h
      exact (call_reads_or_letsGo known held q).imp_left And.left
    cases call with
    | cursor m q =>
      cases reaches
      exact own q
    | connection | coordinator | handle => cases reaches
    | statement m asked | prepared m asked =>
      rcases call_replaces (k := k) reaches with missing | replaces
      · rw [missing]
        exact .inl h
      · exact .inr (replaces.letsGo h reaches)
  · left
    obtain ⟨c, known, rest⟩ := h
    exact ⟨c, (get?_call k reaches).trans known, rest⟩

theorem step_keepsOpen (h : k.KeepsOpen n tx r) (cmd : Command) :
    (k.step cmd).2.KeepsOpen n tx r ∨ ∃ c, cmd = .call c ∧ k.LetsGo n tx r c := by
  cases cmd with
  | arrange | direct => exact .inl h
  | call c => exact (call_keepsOpen h c).imp_right fun goes => ⟨c, rfl, goes⟩

def StaysOpen (k : Client) (n : Nat) (tx : TransactionId) (r : CursorResources) (cs : List Command) :
    Prop :=
  ∀ before, before <+: cs → (k.after before).KeepsOpen n tx r

theorem StaysOpen.nil (h : k.KeepsOpen n tx r) : k.StaysOpen n tx r [] := by
  intro before first
  rw [List.prefix_nil.mp first]
  exact h

theorem StaysOpen.cons {cmd : Command} {cs : List Command} (h : k.KeepsOpen n tx r)
    (still : (k.step cmd).2.StaysOpen n tx r cs) : k.StaysOpen n tx r (cmd :: cs) := by
  intro before first
  rcases List.prefix_cons_iff.mp first with rfl | ⟨rest, rfl, part⟩
  · exact h
  · exact still rest part

theorem after_keepsOpen (h : k.KeepsOpen n tx r) (cs : List Command) :
    k.StaysOpen n tx r cs ∨ ∃ before c rest, cs = before ++ .call c :: rest ∧
      k.StaysOpen n tx r before ∧ (k.after before).LetsGo n tx r c := by
  -- on the commands that are left, as long as the cursor is open
  induction cs generalizing k with
  | nil => exact .inl (.nil h)
  | cons cmd cs ih =>
    rcases step_keepsOpen h cmd with still | ⟨c, rfl, goes⟩
    · refine (ih still).imp (.cons h) ?_
      rintro ⟨before, c, rest, rfl, held, goes⟩
      exact ⟨cmd :: before, c, rest, rfl, .cons h held, goes⟩
    · exact .inr ⟨[], c, cs, rfl, .nil h, goes⟩

theorem call_keepsNone (h : k.KeepsNone n) (q : CursorCall) :
    (k.call (.cursor n q)).2.session = k.session ∧ (k.call (.cursor n q)).2.KeepsNone n := by
  cases known : k.cursors.get? n with
  | none =>
    rw [call, runOn_eq, known]
    exact ⟨rfl, h⟩
  | some c =>
    have on {α : Type} {x : Cursor.Method α} (hx : Cursor.IsMethod x) :
        ((onCursor n c x).final k).session = k.session ∧ ((onCursor n c x).final k).KeepsNone n := by
      obtain ⟨closed, same⟩ := hx.rests (s := k.session) (h c known)
      refine ⟨?_, keepsNone_onCursor closed⟩
      rw [final_onCursor]
      exact same
    rw [call_cursor known]
    cases q with
    | advance => exact on .advance
    | columns => exact on .columns
    | find name => exact on (.find name)
    | read index target => exact on (.read index _ _)
    | readInZone index target zone => exact on (.read index _ _)
    | readDecimal index scale => exact on (.readDecimal index scale)
    | close => exact on .close
    | drop =>
      refine ⟨?_, keepsNone_dropCursor n k⟩
      have drops := (on .drop).1
      rw [← drops]
      dsimp only [CursorCall.perform]
      rw [final_dropCursor, known]

theorem after_keepsNone (h : k.KeepsNone n) {cs : List Command}
    (kept : ∀ cmd ∈ cs, ∀ c, cmd = .call c → c.register? ≠ some n) : (k.after cs).KeepsNone n := by
  refine after_induct (I := fun k => k.KeepsNone n) ?_ kept h
  intro k cmd other h
  cases cmd with
  | arrange | direct => exact h
  | call c =>
    by_cases reaches : c.reaches? = some n
    · cases c with
      | cursor m q =>
        cases reaches
        exact (call_keepsNone h q).2
      | connection | coordinator | handle => cases reaches
      | statement | prepared => exact absurd reaches (other _ rfl)
    · intro c' known
      exact h c' ((get?_call k reaches).symm.trans known)

theorem LetsGo.gone {c : Call} (h : k.LetsGo n tx r c) (other : c.register? ≠ some n) :
    (k.call c).2.KeepsNone n := by
  cases h with
  | close answers gone | exhaust answers gone | drop answers gone =>
    rw [answers]
    exact gone
  | replace keeps => exact absurd keeps other

theorem count_le_one {α ι : Type} [DecidableEq α] [DecidableEq ι] {f : α → Option ι} {l : List α}
    (nodup : (l.filterMap f).Nodup) {a : α} {i : ι} (ha : f a = some i) : l.count a ≤ 1 := by
  have mapped : l.count a ≤ (l.filterMap f).count i := by
    rw [List.count_filterMap]
    refine List.countP_mono_left fun b _ same => ?_
    rw [beq_iff_eq] at same
    rw [same, ha, beq_self_eq_true]
  exact Nat.le_trans mapped (List.nodup_iff_count.mp nodup i)

theorem Reached.count_givenBack (h : k.Reached) {q : Request} (hq : q.givesBack = true) :
    k.session.requests.count q ≤ 1 := by
  have owns := h.kept.owns
  cases q with
  | dispose id => exact count_le_one (List.nodup_append.mp owns.statements.nodup).2.1 rfl
  | closeCursor cursor => exact count_le_one (List.nodup_append.mp owns.results.nodup).2.1 rfl
  | _ => cases hq

theorem Reached.not_givenBack (h : k.Reached) (held : k.KeepsOpen n tx r) {q : Request}
    (hq : q ∈ r.givingBack) : q ∉ k.session.requests := by
  intro asked
  obtain ⟨c, known, -, held⟩ := held
  have owns := h.kept.owns
  have mem : c ∈ k.holding.cursors := (Keyed.perm_values_of_get? known).symm.subset List.mem_cons_self
  simp only [CursorResources.givingBack, List.mem_append, Option.mem_toList, Option.map_eq_some_iff,
    List.mem_singleton] at hq
  rcases hq with ⟨p, prepared, rfl⟩ | rfl
  · have adHoc : p.id ∈ c.adHoc := by
      rw [Cursor.adHoc, held]
      simp [prepared]
    have owned := List.mem_append_right (k.holding.prepared.flatMap PreparedStatement.held)
      (List.mem_flatMap.mpr ⟨c, mem, adHoc⟩)
    have given : p.id ∈ k.session.disposed := List.mem_filterMap.mpr ⟨_, asked, rfl⟩
    exact (List.nodup_append.mp owns.statements.nodup).2.2 _ owned _ given rfl
  · have result : r.result ∈ c.results := by
      rw [Cursor.results, held]
      simp
    have owned := List.mem_flatMap.mpr ⟨c, mem, result⟩
    have given : r.result ∈ k.session.closedCursors := List.mem_filterMap.mpr ⟨_, asked, rfl⟩
    exact (List.nodup_append.mp owns.results.nodup).2.2 _ owned _ given rfl

/-- What a cursor holds is given back, and its transaction finished after that, by the first call that
closes it and by no other. -/
theorem released_once (h : k.KeepsOpen n tx r) :
    (∀ q, ((k.call (.cursor n q)).2.KeepsOpen n tx r ∧
        Adds (fun q => q.reads = true) k.session (k.call (.cursor n q)).2.session) ∨
      k.LetsGo n tx r (.cursor n q)) ∧
    (∀ cs, k.StaysOpen n tx r cs ∨ ∃ before c rest, cs = before ++ .call c :: rest ∧
      k.StaysOpen n tx r before ∧ (k.after before).LetsGo n tx r c ∧
        ∀ k' more, k' = k.after (before ++ .call c :: more) →
          (∀ cmd ∈ .call c :: more, ∀ d, cmd = .call d → d.register? ≠ some n) →
            ∀ q, (k'.call (.cursor n q)).2.session = k'.session) ∧
    (k.Reached → ∀ q ∈ r.givingBack, q ∉ k.session.requests ∧
      ∀ cs, (∀ cmd ∈ cs, cmd.isDirect = false) → (k.after cs).session.requests.count q ≤ 1) := by
  refine ⟨fun q => ?_, fun cs => ?_, fun reached q hq => ⟨reached.not_givenBack h hq, fun cs direct => ?_⟩⟩
  · obtain ⟨c, known, rfl, held⟩ := h
    exact call_reads_or_letsGo known held q
  · refine (after_keepsOpen h cs).imp_right ?_
    rintro ⟨before, c, rest, rfl, opens, goes⟩
    refine ⟨before, c, rest, rfl, opens, goes, ?_⟩
    rintro k' more rfl others q
    obtain ⟨other, others⟩ := List.forall_mem_cons.mp others
    have gone := after_keepsNone (goes.gone (other c rfl)) others
    have arrives : k.after (before ++ .call c :: more) = ((k.after before).call c).2.after more :=
      List.foldl_append
    rw [arrives]
    exact (call_keepsNone gone q).1
  · exact (reached.after direct).count_givenBack (CursorResources.givesBack_of_mem hq)

def losing : List Command :=
  [.arrange (.failNext .close "stuck"), .arrange (.failNext .close "gone"),
    .arrange (.failNext .commit "lost"), .call (.cursor 0 .advance), .call (.cursor 0 .close),
    .call (.cursor 0 .drop)]

def selected : Client :=
  (start (.plain true)).after selecting

example : (selected.after losing).session.requests = selected.session.requests ++
    [.describe ⟨3⟩, .fetch ⟨3⟩, .dispose ⟨1⟩, .closeCursor ⟨3⟩, .complete .commit ⟨2⟩,
      .closeTransaction ⟨2⟩] := by
  decide

theorem released_once_losing :
    selected.KeepsOpen 0 ⟨2⟩ ⟨⟨3⟩, some ⟨⟨1⟩, true⟩⟩ ∧
      (∃ before c rest, losing = before ++ .call c :: rest ∧
        (selected.after before).LetsGo 0 ⟨2⟩ ⟨⟨3⟩, some ⟨⟨1⟩, true⟩⟩ c) ∧
      (selected.after losing).session.requests.count (.dispose ⟨1⟩) = 1 ∧
      (selected.after losing).session.requests.count (.closeCursor ⟨3⟩) = 1 := by
  have kept : (selected.cursors.get? 0).map (fun c => (c.transaction, c.resources)) =
      some (⟨2⟩, some ⟨⟨3⟩, some ⟨⟨1⟩, true⟩⟩) := by decide
  obtain ⟨c, known, same⟩ := Option.map_eq_some_iff.mp kept
  have opens : selected.KeepsOpen 0 ⟨2⟩ ⟨⟨3⟩, some ⟨⟨1⟩, true⟩⟩ :=
    ⟨c, known, congrArg Prod.fst same, congrArg Prod.snd same⟩
  obtain ⟨-, ends, once⟩ := released_once opens
  refine ⟨opens, ?_, ?_⟩
  · rcases ends losing with still | ⟨before, c, rest, split, -, goes, -⟩
    · obtain ⟨c, known, -⟩ := still losing (List.prefix_refl _)
      have gone : (selected.after losing).cursors.get? 0 = none := by decide
      cases gone.symm.trans known
    · exact ⟨before, c, rest, split, goes⟩
  · have reached : selected.Reached := reached_of_start (.plain true) (by decide)
    have counts (q : Request) (hq : q ∈ CursorResources.givingBack ⟨⟨3⟩, some ⟨⟨1⟩, true⟩⟩)
        (asked : q ∈ (selected.after losing).session.requests) :
        (selected.after losing).session.requests.count q = 1 :=
      Nat.le_antisymm ((once reached q hq).2 losing (by decide)) (List.count_pos_iff.mpr asked)
    exact ⟨counts _ (by decide) (by decide), counts _ (by decide) (by decide)⟩

end Client

end SqlClient
