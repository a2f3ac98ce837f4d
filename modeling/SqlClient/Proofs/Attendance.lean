import SqlClient.Proofs.Calls
import SqlClient.Proofs.CursorSteps
import SqlClient.Proofs.LiveTransaction
import SqlClient.Proofs.Registers

namespace SqlClient

open SqlClient.Action Relation Session

namespace Session

variable {early : Bool} {s t u w : Session} {tx tx' : TransactionId}

theorem Lives.closed (h : Lives tx s t) {handle : Handle} (known : s.handles.get? tx = some handle)
    (isClosed : handle.closed = true) :
    ∃ handle', t.handles.get? tx = some handle' ∧ handle'.closed = true := by
  cases h with
  | spared same | ran _ same => exact ⟨handle, same.trans known, isClosed⟩
  | begun unknown => cases unknown.symm.trans known
  | ended _ closed =>
    rw [known] at closed
    exact ⟨_, closed, rfl⟩

theorem handles_getOrBegin_of_ne (gets : getOrBegin.outcome s = .ok tx) (other : tx' ≠ tx) :
    (getOrBegin.final s).handles.get? tx' = s.handles.get? tx' := by
  rw [outcome_getOrBegin] at gets
  rw [final_getOrBegin]
  cases live : s.live? with
  | some tx => rfl
  | none =>
    rw [live] at gets
    dsimp only at gets ⊢
    rw [outcome_begin] at gets
    rw [final_begin, gets]
    exact Keyed.get?_put_of_ne _ _ other

theorem handles_amid_of_ne (h : Amid s tx w) (other : tx' ≠ tx) :
    w.handles.get? tx' = s.handles.get? tx' := by
  obtain ⟨u, before, gets, works⟩ := h
  have entered := handles_getOrBegin_of_ne gets other
  rw [asks_frame works, entered, asks_frame before]

theorem isClosed_finish (auto : s.isAutocommit tx = true) :
    ((finish tx).final s).isClosed tx = true := by
  rw [final_finish, if_pos auto]
  exact isClosed_complete_self .commit tx s

theorem isClosed_abortAfter (e : Error) (auto : s.isAutocommit tx = true) :
    ((abortAfter tx e).final s).isClosed tx = true := by
  rw [final_abortAfter, auto, Bool.true_or, if_pos rfl]
  exact isClosed_complete_self .rollback tx s

theorem Executes.attends {r : Except Error (Option Cursor)} (h : Executes early s r t)
    (open_ : t.isClosed tx = false) (auto : t.isAutocommit tx = true) :
    (s.isClosed tx = false ∧ s.isAutocommit tx = true) ∨
      ∃ c ∈ leaves r, c.transaction = tx ∧ c.isClosed = false := by
  have before {u : Session} (h : Subsides u t) (same : u.handles.get? tx = s.handles.get? tx) :
      s.isClosed tx = false ∧ s.isAutocommit tx = true := by
    rw [← isClosed_congr same, ← isAutocommit_congr same, ← h.isAutocommit]
    exact ⟨h.isOpen open_, auto⟩
  cases h with
  | refused beside | vacant beside => exact .inl (before (subsides_asks beside) rfl)
  | unbegun beside fails after =>
    refine .inl (before (subsides_asks after) ?_)
    rw [(unbegun_of_error fails).1, asks_frame beside]
  | @opened _ tx' c amid transaction isOpen =>
    by_cases htx : tx = tx'
    · exact .inr ⟨c, List.mem_singleton.mpr rfl, transaction.trans htx.symm, isOpen⟩
    · exact .inl (before (.refl t) (handles_amid_of_ne amid htx))
  | @finished w _ tx' amid after =>
    have ends := (subsides_finish tx' w).trans (subsides_asks after)
    by_cases htx : tx = tx'
    · subst htx
      rw [ends.isAutocommit] at auto
      have closed := (subsides_asks after).isClosed (isClosed_finish auto)
      cases open_.symm.trans closed
    · exact .inl (before ends (handles_amid_of_ne amid htx))
  | @aborted w _ tx' e amid after =>
    have ends := (subsides_abortAfter tx' e w).trans (subsides_asks after)
    by_cases htx : tx = tx'
    · subst htx
      rw [ends.isAutocommit] at auto
      have closed := (subsides_asks after).isClosed (isClosed_abortAfter e auto)
      cases open_.symm.trans closed
    · exact .inl (before ends (handles_amid_of_ne amid htx))

theorem getOrBegin_ok_known (gets : getOrBegin.outcome s = .ok tx) :
    ∃ h, (getOrBegin.final s).handles.get? tx = some h := by
  have isOpen := (live?_eq_some_iff.mp (live_of_getOrBegin gets)).2
  obtain ⟨h, known, -⟩ := isClosed_eq_false_iff.mp isOpen
  exact ⟨h, known⟩

end Session

namespace Cursor

structure Settled (s : Session) (c : Cursor) : Prop where
  known : ∃ h, s.handles.get? c.transaction = some h
  ended : s.isAutocommit c.transaction = true → c.isClosed = true ∨ c.afterLast = true →
    s.isClosed c.transaction = true

variable {s t : Session} {c c' : Cursor}

theorem Settled.subsides (h : c.Settled s) (subsides : Subsides s t) : c.Settled t := by
  obtain ⟨handle, known⟩ := h.known
  refine ⟨subsides.known known, fun auto gone => ?_⟩
  rw [subsides.isAutocommit] at auto
  exact subsides.isClosed (h.ended auto gone)

theorem Settled.lives (h : c.Settled s) (lives : Lives c.transaction s t) : c.Settled t := by
  obtain ⟨handle, known⟩ := h.known
  obtain ⟨handle', known', same⟩ := lives.autocommit known
  refine ⟨⟨handle', known'⟩, fun auto gone => ?_⟩
  have autoBefore : s.isAutocommit c.transaction = true := by
    rw [isAutocommit, known'] at auto
    rw [isAutocommit, known]
    exact same.symm.trans auto
  have closed := h.ended autoBefore gone
  rw [Session.isClosed, known] at closed
  obtain ⟨handle'', known'', closed'⟩ := lives.closed known closed
  rw [Session.isClosed, known'']
  exact closed'

theorem isClosed_of_close
    (gone : c.isClosed = true → s.isAutocommit c.transaction = true → s.isClosed c.transaction = true)
    (auto : (close.final (c, s)).2.isAutocommit c.transaction = true) :
    (close.final (c, s)).2.isClosed c.transaction = true := by
  rw [final_close] at auto ⊢
  cases hr : c.resources with
  | none =>
    rw [hr] at auto
    exact gone (by rw [isClosed, hr]; rfl) auto
  | some r =>
    rw [hr] at auto
    dsimp only at auto ⊢
    rw [(subsides_finish _ _).isAutocommit] at auto
    exact isClosed_finish auto

theorem transaction_close (c : Cursor) (s : Session) :
    (close.final (c, s)).1.transaction = c.transaction := by
  rw [final_close]
  cases c.resources <;> rfl

theorem Turns.subsides {σ σ' : Cursor × Session} (h : Turns σ σ') : Subsides σ.2 σ'.2 :=
  Subsides.of_run h.tidies fun _ _ tidies => tidies.subsides

theorem Turns.transaction {σ σ' : Cursor × Session} (h : Turns σ σ') :
    σ'.1.transaction = σ.1.transaction := by
  cases h with
  | change transaction => exact transaction
  | read => rfl
  | close c s => exact transaction_close c s
  | exhaust c s =>
    rw [final_exhaust]
    split
    · exact transaction_close _ s
    · rfl

theorem Turns.settled {σ σ' : Cursor × Session} (h : Turns σ σ') (hs : σ.1.Settled σ.2) :
    σ'.1.Settled σ'.2 := by
  obtain ⟨handle, known⟩ := hs.known
  have stillKnown := h.subsides.known known
  rw [← h.transaction] at stillKnown
  refine ⟨stillKnown, fun auto gone => ?_⟩
  rw [h.transaction] at auto ⊢
  cases h with
  | change transaction resources afterLast s =>
    rw [isClosed, resources, afterLast] at gone
    exact hs.ended auto gone
  | read => exact (hs.subsides (Turns.subsides (.read ‹_› _ _ _))).ended auto gone
  | close c s => exact isClosed_of_close (fun closed before => hs.ended before (.inl closed)) auto
  | exhaust c s =>
    have same := (Turns.exhaust c s).subsides.isAutocommit c.transaction
    rw [same] at auto
    rw [final_exhaust, if_pos auto] at same ⊢
    exact isClosed_of_close (fun closed before => hs.ended before (.inl closed)) (same.trans auto)

end Cursor

theorem Session.Executes.settled {early : Bool} {s t : Session} {r : Except Error (Option Cursor)}
    (h : Executes early s r t) (c : Cursor) (mem : c ∈ leaves r) : c.Settled t := by
  cases h with
  | @opened _ tx c' amid transaction isOpen fresh =>
    cases List.mem_singleton.mp mem
    obtain ⟨u, -, gets, works⟩ := amid
    obtain ⟨handle, known⟩ := getOrBegin_ok_known gets
    refine ⟨⟨handle, ?_⟩, fun _ gone => ?_⟩
    · rw [works.frame, transaction]
      exact known
    · rw [isOpen, fresh] at gone
      simp at gone
  | @finished w _ tx =>
    cases ho : (finish tx).outcome w <;> rw [ho] at mem <;> cases mem
  | refused | vacant | unbegun | aborted => cases mem

structure Attended (h : Holding) : Prop where
  numbered : h.session.Numbered
  attended : ∀ tx, h.session.isClosed tx = false → h.session.isAutocommit tx = true →
    ∃ c ∈ h.cursors, c.transaction = tx ∧ c.isClosed = false
  settled : ∀ c ∈ h.cursors, c.Settled h.session

namespace Attended

variable {p : Permit} {cs : List Cursor} {ps ps' : List PreparedStatement} {s t : Session}
  {h h' : Holding}

theorem enters (ha : Attended ⟨cs, ps, s⟩) (run : ReflTransGen Move s t) {new : List Cursor}
    (settled : ∀ c ∈ new, c.Settled t)
    (attends : ∀ tx, t.isClosed tx = false → t.isAutocommit tx = true →
      (s.isClosed tx = false ∧ s.isAutocommit tx = true) ∨
        ∃ c ∈ new, c.transaction = tx ∧ c.isClosed = false) :
    Attended ⟨new ++ cs, ps', t⟩ := by
  refine ⟨ha.numbered.moves run, fun tx isOpen auto => ?_, fun c mem => ?_⟩
  · rcases attends tx isOpen auto with ⟨before, mode⟩ | ⟨c, mem, attended⟩
    · obtain ⟨c, mem, attended⟩ := ha.attended tx before mode
      exact ⟨c, List.mem_append_right _ mem, attended⟩
    · exact ⟨c, List.mem_append_left _ mem, attended⟩
  · rcases List.mem_append.mp mem with fresh | old
    · exact settled c fresh
    · have keeps (s t : Session) (lives : Lives c.transaction s t) (hs : c.Settled s) : c.Settled t :=
        hs.lives lives
      exact ha.numbered.run keeps run (ha.settled c old)

theorem subsides (ha : Attended ⟨cs, ps, s⟩) (run : ReflTransGen Move s t) (subsides : Subsides s t) :
    Attended ⟨cs, ps', t⟩ := by
  have none (c : Cursor) (mem : c ∈ []) : c.Settled t := nomatch mem
  refine ha.enters run none fun tx isOpen auto => .inl ⟨subsides.isOpen isOpen, ?_⟩
  rw [← subsides.isAutocommit tx]
  exact auto

theorem executes {early : Bool} {r : Except Error (Option Cursor)} (ha : Attended ⟨cs, ps, s⟩)
    (run : ReflTransGen Move s t) (executes : Executes early s r t) :
    Attended ⟨leaves r ++ cs, ps', t⟩ :=
  ha.enters run executes.settled fun _ => executes.attends

theorem turns {σ σ' : Cursor × Session} (ha : Attended ⟨σ.1 :: cs, ps, σ.2⟩)
    (turns : Cursor.Turns σ σ') : Attended ⟨σ'.1 :: cs, ps, σ'.2⟩ := by
  have settled := turns.settled (ha.settled _ List.mem_cons_self)
  have subsides := turns.subsides
  have run : ReflTransGen Move σ.2 σ'.2 := moves_of_tidies turns.tidies fun _ => trivial
  refine ⟨ha.numbered.moves run, fun tx isOpen auto => ?_, fun c mem => ?_⟩
  · have before := ha.attended tx (subsides.isOpen isOpen) ((subsides.isAutocommit tx).symm.trans auto)
    obtain ⟨c, mem, attends, openBefore⟩ := before
    rcases List.mem_cons.mp mem with rfl | other
    · refine ⟨σ'.1, List.mem_cons_self, turns.transaction.trans attends, ?_⟩
      by_contra closed
      have same : σ'.1.transaction = tx := turns.transaction.trans attends
      have gone := settled.ended (same ▸ auto) (.inl (eq_true_of_ne_false closed))
      rw [same, isOpen] at gone
      cases gone
    · exact ⟨c, List.mem_cons_of_mem _ other, attends, openBefore⟩
  · rcases List.mem_cons.mp mem with rfl | other
    · exact settled
    · exact (ha.settled c (List.mem_cons_of_mem _ other)).subsides subsides

theorem does (ha : Attended h) (does : Does p h h') (never : ¬p.begins) : Attended h' := by
  have run := does.moves
  cases does with
  | rearrange hc =>
    refine ⟨ha.numbered, fun tx isOpen auto => ?_, fun c mem => ha.settled c (hc.mem_iff.mpr mem)⟩
    obtain ⟨c, mem, attends⟩ := ha.attended tx isOpen auto
    exact ⟨c, hc.mem_iff.mp mem, attends⟩
  | steer steers => exact ha.subsides run (steers.subsides never)
  | execute hx => exact ha.executes run (hx.executing _ _ .refl)
  | executePrepared hx => exact ha.executes run (hx.executing _ _ .refl)
  | useCursor hx c cs ps s =>
    have turns (σ σ' : Cursor × Session) (turns : Cursor.Turns σ σ')
        (hσ : Attended ⟨σ.1 :: cs, ps, σ.2⟩) : Attended ⟨σ'.1 :: cs, ps, σ'.2⟩ := hσ.turns turns
    exact hx.turning.keeps turns ha
  | discardCursor closed =>
    refine ⟨ha.numbered, fun tx isOpen auto => ?_, fun c mem => ha.settled c (.tail _ mem)⟩
    obtain ⟨c, mem, attends, openBefore⟩ := ha.attended tx isOpen auto
    rcases List.mem_cons.mp mem with rfl | other
    · cases closed.symm.trans openBefore
    · exact ⟨c, other, attends, openBefore⟩
  | prepare | changePrepared | discardPrepared => exact ⟨ha.numbered, ha.attended, ha.settled⟩
  | closePrepared q _ _ s =>
    exact ha.subsides run (subsides_asks (PreparedStatement.besides_close (q, s)))

end Attended

def Command.asksForTransaction : Command → Bool
  | .call (.connection (.transaction _)) | .call (.coordinator (.transaction _)) => true
  | _ => false

namespace Cursor

variable {α : Type} {s : Session} {c : Cursor}

theorem turning_run {σ σ' : Cursor × Session} (run : ReflTransGen Turns σ σ') :
    Subsides σ.2 σ'.2 ∧ σ'.1.transaction = σ.1.transaction ∧
      (σ.1.Settled σ.2 → σ'.1.Settled σ'.2) := by
  induction run with
  | refl => exact ⟨.refl _, rfl, id⟩
  | tail _ last ih =>
    obtain ⟨subsides, transaction, settled⟩ := ih
    exact ⟨subsides.trans last.subsides, last.transaction.trans transaction,
      fun hs => last.settled (settled hs)⟩

theorem Settled.isClosed {x : Method α} (hs : c.Settled s) (hx : Turning x)
    (auto : s.isAutocommit c.transaction = true)
    (gone : (x.final (c, s)).1.isClosed = true ∨ (x.final (c, s)).1.afterLast = true) :
    (x.final (c, s)).2.isClosed c.transaction = true := by
  have run : ReflTransGen Turns (c, s) (x.final (c, s)) := hx (c, s)
  obtain ⟨subsides, transaction, settled⟩ := turning_run run
  have ended := (settled hs).ended
  rw [transaction, subsides.isAutocommit] at ended
  exact ended auto gone

end Cursor

theorem Cursor.Settled.moves {s t : Session} {c : Cursor} (hs : c.Settled s) (hn : s.Numbered)
    (run : ReflTransGen Move s t) :
    c.Settled t ∧ (s.isAutocommit c.transaction = true → t.isAutocommit c.transaction = true) := by
  have keeps (u v : Session) (lives : Lives c.transaction u v)
      (hu : c.Settled u ∧ (s.isAutocommit c.transaction = true → u.isAutocommit c.transaction = true)) :
      c.Settled v ∧
        (s.isAutocommit c.transaction = true → v.isAutocommit c.transaction = true) := by
    obtain ⟨settled, mode⟩ := hu
    obtain ⟨handle, known⟩ := settled.known
    obtain ⟨handle', known', same⟩ := lives.autocommit known
    refine ⟨settled.lives lives, fun auto => ?_⟩
    have before := mode auto
    rw [isAutocommit, known] at before
    rw [isAutocommit, known']
    exact same.trans before
  exact hn.run keeps run ⟨hs, id⟩

namespace Client

structure EndsWith (k : Client) (n : Nat) (tx : TransactionId) : Prop where
  exhausted : (k.call (.cursor n .advance)).1 = some (.ok false) →
    (k.call (.cursor n .advance)).2.session.isClosed tx = true
  closed : (k.call (.cursor n .close)).2.session.isClosed tx = true
  dropped : (k.call (.cursor n .drop)).2.session.isClosed tx = true
  replaced : ∀ c : Call, c.register? = some n → (k.call c).1 ≠ none →
    (k.call c).2.session.isClosed tx = true

variable {k k₀ : Client} {n : Nat} {c : Cursor}

theorem isClosed_dropCursor (known : k.cursors.get? n = some c) (hs : c.Settled k.session)
    (auto : k.session.isAutocommit c.transaction = true) :
    ((dropCursor n).final k).session.isClosed c.transaction = true := by
  have closes : (Cursor.drop.final (c, k.session)).1.isClosed = true := by
    rw [Cursor.drop, final_bestEffort]
    exact c.isClosed_close k.session
  rw [final_dropCursor, known]
  dsimp only
  rw [final_onCursor]
  exact hs.isClosed Cursor.IsMethod.drop.turning auto (.inl closes)

theorem isClosed_call_register (hn : k.session.Numbered) (known : k.cursors.get? n = some c)
    (hs : c.Settled k.session) (auto : k.session.isAutocommit c.transaction = true) {call : Call}
    (keeps : call.register? = some n) (made : (k.call call).1 ≠ none) :
    (k.call call).2.session.isClosed c.transaction = true := by
  rcases call_replaces keeps with missing | ⟨-, u, ⟨same, run⟩, session⟩
  · rw [missing] at made
    exact absurd rfl made
  · obtain ⟨settled, mode⟩ := hs.moves hn run
    rw [session]
    exact isClosed_dropCursor (same ▸ known) settled (mode auto)

theorem endsWith_of_attended (ha : Attended k.holding) (known : k.cursors.get? n = some c)
    (auto : k.session.isAutocommit c.transaction = true) : k.EndsWith n c.transaction := by
  have mem : c ∈ k.holding.cursors := (Keyed.perm_values_of_get? known).symm.subset List.mem_cons_self
  have hs := ha.settled c mem
  have ends {α : Type} {x : Cursor.Method α} (hx : Cursor.Turning x)
      (gone : (x.final (c, k.session)).1.isClosed = true ∨
        (x.final (c, k.session)).1.afterLast = true) :
      ((onCursor n c x).final k).session.isClosed c.transaction = true := by
    rw [final_onCursor]
    exact hs.isClosed hx auto gone
  refine ⟨fun more => ?_, ?_, ?_, fun _ => isClosed_call_register ha.numbered known hs auto⟩
  · rw [call, runOn_eq, known] at more ⊢
    have answers : Cursor.advance.outcome (c, k.session) = .ok false :=
      (outcome_zoom _ _ Cursor.advance k).symm.trans (Option.some.inj more)
    have gone := (Cursor.advances c k.session).afterLast answers
    exact ends Cursor.turning_advance (.inr gone)
  · rw [call, runOn_eq, known]
    exact ends Cursor.turning_close (.inl (c.isClosed_close k.session))
  · rw [call, runOn_eq, known]
    exact isClosed_dropCursor known hs auto

theorem attended_of_connect {server : Server} {scheduler : Scheduler} {config : ConnectionConfig}
    (opens : connect server scheduler config = .ok k) : Attended k.holding := by
  have numbered := numbered_of_connect opens
  rw [eq_of_connect opens] at numbered ⊢
  refine ⟨numbered, fun tx isOpen => ?_, fun c mem => ?_⟩
  · cases isOpen
  · cases mem

theorem attended_step (ha : Attended k.holding) {cmd : Command}
    (never : cmd.asksForTransaction = false) : Attended (k.step cmd).2.holding := by
  cases cmd with
  | arrange a =>
    exact ⟨numbered_step ha.numbered (.arrange a), ha.attended,
      fun c mem => (ha.settled c mem).subsides (.of_same rfl id)⟩
  | direct r =>
    exact ⟨numbered_step ha.numbered (.direct r), ha.attended,
      fun c mem => (ha.settled c mem).subsides (.of_same rfl id)⟩
  | call asked =>
    have begins : ¬(k.permit asked).begins := by
      intro begins
      rcases begins_cases begins with ⟨keep, rfl, -⟩ | ⟨keep, rfl⟩ <;> cases never
    exact k.keeps_call asked (fun _ _ does ih => ih.does does begins) ha

/-- As long as a program leaves transactions to its statements, an autocommit transaction that is live
has an open cursor, and it ends with the first of its cursors to end. -/
theorem no_dangling_transaction {server : Server} {scheduler : Scheduler} {config : ConnectionConfig}
    (opens : connect server scheduler config = .ok k₀) (cs : List Command)
    (never : ∀ c ∈ cs, c.asksForTransaction = false) :
    (∀ tx, (k₀.after cs).session.live? = some tx → (k₀.after cs).session.isAutocommit tx = true →
      ∃ n c, (k₀.after cs).cursors.get? n = some c ∧ c.transaction = tx ∧ c.isClosed = false) ∧
    ∀ n c, (k₀.after cs).cursors.get? n = some c →
      (k₀.after cs).session.isAutocommit c.transaction = true →
        (k₀.after cs).EndsWith n c.transaction := by
  have attended : Attended (k₀.after cs).holding := by
    have first := attended_of_connect opens
    clear opens
    -- on the commands that are left, from whatever state has been reached
    induction cs generalizing k₀ with
    | nil => exact first
    | cons cmd cs ih =>
      have rest := fun c mem => never c (List.mem_cons_of_mem cmd mem)
      exact ih rest (attended_step first (never cmd List.mem_cons_self))
  refine ⟨fun tx live auto => ?_, fun n c known => endsWith_of_attended attended known⟩
  obtain ⟨c, mem, attends⟩ := attended.attended tx (live?_eq_some_iff.mp live).2 auto
  obtain ⟨n, known⟩ := Keyed.exists_of_mem_values mem
  exact ⟨n, c, known, attends⟩

def selecting : List Command :=
  [.arrange (.createTable "t" []), .call (.connection (.statement 0)),
    .call (.statement 0 (.query 0 "select * from t"))]

theorem no_dangling_transaction_selecting :
    ((start (.plain true)).after selecting).session.live? = some ⟨2⟩ ∧
      (∃ n c, ((start (.plain true)).after selecting).cursors.get? n = some c ∧
        c.transaction = ⟨2⟩ ∧ c.isClosed = false) ∧
      ((start (.plain true)).after selecting).EndsWith 0 ⟨2⟩ := by
  have opens : connect .new .multiThread (.plain true) = .ok (start (.plain true)) := rfl
  have never : ∀ c ∈ selecting, c.asksForTransaction = false := by decide
  obtain ⟨attended, ends⟩ := no_dangling_transaction opens selecting never
  have live : ((start (.plain true)).after selecting).session.live? = some ⟨2⟩ := by decide
  have auto : ((start (.plain true)).after selecting).session.isAutocommit ⟨2⟩ = true := by decide
  have kept : (((start (.plain true)).after selecting).cursors.get? 0).map Cursor.transaction =
      some ⟨2⟩ := by decide
  obtain ⟨c, known, transaction⟩ := Option.map_eq_some_iff.mp kept
  refine ⟨live, attended ⟨2⟩ live auto, ?_⟩
  have gone := ends 0 c known
  rw [transaction] at gone
  exact gone auto

end Client

end SqlClient
