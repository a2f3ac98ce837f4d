import SqlClient.Proofs.ManualTransactions

namespace SqlClient

open SqlClient.Action Relation Session

def lastGiven {α : Type} (changes : List SettingChange) (given? : SettingChange → Option α) (unset : α) :
    α :=
  (changes.reverse.findSome? given?).getD unset

def TransactionOptions.ofLast (changes : List SettingChange) : TransactionOptions where
  kind := lastGiven changes (fun | .kind v => some v | _ => none) .short
  label := lastGiven changes (fun | .label v => some v | _ => none) none
  includeDdl := lastGiven changes (fun | .includeDdl v => some v | _ => none) none
  writePreserve := lastGiven changes (fun | .writePreserve v => some v | _ => none) []
  inclusiveReadArea := lastGiven changes (fun | .inclusiveReadArea v => some v | _ => none) []
  exclusiveReadArea := lastGiven changes (fun | .exclusiveReadArea v => some v | _ => none) []
  scanParallel := lastGiven changes (fun | .scanParallel v => some v | _ => none) none
  priority := lastGiven changes (fun | .priority v => some v | _ => none) none

theorem lastGiven_concat {α : Type} (changes : List SettingChange) (change : SettingChange)
    (given? : SettingChange → Option α) (unset : α) :
    lastGiven (changes ++ [change]) given? unset = (given? change).getD (lastGiven changes given? unset) := by
  simp only [lastGiven, List.reverse_append, List.reverse_cons, List.reverse_nil, List.nil_append,
    List.cons_append, List.findSome?_cons]
  cases given? change <;> rfl

theorem TransactionOptions.ofLast_concat (changes : List SettingChange) (change : SettingChange) :
    ofLast (changes ++ [change]) = (ofLast changes).apply change := by
  simp only [ofLast, lastGiven_concat]
  cases change <;> rfl

inductive SettingsUse where
  | set (change : SettingChange)
  | options
deriving DecidableEq, Repr

def SettingsUse.change? : SettingsUse → Option SettingChange
  | set change => some change
  | options => none

namespace TransactionSettings

def use (s : TransactionSettings) : SettingsUse → TransactionSettings
  | .set change => s.set change
  | .options => s.options.2

def after (s : TransactionSettings) (uses : List SettingsUse) : TransactionSettings :=
  uses.foldl use s

/-- These are the changes that have been made, and what is kept was built after the last of them. -/
structure Reflects (s : TransactionSettings) (changes : List SettingChange) : Prop where
  current : s.current = .ofLast changes
  cached : ∀ o, s.cached = some o → o = .ofLast changes

variable {s : TransactionSettings} {changes : List SettingChange}

theorem reflects_new : new.Reflects [] :=
  ⟨rfl, fun _ h => nomatch h⟩

theorem Reflects.set (h : s.Reflects changes) (change : SettingChange) :
    (s.set change).Reflects (changes ++ [change]) := by
  refine ⟨?_, fun _ h => nomatch h⟩
  rw [TransactionOptions.ofLast_concat, ← h.current]
  rfl

theorem Reflects.built (h : s.Reflects changes) : s.options.1 = .ofLast changes := by
  unfold options
  split
  next o kept => exact h.cached o kept
  next => exact h.current

theorem Reflects.options (h : s.Reflects changes) : s.options.2.Reflects changes := by
  unfold TransactionSettings.options
  split
  next => exact h
  next => exact ⟨h.current, fun o kept => Option.some.inj kept ▸ h.current⟩

theorem Reflects.use (h : s.Reflects changes) (u : SettingsUse) :
    (s.use u).Reflects (changes ++ u.change?.toList) := by
  cases u with
  | set change => exact h.set change
  | options => exact (List.append_nil changes).symm ▸ h.options

theorem Reflects.after (h : s.Reflects changes) (uses : List SettingsUse) :
    (s.after uses).Reflects (changes ++ uses.filterMap SettingsUse.change?) := by
  induction uses generalizing s changes with
  | nil => exact (List.append_nil changes).symm ▸ h
  | cons u uses ih =>
    have rest := ih (h.use u)
    rw [List.append_assoc] at rest
    cases u <;> exact rest

theorem options_options (s : TransactionSettings) : s.options.2.options = s.options := by
  cases h : s.cached <;> simp [options, h]

end TransactionSettings

namespace Session

structure Announces (s t : Session) : Prop where
  settings : t.settings = s.settings ∨ t.settings = s.settings.options.2
  begins : Adds (fun r => ∀ o, r = .begin o → o = s.settings.options.1) s t

variable {s t u w : Session} {p : Permit} {tx : TransactionId}

namespace Announces

theorem of_same (settings : t.settings = s.settings) (exchanges : t.exchanges = s.exchanges) :
    Announces s t :=
  ⟨.inl settings, adds_of_same exchanges⟩

theorem refl (s : Session) : Announces s s :=
  of_same rfl rfl

theorem options (h : Announces s t) : t.settings.options = s.settings.options := by
  rcases h.settings with same | built
  · rw [same]
  · rw [built, TransactionSettings.options_options]

theorem trans (h : Announces s t) (h' : Announces t u) : Announces s u := by
  refine ⟨?_, h.begins.trans (h'.begins.mono fun r begins o hr => ?_)⟩
  · rcases h'.settings with same | built
    · rw [same]
      exact h.settings
    · rw [built, h.options]
      exact .inr rfl
  · rw [← h.options]
    exact begins o hr

theorem call {r : Request} (timeout : Option Milliseconds) (s : Session)
    (hr : ∀ o, r = .begin o → o = s.settings.options.1) : Announces s ((call r timeout).final s) := by
  refine ⟨.inl ?_, adds_call timeout s hr⟩
  rw [final_call]

theorem asks {kind : Request → Prop} (never : ∀ o, ¬kind (.begin o)) (h : ReflTransGen (Asks kind) s t) :
    Announces s t := by
  induction h with
  | refl => exact refl s
  | tail _ ask ih =>
    cases ask with
    | ask timeout _ hr => exact ih.trans (call timeout _ fun o begins => absurd (begins ▸ hr) (never o))

theorem beside (h : Beside s t) : Announces s t :=
  asks (fun _ aside => nomatch aside) h

theorem works {kind : Request → Prop} (h : Works kind tx s t) : Announces s t :=
  asks (fun _ concern => concern.2.elim (fun aside => nomatch aside) id) h

theorem buildOptions (s : Session) : Announces s s.asking :=
  ⟨.inr rfl, adds_of_same rfl⟩

theorem begin (s : Session) : Announces s (Session.begin.final s) := by
  have asked := (buildOptions s).trans (call (r := .begin s.settings.options.1) none s.asking ?_)
  · rw [final_begin]
    cases (Session.call (.begin s.settings.options.1) none).outcome s.asking with
    | error e => exact asked
    | ok tx => exact asked.trans (of_same rfl rfl)
  · rintro o ⟨⟩
    exact congrArg Prod.fst (buildOptions s).options.symm

theorem getOrBegin (s : Session) : Announces s (getOrBegin.final s) := by
  rw [final_getOrBegin]
  split
  next => exact of_same rfl rfl
  next =>
    have forgets : Announces s { s with slot := none } := of_same rfl rfl
    exact forgets.trans (begin _)

theorem complete (how : Completion) (tx : TransactionId) (s : Session) :
    Announces s ((complete how tx).final s) := by
  cases h : s.isClosed tx with
  | true =>
    rw [final_complete_closed how tx h]
    exact refl s
  | false =>
    rw [final_complete_open how tx h]
    have closes : Announces s (s.closeHandle tx) := of_same rfl rfl
    have completes := call (r := .complete how tx) none (s.closeHandle tx) fun _ h => nomatch h
    exact (closes.trans completes).trans (call none _ fun _ h => nomatch h)

theorem finish (tx : TransactionId) (s : Session) : Announces s ((finish tx).final s) := by
  rw [final_finish]
  split
  · exact complete .commit tx s
  · exact refl s

theorem abortAfter (tx : TransactionId) (e : Error) (s : Session) :
    Announces s ((abortAfter tx e).final s) := by
  rw [final_abortAfter]
  split
  · exact complete .rollback tx s
  · exact refl s

theorem completeTaken (how : Completion) (s : Session) :
    Announces s ((completeTaken how).final s) := by
  have takes : Announces s { s with slot := none } := of_same rfl rfl
  rw [final_completeTaken]
  split
  next tx _ => exact takes.trans (complete how tx _)
  next => exact takes

theorem amid (h : Amid s tx w) : Announces s w := by
  obtain ⟨u, before, -, worked⟩ := h
  exact ((beside before).trans (getOrBegin u)).trans (works worked)

theorem executes {early : Bool} {r : Except Error (Option Cursor)} (h : Executes early s r t) :
    Announces s t := by
  cases h with
  | refused before | vacant before => exact beside before
  | unbegun before _ after => exact ((beside before).trans (getOrBegin _)).trans (beside after)
  | opened worked => exact amid worked
  | finished worked after => exact ((amid worked).trans (finish _ _)).trans (beside after)
  | aborted worked after => exact ((amid worked).trans (abortAfter _ _ _)).trans (beside after)

theorem steers (h : Steers p s t) (never : ¬p.configures) : Announces s t := by
  cases h with
  | configure configures => exact absurd configures never
  | switch | shut | forget => exact of_same rfl rfl
  | buildOptions => exact buildOptions s
  | begin => exact begin s
  | complete => exact complete _ _ s
  | completeTaken => exact completeTaken _ s
  | finish tx => exact finish tx s

theorem tidies (h : ReflTransGen Tidies s t) : Announces s t := by
  induction h with
  | refl => exact refl s
  | tail _ last ih =>
    cases last with
    | aside timeout _ concern => exact ih.trans (beside (beside_call timeout _ concern))
    | finish tx => exact ih.trans (finish tx _)

end Announces

end Session

theorem Does.announces {p : Permit} {h h' : Holding} (does : Does p h h') (never : ¬p.configures) :
    Announces h.session h'.session := by
  cases does with
  | rearrange | discardCursor | prepare | changePrepared | discardPrepared => exact .refl _
  | steer steers => exact .steers steers never
  | execute hx => exact .executes (hx.executing _ _ .refl)
  | executePrepared hx => exact .executes (hx.executing _ _ .refl)
  | useCursor hx c _ _ s => exact .tidies (hx.tidying (c, s))
  | closePrepared q _ _ s => exact .beside (PreparedStatement.besides_close (q, s))

namespace Client

variable {k : Client} {changes : List SettingChange}

theorem announces_call (k : Client) {c : Call} (never : ¬c.configures = true) :
    Announces k.session (k.call c).2.session := by
  have step (h h' : Holding) (does : Does (k.permit c) h h') (hh : Announces k.session h.session) :
      Announces k.session h'.session :=
    hh.trans (does.announces never)
  exact k.keeps_call c step (.refl _)

def change? : Command → Option SettingChange
  | .call (.connection (.changeSettings change)) => some change
  | _ => none

theorem session_changeSettings (k : Client) (change : SettingChange) :
    (k.call (.connection (.changeSettings change))).2.session =
      { k.session with settings := k.session.settings.set change } := by
  rw [call, runOn_eq]
  exact congrArg session (final_onSession k _)

theorem announces_step (k : Client) {c : Command} (h : change? c = none) :
    Announces k.session (k.step c).2.session := by
  cases c with
  | arrange a => exact .of_same rfl rfl
  | direct r => exact .of_same rfl rfl
  | call c =>
    refine k.announces_call fun configures => ?_
    cases c with
    | connection c =>
      cases c with
      | changeSettings change => cases h
      | _ => cases configures
    | _ => cases configures

theorem eq_of_change? {c : Command} {change : SettingChange} (h : change? c = some change) :
    c = .call (.connection (.changeSettings change)) := by
  unfold change? at h
  split at h
  next => rw [Option.some.inj h]
  next => cases h

theorem adds_begin_step (k : Client) (c : Command) :
    Adds (fun r => ∀ o, r = .begin o → o = k.session.settings.options.1) k.session
      (k.step c).2.session := by
  cases made : change? c with
  | none => exact (k.announces_step made).begins
  | some change =>
    have same := congrArg Session.exchanges (k.session_changeSettings change)
    rw [eq_of_change? made]
    exact adds_of_same same

theorem reflects_step (h : k.session.settings.Reflects changes) (c : Command) :
    (k.step c).2.session.settings.Reflects (changes ++ (change? c).toList) := by
  cases made : change? c with
  | none =>
    rw [Option.toList_none, List.append_nil]
    rcases (k.announces_step made).settings with same | built
    · exact same ▸ h
    · exact built ▸ h.options
  | some change =>
    have changed := h.set change
    rw [eq_of_change? made]
    exact congrArg Session.settings (k.session_changeSettings change) ▸ changed

theorem step_buildOptions (k : Client) :
    (k.step (.call (.connection .buildOptions))).1 = some (.ok k.session.settings.options.1) := by
  change some ((onSession Session.buildOptions).outcome k) = _
  rw [onSession, outcome_zoom]
  rfl

end Client

structure Copying where
  client : Client
  copies : Keyed Nat TransactionSettings
deriving Repr

namespace Copying

inductive Step where
  | command (c : Command)
  | copy (keep : Nat)
  | useCopy (n : Nat) (use : SettingsUse)
deriving Repr

def step (p : Copying) : Step → Copying
  | .command c => { p with client := (p.client.step c).2 }
  | .copy keep => { p with copies := p.copies.put keep p.client.session.settings }
  | .useCopy n use => { p with copies := p.copies.update n fun s => s.use use }

def after (p : Copying) (steps : List Step) : Copying :=
  steps.foldl step p

def start (k : Client) : Copying :=
  ⟨k, .empty⟩

def ownChange? : Step → Option SettingChange
  | .command c => Client.change? c
  | .copy _ | .useCopy .. => none

variable {p : Copying} {changes : List SettingChange}

theorem reflects_after (h : p.client.session.settings.Reflects changes) (steps : List Step) :
    (p.after steps).client.session.settings.Reflects (changes ++ steps.filterMap ownChange?) := by
  -- on the steps, whatever has been changed before
  induction steps generalizing p changes with
  | nil => exact (List.append_nil changes).symm ▸ h
  | cons step steps ih =>
    have first : (p.step step).client.session.settings.Reflects (changes ++ (ownChange? step).toList) := by
      cases step with
      | command c => exact Client.reflects_step h c
      | copy | useCopy => exact (List.append_nil changes).symm ▸ h
    have rest := ih first
    rw [List.append_assoc] at rest
    change ((p.step step).after steps).client.session.settings.Reflects _
    rw [List.filterMap_cons]
    cases made : ownChange? step <;> rw [made] at rest <;> exact rest

/-- A connection is opened with settings that were made beforehand, and a program uses it and copies of
its settings. At every moment, what any command begins is begun with the options that the values given
last to the connection itself make up, and these are the options that are read. -/
theorem begin_sends_current {server : Server} {scheduler : Scheduler} {config : ConnectionConfig} {k : Client}
    (opens : Client.connect server scheduler config = .ok k) {uses : List SettingsUse}
    (made : config.settings = TransactionSettings.new.after uses) (steps : List Step) :
    let now := ((start k).after steps).client
    let options := TransactionOptions.ofLast
      (uses.filterMap SettingsUse.change? ++ steps.filterMap ownChange?)
    (∀ c, ∀ e ∈ now.exchangesOf c, ∀ o, e.request = .begin o → o = options) ∧
      (now.step (.call (.connection .buildOptions))).1 = some (.ok options) := by
  intro now options
  have given := TransactionSettings.reflects_new.after uses
  rw [List.nil_append, ← made] at given
  have opened : (start k).client.session.settings = config.settings := by
    rw [start, Client.eq_of_connect opens]
    rfl
  have current : now.session.settings.Reflects _ := reflects_after (opened ▸ given) steps
  refine ⟨fun c e he o begins => ?_, ?_⟩
  · obtain ⟨added, exchanges, announced⟩ := now.adds_begin_step c
    rw [Client.exchangesOf_eq exchanges] at he
    exact (announced e he o begins).trans current.built
  · rw [now.step_buildOptions, current.built]

def labelled : ConnectionConfig :=
  { ConnectionConfig.plain false with
    settings := TransactionSettings.new.after [.set (.label (some "a")), .options] }

def announcing : List Step :=
  [.command (.call (.connection (.changeSettings (.kind .long)))),
    .command (.call (.connection .buildOptions)), .copy 0, .useCopy 0 (.set (.label (some "b"))),
    .command (.arrange (.failNext .begin "busy")), .command (.call (.connection (.transaction none))),
    .command (.call (.connection (.changeSettings (.writePreserve ["orders"]))))]

theorem begin_sends_current_announced :
    Client.connect .new .multiThread labelled = .ok (Client.start labelled) ∧
      ∃ e ∈ ((start (Client.start labelled)).after announcing).client.exchangesOf
          (.call (.connection (.transaction none))),
        e.request = .begin ⟨.long, some "a", none, ["orders"], [], [], none, none⟩ := by
  have opens : Client.connect .new .multiThread labelled = .ok (Client.start labelled) := rfl
  have sent := (begin_sends_current opens rfl announcing).1 (.call (.connection (.transaction none)))
  refine ⟨opens, _, .head _, ?_⟩
  exact congrArg Request.begin (sent _ (.head _) _ rfl)

end Copying

end SqlClient
