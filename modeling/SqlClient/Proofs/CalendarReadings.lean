import SqlClient.Proofs.Actions
import SqlClient.Proofs.Readings
import SqlClient.Proofs.Rescaling
import SqlClient.Proofs.Runs
import SqlClient.Session.Cursor

namespace SqlClient

open SqlClient.Action

def Atom.isTemporal : Atom → Bool
  | .date | .timeOfDay | .timePoint | .timeOfDayWithTimeZone | .timePointWithTimeZone => true
  | _ => false

def WireValue.Timeless (v : WireValue) : Prop :=
  ∀ a, v.atom? = some a → a.isTemporal = false ∧ a.isLargeObject = false

def HostValue.atScale (ctx : ConversionContext) : HostValue → Except Error HostValue
  | .decimal d => (SqlClient.atScale ctx d).map .decimal
  | v => .ok v

variable {ctx ctx' : ConversionContext} {v : WireValue} {t : Target}

theorem Target.kindRead_eq_decimal_iff : t.kindRead = .decimal ↔ t = .decimal := by
  cases t <;> decide

theorem bind_atScale_eq_self_iff {x : Except Error HostValue} :
    x >>= HostValue.atScale ctx = x ↔
      ∀ d s, x = .ok (.decimal d) → ctx.scale = some s → d.scale = s := by
  cases x with
  | error e => exact ⟨fun _ _ _ h => (nomatch h), fun _ => rfl⟩
  | ok host =>
    cases host with
    | decimal d =>
      have scaled : (Except.ok (.decimal d) >>= HostValue.atScale ctx) = (atScale ctx d).map .decimal := rfl
      have kept : (atScale ctx d).map HostValue.decimal = .ok (.decimal d) ↔ atScale ctx d = .ok d := by
        cases atScale ctx d <;> simp [Except.map]
      rw [scaled, kept, atScale_eq_self_iff]
      refine ⟨fun own d' s same => ?_, fun own s => own d s rfl⟩
      cases same
      exact own s
    | _ => exact ⟨fun _ _ _ h => (nomatch h), fun _ => rfl⟩

theorem bind_atScale_of_kind {x : Except Error HostValue} {F : Error → Prop} {kind : Target}
    (hx : Ends (fun host => host.kind? = some kind) F x) (other : kind ≠ .decimal) :
    x >>= HostValue.atScale ctx = x := by
  cases x with
  | error e => rfl
  | ok host =>
    cases host with
    | decimal d => exact absurd (Option.some.inj hx).symm other
    | _ => rfl

namespace WireValue

theorem readDirect_of_timeless (h : v.Timeless) (ht : t ≠ .decimal) :
    v.readDirect ctx t = v.readDirect ctx' t := by
  cases v with
  | date | timeOfDay | timePoint | timeOfDayWithTimeZone | timePointWithTimeZone =>
    cases (h _ rfl).1
  | blob | clob => cases (h _ rfl).2
  | _ =>
    cases t with
    | decimal => exact absurd rfl ht
    | _ => rfl

theorem toDecimal_bind_atScale (hs : ctx'.scale = none) (hv : v ≠ .null) :
    v.toDecimal ctx = v.toDecimal ctx' >>= HostValue.atScale ctx := by
  have own (d : Decimal) : SqlClient.atScale ctx' d = .ok d := atScale_unscaled hs d
  have later (x : Except Error Decimal) :
      (x >>= fun d => (SqlClient.atScale ctx d).map .decimal) =
        (x >>= fun d => (SqlClient.atScale ctx' d).map .decimal) >>= HostValue.atScale ctx := by
    cases x with
    | error e => rfl
    | ok d =>
      simp only [own]
      rfl
  cases v with
  | null => exact absurd rfl hv
  | int4 n => exact later (.ok (.ofInt64 n.toInt64))
  | int8 n => exact later (.ok (.ofInt64 n))
  | decimal d => exact later (.ok d)
  | float4 | float8 | character => exact later _
  | _ => rfl

theorem read_of_timeless (h : v.Timeless) (settings : ctx.settings = ctx'.settings)
    (hs : ctx'.scale = none) (t : Target) :
    v.read ctx t = v.read ctx' t >>= HostValue.atScale ctx := by
  cases ha : v.atom? with
  | none =>
    rw [atom?_eq_none_iff.mp ha]
    cases t <;> rfl
  | some a =>
    have resolved : ctx.resolve a t = ctx'.resolve a t := by
      simp only [ConversionContext.resolve, settings]
    rw [read_of_atom ha, read_of_atom ha, resolved]
    by_cases decimal : ctx'.resolve a t = .decimal
    · rw [decimal]
      exact toDecimal_bind_atScale hs (ne_null_of_atom ha)
    · have reads : v.ReadsAs ctx' (ctx'.resolve a t) (v.readDirect ctx' (ctx'.resolve a t)) :=
        readsAs_readDirect (ne_null_of_atom ha) (ctx'.resolve_ne_object a t)
      rw [bind_atScale_of_kind reads (mt Target.kindRead_eq_decimal_iff.mp decimal)]
      exact readDirect_of_timeless h decimal

theorem Timeless.lobFor?_eq_none (h : v.Timeless) (ctx : ConversionContext) (t : Target) :
    v.lobFor? ctx t = none := by
  cases v with
  | blob | clob => cases (h _ rfl).2
  | _ => rfl

theorem Timeless.read_ne_outsideCalendar (h : v.Timeless) (ctx : ConversionContext) (t : Target) :
    v.read ctx t ≠ .error .outsideCalendar := by
  intro outside
  have stays : ¬v.LeavesCalendar ctx (ctx.resolve .timePointWithTimeZone t) := by
    cases v with
    | timePointWithTimeZone => cases (h _ rfl).1
    | _ => exact id
  rcases (classified_read stays).of_error outside with conversion | ⟨id, lob, -⟩
  · cases conversion
  · cases v with
    | blob | clob => cases (h _ rfl).2
    | _ => cases lob

end WireValue

namespace Cursor

variable {c : Cursor} {s : Session} {index : Nat}

def noted (c : Cursor) (index : Nat) : Cursor :=
  match c.valueAt index with
  | .ok v => { c with wasNull := v == .null }
  | .error _ => c

theorem read_of_timeless (h : ∀ v, c.valueAt index = .ok v → v.Timeless) (t : Target)
    (asked : ReadRequest) :
    (read index ⟨t⟩ asked).outcome (c, s) =
        (c.valueAt index >>= fun v => v.read (c.contextFor s index asked) t) ∧
      (read index ⟨t⟩ asked).final (c, s) = (c.noted index, s) := by
  simp only [read, cursor, session, outcome_bind, final_bind, outcome_get, final_get, outcome_pure,
    final_pure, outcome_ofExcept, final_ofExcept]
  unfold noted
  cases found : c.valueAt index with
  | error e => exact ⟨rfl, rfl⟩
  | ok v =>
    have timeless := h v found
    -- so the reading takes the last case of its match, the one that makes the note
    have stays := timeless.read_ne_outsideCalendar (c.contextFor s index asked) t
    simp only [withChannel, timeless.lobFor?_eq_none, outcome_pure, final_pure, ColumnReader.read, change,
      outcome_bind, final_bind, outcome_modify, final_modify, outcome_ofExcept, final_ofExcept]
    exact ⟨rfl, trivial⟩

/-- The plain reading of a value that is neither temporal nor a large object is the reading in any zone,
with a decimal brought to the declared scale. So the two agree unless a decimal has another scale than its
column. -/
theorem read_calendar_iff (h : ∀ v, c.valueAt index = .ok v → v.Timeless) (t : Target) (zone : Offset) :
    (read index ⟨t⟩ .plain).outcome (c, s) =
        ((read index ⟨t⟩ (.calendar zone)).outcome (c, s) >>=
          HostValue.atScale (c.contextFor s index .plain)) ∧
      (read index ⟨t⟩ .plain).final (c, s) = (read index ⟨t⟩ (.calendar zone)).final (c, s) ∧
      ((read index ⟨t⟩ .plain).outcome (c, s) = (read index ⟨t⟩ (.calendar zone)).outcome (c, s) ↔
        ∀ d scale, (read index ⟨t⟩ (.calendar zone)).outcome (c, s) = .ok (.decimal d) →
          c.declaredScale index = some scale → d.scale = scale) := by
  obtain ⟨plain, plainFinal⟩ := read_of_timeless (s := s) h t .plain
  obtain ⟨zoned, zonedFinal⟩ := read_of_timeless (s := s) h t (.calendar zone)
  have scaled : (read index ⟨t⟩ .plain).outcome (c, s) =
      ((read index ⟨t⟩ (.calendar zone)).outcome (c, s) >>=
        HostValue.atScale (c.contextFor s index .plain)) := by
    rw [plain, zoned]
    cases found : c.valueAt index with
    | error e => rfl
    | ok v =>
      have sameSettings : (c.contextFor s index .plain).settings =
          (c.contextFor s index (.calendar zone)).settings := rfl
      exact WireValue.read_of_timeless (h v found) sameSettings rfl t
  refine ⟨scaled, plainFinal.trans zonedFinal.symm, ?_⟩
  rw [scaled]
  exact bind_atScale_eq_self_iff

end Cursor

namespace Client

def price : Decimal :=
  ⟨false, 15, 1, by decide⟩

def priced : Client :=
  (start (.plain true)).after
    [.arrange (.createTable "t" [⟨some "price", .decimal, true, some 2⟩]),
      .arrange (.seed "t" [[.decimal price]]), .call (.connection (.statement 0)),
      .call (.statement 0 (.query 0 "select * from t")), .call (.cursor 0 .advance)]

def pricing : Cursor :=
  { transaction := ⟨2⟩
    resources := some ⟨⟨3⟩, some ⟨⟨1⟩, true⟩⟩
    columns := some [⟨some "price", .decimal, true, some 2⟩]
    row := some [.decimal price]
    rowNumber := 1
    limits := .unset
    afterLast := false
    wasNull := false }

def eastern : Offset :=
  CentralEurope.summer

theorem timeless_pricing {v : WireValue} (h : pricing.valueAt 1 = .ok v) : v.Timeless := by
  intro a ha
  cases h
  cases ha
  exact ⟨rfl, rfl⟩

theorem read_calendar_iff_pricing :
    priced.cursors.get? 0 = some pricing ∧ (∀ v, pricing.valueAt 1 = .ok v → v.Timeless) ∧
      (Cursor.read 1 ⟨.string⟩ .plain).outcome (pricing, priced.session) =
        (Cursor.read 1 ⟨.string⟩ (.calendar eastern)).outcome (pricing, priced.session) ∧
      (Cursor.read 1 ⟨.object⟩ .plain).outcome (pricing, priced.session) ≠
        (Cursor.read 1 ⟨.object⟩ (.calendar eastern)).outcome (pricing, priced.session) := by
  have timeless (v : WireValue) (h : pricing.valueAt 1 = .ok v) : v.Timeless := timeless_pricing h
  refine ⟨rfl, timeless, ?_, fun same => ?_⟩
  · exact (Cursor.read_calendar_iff timeless .string eastern).2.2.mpr fun d scale reads _ => by
      cases reads
  · have own := (Cursor.read_calendar_iff timeless .object eastern).2.2.mp same
    exact absurd (own price 2 rfl rfl) (by decide)

theorem read_calendar_unscaled :
    ¬∀ k : Client, k.Reached → ∀ n c index t zone, k.cursors.get? n = some c →
      (∀ v, c.valueAt index = .ok v → v.Timeless) →
        (Cursor.read index ⟨t⟩ .plain).outcome (c, k.session) =
          (Cursor.read index ⟨t⟩ (.calendar zone)).outcome (c, k.session) := by
  intro law
  have reached : priced.Reached := reached_of_start (.plain true) (by decide)
  have same := law _ reached 0 pricing 1 .decimal eastern rfl fun _ => timeless_pricing
  have plain : (Cursor.read 1 ⟨.decimal⟩ .plain).outcome (pricing, priced.session) =
      .ok (.decimal ⟨false, 150, 2, by decide⟩) := rfl
  have zoned : (Cursor.read 1 ⟨.decimal⟩ (.calendar eastern)).outcome (pricing, priced.session) =
      .ok (.decimal price) := rfl
  cases (plain.symm.trans same).trans zoned

end Client

end SqlClient
