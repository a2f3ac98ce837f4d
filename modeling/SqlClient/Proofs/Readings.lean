import SqlClient.Conversion
import SqlClient.Proofs.Zones

namespace SqlClient

variable {ctx : ConversionContext} {v : WireValue} {t : Target} {α β : Type}

def Ends (P : α → Prop) (F : Error → Prop) : Except Error α → Prop
  | .ok a => P a
  | .error e => F e

namespace Ends

variable {P : α → Prop} {Q : β → Prop} {F G : Error → Prop} {x : Except Error α}

theorem map {f : α → β} (hx : Ends P F x) (h : ∀ a, P a → Q (f a)) : Ends Q F (x.map f) := by
  cases x with
  | ok a => exact h a hx
  | error e => exact hx

theorem bind {f : α → Except Error β} (hx : Ends P F x) (h : ∀ a, P a → Ends Q F (f a)) :
    Ends Q F (x >>= f) := by
  cases x with
  | ok a => exact h a hx
  | error e => exact hx

theorem mono {P' : α → Prop} (hx : Ends P F x) (hP : ∀ a, P a → P' a) (hF : ∀ e, F e → G e) :
    Ends P' G x := by
  cases x with
  | ok a => exact hP a hx
  | error e => exact hF e hx

theorem mapM {f : α → Except Error β} {l : List α} (h : ∀ a ∈ l, Ends (fun _ => True) F (f a)) :
    Ends (fun _ => True) F (l.mapM f) := by
  induction l with
  | nil => trivial
  | cons a l ih =>
    obtain ⟨first, rest⟩ := List.forall_mem_cons.mp h
    rw [List.mapM_cons]
    exact first.bind fun b _ => (ih rest).bind fun bs _ => trivial

theorem of_ok {a : α} (hx : Ends P F x) (h : x = .ok a) : P a := by
  subst h
  exact hx

theorem of_error {e : Error} (hx : Ends P F x) (h : x = .error e) : F e := by
  subst h
  exact hx

end Ends

def Atom.isNumeric : Atom → Bool
  | .int4 | .int8 | .float4 | .float8 | .decimal => true
  | _ => false

def Target.sources : Target → List Atom
  | .string =>
    [.boolean, .int4, .int8, .float4, .float8, .decimal, .character, .date, .timeOfDay, .timePoint,
      .timeOfDayWithTimeZone, .timePointWithTimeZone, .clob]
  | .boolean | .byte | .short | .int | .long | .float | .double =>
    [.boolean, .int4, .int8, .float4, .float8, .decimal, .character]
  | .decimal => [.int4, .int8, .float4, .float8, .decimal, .character]
  | .bytes | .binaryStream | .blob => [.octet, .blob]
  | .asciiStream => [.octet, .blob, .character, .clob]
  | .characterStream | .clob => [.character, .clob]
  | .date | .timestamp | .localDate | .offsetDateTime | .zonedDateTime =>
    [.date, .timePoint, .timePointWithTimeZone, .character]
  | .time | .localTime =>
    [.timeOfDay, .timePoint, .timeOfDayWithTimeZone, .timePointWithTimeZone, .character]
  | .localDateTime => [.timePoint, .timePointWithTimeZone, .character]
  | .offsetTime => [.timeOfDay, .timeOfDayWithTimeZone, .character]
  | .object => []

def Target.kindRead : Target → Target
  | .asciiStream => .binaryStream
  | t => t

def Target.clock? (ctx : ConversionContext) (dt : ZonedDateTime) : Target → Option DateTime
  | .date | .time | .timestamp => some (dt.inZone ctx.zone).wall
  | .string | .localDate | .localTime | .localDateTime => some dt.wall
  | _ => none

theorem Width.kind?_wrap (w : Width) (n : Int) : (w.wrap n).kind? = some w.target.kindRead := by
  cases w <;> rfl

namespace WireValue

def lob? : WireValue → Option LobId
  | .blob id | .clob id => some id
  | _ => none

def FailsInChannel (ctx : ConversionContext) (v : WireValue) (e : Error) : Prop :=
  ∃ id, v.lob? = some id ∧ ctx.readLob id = .error e

/-- The wall clock that the target shows is a day beyond the calendar. -/
def LeavesCalendar (ctx : ConversionContext) (t : Target) : WireValue → Prop
  | .timePointWithTimeZone dt => ∃ wall, t.clock? ctx dt = some wall ∧ ¬wall.InCalendar
  | _ => False

/-- Why a value does not read as the target `t`, which is not `object`. Zero and one apart, numbers have
no boolean reading although the target accepts their types. -/
inductive Fails (ctx : ConversionContext) (v : WireValue) (t : Target) : Error → Prop where
  | unsupported (a : Atom) : v.atom? = some a → a ∉ t.sources ∨ t = .boolean ∧ a.isNumeric = true →
      Fails ctx v t (.unsupportedConversion a t)
  | outOfRange (fault : RangeFault) : Fails ctx v t (.outOfRange t fault)
  | malformed (literal : String) (fault : LiteralFault) :
      Fails ctx v t (.malformedLiteral t literal fault)
  | outside : v.LeavesCalendar ctx t → Fails ctx v t .outsideCalendar
  | channel (id : LobId) (e : Error) : v.lob? = some id → ctx.readLob id = .error e → Fails ctx v t e

def ReadsAs (ctx : ConversionContext) (v : WireValue) (t : Target) : Except Error HostValue → Prop :=
  Ends (fun host => host.kind? = some t.kindRead) (v.Fails ctx t)

abbrev Prepares (ctx : ConversionContext) (v : WireValue) (t : Target) : Except Error α → Prop :=
  Ends (fun _ => True) (v.Fails ctx t)

theorem Prepares.map {x : Except Error α} {f : α → HostValue} (hx : v.Prepares ctx t x)
    (h : ∀ a, (f a).kind? = some t.kindRead) : v.ReadsAs ctx t (x.map f) :=
  Ends.map hx fun a _ => h a

theorem readsAs_mismatch {a : Atom} (ha : v.atom? = some a)
    (h : a ∉ t.sources ∨ t = .boolean ∧ a.isNumeric = true) : v.ReadsAs ctx t (v.mismatch t) := by
  simp only [mismatch, ha]
  exact .unsupported a ha h

theorem prepares_temporalLiteral (literal : String) (read : List Char → Option α) :
    v.Prepares ctx t (temporalLiteral t literal read) := by
  unfold temporalLiteral
  split
  · trivial
  · exact .malformed _ _

theorem prepares_ownWall {dt own : ZonedDateTime} (hv : v = .timePointWithTimeZone own)
    (h : t.clock? ctx own = some dt.wall) : v.Prepares ctx t (ownWall dt) := by
  subst hv
  unfold ownWall ZonedDateTime.wall?
  split
  · trivial
  · next outside =>
    have leaves : ¬dt.wall.InCalendar := by simpa using outside
    exact .outside ⟨dt.wall, h, leaves⟩

theorem prepares_attachZone (wall : DateTime) : v.Prepares ctx t (attachZone ctx t wall) := by
  unfold attachZone
  split
  · trivial
  · exact .outOfRange _

theorem prepares_offsetTimeLiteral (literal : String) :
    v.Prepares ctx .offsetTime (offsetTimeLiteral literal) := by
  unfold offsetTimeLiteral
  split
  · trivial
  · exact .malformed _ _
  · exact .malformed _ _

theorem prepares_readBoolean (literal : String) : v.Prepares ctx .boolean (readBoolean literal) := by
  simp only [readBoolean]
  split
  · trivial
  · split
    · trivial
    · exact .malformed _ _

theorem prepares_integerLiteral (w : Width) (literal : String) :
    v.Prepares ctx w.target (integerLiteral w literal) := by
  unfold integerLiteral
  split
  · trivial
  · exact .malformed _ _
  · exact .malformed _ _
  · exact .outOfRange _

theorem prepares_floatLiteral (literal : String)
    (read : List Char → Except Binary.LiteralFault α) :
    v.Prepares ctx t (floatLiteral t literal read) := by
  unfold floatLiteral
  split
  · trivial
  · exact .malformed _ _
  · exact .malformed _ _

theorem prepares_decimalLiteral (literal : String) :
    v.Prepares ctx .decimal (decimalLiteral literal) := by
  unfold decimalLiteral
  split
  · trivial
  · exact .malformed _ _

theorem prepares_ofFloat (form : Option Decimal) (text : List Char) :
    v.Prepares ctx .decimal (ofFloat form text) := by
  unfold ofFloat
  split
  · trivial
  · exact .outOfRange _

theorem prepares_atScale (d : Decimal) : v.Prepares ctx .decimal (atScale ctx d) := by
  unfold atScale
  split
  · trivial
  · split
    · trivial
    · exact .outOfRange _

theorem prepares_decodeClob (bytes : Bytes) : v.Prepares ctx t (decodeClob t bytes) := by
  unfold decodeClob
  split
  · trivial
  · exact .malformed _ _

theorem prepares_readLob {id : LobId} (hv : v.lob? = some id) :
    v.Prepares ctx t (ctx.readLob id) := by
  cases h : ctx.readLob id with
  | ok bytes => trivial
  | error e => exact .channel id e hv h

theorem prepares_readClob {id : LobId} (hv : v.lob? = some id) :
    v.Prepares ctx t (ctx.readLob id >>= decodeClob t) :=
  Ends.bind (prepares_readLob hv) fun bytes _ => prepares_decodeClob bytes

theorem readsAs_toText (hv : v ≠ .null) : v.ReadsAs ctx .string (v.toText ctx) := by
  cases v with
  | null => exact absurd rfl hv
  | octet | blob => exact readsAs_mismatch rfl (.inl (by decide))
  | clob id => exact (prepares_readClob rfl).map fun _ => rfl
  | timePointWithTimeZone dt =>
    have zoned : (timePointWithTimeZone dt).Prepares ctx .string (zonedText dt) :=
      Ends.bind (prepares_ownWall rfl rfl) fun _ _ => trivial
    exact Ends.bind zoned fun _ _ => rfl
  | _ => exact rfl

theorem readsAs_toBoolean (hv : v ≠ .null) : v.ReadsAs ctx .boolean v.toBoolean := by
  cases v with
  | null => exact absurd rfl hv
  | boolean b => exact rfl
  | character s => exact (prepares_readBoolean s).map fun _ => rfl
  | int4 | int8 | float4 | float8 | decimal =>
    simp only [toBoolean]
    split
    · exact rfl
    · exact readsAs_mismatch rfl (.inr ⟨rfl, rfl⟩)
  | _ => exact readsAs_mismatch rfl (.inl (by decide))

theorem readsAs_toInteger (hv : v ≠ .null) (w : Width) : v.ReadsAs ctx w.target (v.toInteger w) := by
  have refuses {a : Atom} (h : a ∉ Target.int.sources) : a ∉ w.target.sources := by
    cases w <;> exact h
  cases v with
  | null => exact absurd rfl hv
  | boolean | int4 | int8 | float4 | float8 | decimal => exact Width.kind?_wrap w _
  | character s => exact (prepares_integerLiteral w s).map (Width.kind?_wrap w)
  | _ => exact readsAs_mismatch rfl (.inl (refuses (by decide)))

theorem readsAs_toFloat (hv : v ≠ .null) : v.ReadsAs ctx .float v.toFloat := by
  cases v with
  | null => exact absurd rfl hv
  | boolean | int4 | int8 | float4 | float8 | decimal => exact rfl
  | character s => exact (prepares_floatLiteral s _).map fun _ => rfl
  | _ => exact readsAs_mismatch rfl (.inl (by decide))

theorem readsAs_toDouble (hv : v ≠ .null) : v.ReadsAs ctx .double v.toDouble := by
  cases v with
  | null => exact absurd rfl hv
  | boolean | int4 | int8 | float4 | float8 | decimal => exact rfl
  | character s => exact (prepares_floatLiteral s _).map fun _ => rfl
  | _ => exact readsAs_mismatch rfl (.inl (by decide))

theorem readsAs_toDecimal (hv : v ≠ .null) : v.ReadsAs ctx .decimal (v.toDecimal ctx) := by
  have scaled (d : Decimal) : v.ReadsAs ctx .decimal ((atScale ctx d).map .decimal) :=
    (prepares_atScale d).map fun _ => rfl
  cases v with
  | null => exact absurd rfl hv
  | int4 | int8 | decimal => exact scaled _
  | float4 | float8 => exact Ends.bind (prepares_ofFloat _ _) fun d _ => scaled d
  | character s => exact Ends.bind (prepares_decimalLiteral s) fun d _ => scaled d
  | _ => exact readsAs_mismatch rfl (.inl (by decide))

theorem readsAs_bytesAs (hv : v ≠ .null) (ht : t.sources = [.octet, .blob]) {f : Bytes → HostValue}
    (hf : ∀ bytes, (f bytes).kind? = some t.kindRead) :
    v.ReadsAs ctx t (match v.octets? ctx with
      | some bytes => bytes.map f
      | none => v.mismatch t) := by
  cases v with
  | null => exact absurd rfl hv
  | octet bytes => exact hf bytes
  | blob id => exact (prepares_readLob rfl).map hf
  | _ => exact readsAs_mismatch rfl (.inl (by rw [ht]; decide))

theorem readsAs_textAs (hv : v ≠ .null) (ht : t.sources = [.character, .clob]) {f : String → HostValue}
    (hf : ∀ s, (f s).kind? = some t.kindRead) :
    v.ReadsAs ctx t (match v.characters? ctx t with
      | some text => text.map f
      | none => v.mismatch t) := by
  cases v with
  | null => exact absurd rfl hv
  | character s => exact hf s
  | clob id => exact (prepares_readClob rfl).map hf
  | _ => exact readsAs_mismatch rfl (.inl (by rw [ht]; decide))

theorem readsAs_toAsciiStream (hv : v ≠ .null) :
    v.ReadsAs ctx .asciiStream (v.toAsciiStream ctx) := by
  cases v with
  | null => exact absurd rfl hv
  | octet | character => exact rfl
  | blob id => exact (prepares_readLob rfl).map fun _ => rfl
  | clob id => exact (prepares_readClob rfl).map fun _ => rfl
  | _ => exact readsAs_mismatch rfl (.inl (by decide))

theorem readsAs_instantAs (hv : v ≠ .null)
    (ht : t.sources = [.date, .timePoint, .timePointWithTimeZone, .character])
    {f : ZonedDateTime → HostValue} (hf : ∀ dt, (f dt).kind? = some t.kindRead) :
    v.ReadsAs ctx t (match v.instant? ctx t with
      | some instant => instant.map f
      | none => v.mismatch t) := by
  cases v with
  | null => exact absurd rfl hv
  | timePointWithTimeZone dt => exact hf _
  | timePoint | date => exact (prepares_attachZone _).map hf
  | character s => exact (prepares_temporalLiteral s _).map hf
  | _ => exact readsAs_mismatch rfl (.inl (by rw [ht]; decide))

theorem readsAs_day (hv : v ≠ .null) (ht : t = .date ∨ t = .timestamp ∨ t = .localDate) :
    v.ReadsAs ctx t (v.readDirect ctx t) := by
  rcases ht with rfl | rfl | rfl <;> cases v with
  | null => exact absurd rfl hv
  | date | timePoint => exact rfl
  | timePointWithTimeZone dt => exact (prepares_ownWall rfl rfl).map fun _ => rfl
  | character s => exact (prepares_temporalLiteral s _).map fun _ => rfl
  | _ => exact readsAs_mismatch rfl (.inl (by decide))

theorem readsAs_timeOfDay (hv : v ≠ .null) (ht : t = .time ∨ t = .localTime) :
    v.ReadsAs ctx t (v.readDirect ctx t) := by
  rcases ht with rfl | rfl <;> cases v with
  | null => exact absurd rfl hv
  | timeOfDay | timePoint | timeOfDayWithTimeZone => exact rfl
  | timePointWithTimeZone dt => exact (prepares_ownWall rfl rfl).map fun _ => rfl
  | character s => exact (prepares_temporalLiteral s _).map fun _ => rfl
  | _ => exact readsAs_mismatch rfl (.inl (by decide))

theorem readsAs_toLocalDateTime (hv : v ≠ .null) :
    v.ReadsAs ctx .localDateTime v.toLocalDateTime := by
  cases v with
  | null => exact absurd rfl hv
  | timePoint => exact rfl
  | timePointWithTimeZone dt => exact (prepares_ownWall rfl rfl).map fun _ => rfl
  | character s => exact (prepares_temporalLiteral s _).map fun _ => rfl
  | _ => exact readsAs_mismatch rfl (.inl (by decide))

theorem readsAs_toOffsetTime (hv : v ≠ .null) : v.ReadsAs ctx .offsetTime (v.toOffsetTime ctx) := by
  cases v with
  | null => exact absurd rfl hv
  | timeOfDay | timeOfDayWithTimeZone => exact rfl
  | character s => exact (prepares_offsetTimeLiteral s).map fun _ => rfl
  | _ => exact readsAs_mismatch rfl (.inl (by decide))

theorem readsAs_readDirect (hv : v ≠ .null) (ht : t ≠ .object) :
    v.ReadsAs ctx t (v.readDirect ctx t) := by
  cases t with
  | string => exact readsAs_toText hv
  | boolean => exact readsAs_toBoolean hv
  | byte => exact readsAs_toInteger hv .byte
  | short => exact readsAs_toInteger hv .short
  | int => exact readsAs_toInteger hv .int
  | long => exact readsAs_toInteger hv .long
  | float => exact readsAs_toFloat hv
  | double => exact readsAs_toDouble hv
  | decimal => exact readsAs_toDecimal hv
  | bytes | binaryStream | blob => exact readsAs_bytesAs hv rfl fun _ => rfl
  | date | timestamp | localDate => exact readsAs_day hv (by decide)
  | time | localTime => exact readsAs_timeOfDay hv (by decide)
  | localDateTime => exact readsAs_toLocalDateTime hv
  | offsetTime => exact readsAs_toOffsetTime hv
  | offsetDateTime | zonedDateTime => exact readsAs_instantAs hv rfl fun _ => rfl
  | asciiStream => exact readsAs_toAsciiStream hv
  | characterStream | clob => exact readsAs_textAs hv rfl fun _ => rfl
  | object => exact absurd rfl ht

theorem readDirect_of_not_mem_sources {a : Atom} (ha : v.atom? = some a) (h : a ∉ t.sources)
    (ht : t ≠ .object) : v.readDirect ctx t = .error (.unsupportedConversion a t) := by
  cases t with
  | object => exact absurd rfl ht
  | _ => cases v <;> cases ha <;> first | exact absurd (by decide) h | rfl

theorem ownWall_of_not_inCalendar {dt : ZonedDateTime} (h : ¬dt.wall.InCalendar) :
    ownWall dt = .error .outsideCalendar := by
  simp only [ownWall, ZonedDateTime.wall?, if_neg h]

theorem ownWall_of_inCalendar {dt : ZonedDateTime} (h : dt.wall.InCalendar) :
    ownWall dt = .ok dt.wall := by
  simp only [ownWall, ZonedDateTime.wall?, if_pos h]

theorem readDirect_of_leavesCalendar (h : v.LeavesCalendar ctx t) :
    v.readDirect ctx t = .error .outsideCalendar := by
  cases v with
  | timePointWithTimeZone dt =>
    obtain ⟨wall, shown, outside⟩ := h
    cases t with
    | string =>
      cases shown
      simp only [readDirect, toText, zonedText, ownWall_of_not_inCalendar outside]
      rfl
    | date | time | timestamp =>
      cases shown
      simp only [readDirect, toDate, toTime, toTimestamp, wallInZone,
        ownWall_of_not_inCalendar outside]
      rfl
    | localDate | localTime | localDateTime =>
      cases shown
      simp only [readDirect, toLocalDate, toLocalTime, toLocalDateTime,
        ownWall_of_not_inCalendar outside]
      rfl
    | _ => cases shown
  | _ => exact h.elim

end WireValue

theorem ConversionContext.resolve_ne_object (ctx : ConversionContext) (a : Atom) (target : Target) :
    ctx.resolve a target ≠ .object := by
  unfold resolve
  split
  · exact ctx.settings.mapping.target_ne_object a
  · assumption

namespace WireValue

variable {a : Atom}

theorem ne_null_of_atom (ha : v.atom? = some a) : v ≠ .null := by
  rintro rfl
  cases ha

theorem read_of_atom (ha : v.atom? = some a) (target : Target) :
    v.read ctx target = v.readDirect ctx (ctx.resolve a target) := by
  simp only [read, if_neg (ne_null_of_atom ha), convert, ha]

theorem readsAs_read (ha : v.atom? = some a) (target : Target) :
    v.ReadsAs ctx (ctx.resolve a target) (v.read ctx target) := by
  rw [read_of_atom ha]
  exact readsAs_readDirect (ne_null_of_atom ha) (ctx.resolve_ne_object a target)

theorem read_of_not_mem_sources (ha : v.atom? = some a) {target : Target}
    (h : a ∉ (ctx.resolve a target).sources) :
    v.read ctx target = .error (.unsupportedConversion a (ctx.resolve a target)) := by
  rw [read_of_atom ha]
  exact readDirect_of_not_mem_sources ha h (ctx.resolve_ne_object a target)

theorem read_classified (ha : v.atom? = some a) (target : Target) :
    (∀ host, v.read ctx target = .ok host →
      host ≠ .null ∧ host.kind? = some (ctx.resolve a target).kindRead) ∧
    (∀ e, v.read ctx target = .error e → v.Fails ctx (ctx.resolve a target) e) ∧
    (∀ source goal, v.read ctx target = .error (.unsupportedConversion source goal) →
      ¬v.FailsInChannel ctx (.unsupportedConversion source goal) →
      ¬(ctx.resolve a target = .boolean ∧ a.isNumeric = true) →
      ∀ (other : ConversionContext) (v' : WireValue) (target' : Target), v'.atom? = some a →
        other.resolve a target' = ctx.resolve a target →
        v'.read other target' = .error (.unsupportedConversion a (ctx.resolve a target))) := by
  have reads : v.ReadsAs ctx (ctx.resolve a target) (v.read ctx target) := readsAs_read ha target
  refine ⟨?_, fun e he => reads.of_error he, ?_⟩
  · intro host hok
    have kind := reads.of_ok hok
    refine ⟨?_, kind⟩
    rintro rfl
    cases kind
  · intro source goal herr own notNumeric other v' target' ha' same
    have refused : a ∉ (ctx.resolve a target).sources := by
      cases reads.of_error herr with
      | unsupported _ ha'' why =>
        cases ha.symm.trans ha''
        exact why.resolve_right notNumeric
      | channel id _ hid answer => exact absurd ⟨id, hid, answer⟩ own
    rw [← same] at refused ⊢
    exact read_of_not_mem_sources ha' refused

theorem read_classified_blobAsInt :
    (octet [1]).atom? = some .octet ∧ (blob ⟨1⟩).atom? = some .blob ∧
      ¬(blob ⟨1⟩).FailsInChannel default (.unsupportedConversion .blob .int) ∧
      ∀ (ctx : ConversionContext) (v : WireValue) (a : Atom), v.atom? = some a →
        a = .octet ∨ a = .blob → v.read ctx .int = .error (.unsupportedConversion a .int) := by
  have closed : ¬(blob ⟨1⟩).FailsInChannel default (.unsupportedConversion .blob .int) := by
    rintro ⟨id, -, answer⟩
    cases answer
  refine ⟨rfl, rfl, closed, fun ctx v a hv ha => ?_⟩
  rcases ha with rfl | rfl
  · have noObject : ¬(octet [1]).FailsInChannel ctx (.unsupportedConversion .octet .int) := by
      rintro ⟨id, hid, -⟩
      cases hid
    exact (@read_classified ctx (octet [1]) .octet rfl .int).2.2 .octet .int rfl noObject (fun other =>
      nomatch other.1) ctx v .int hv rfl
  · exact (@read_classified default (blob ⟨1⟩) .blob rfl .int).2.2 .blob .int rfl closed (by decide) ctx v
      .int hv rfl

def Classified (ctx : ConversionContext) (v : WireValue) : Except Error HostValue → Prop :=
  Ends (fun _ => True) fun e =>
    e.isConversion = true ∨ v.FailsInChannel ctx e

theorem classified_read {target : Target}
    (stays : ¬v.LeavesCalendar ctx (ctx.resolve .timePointWithTimeZone target)) :
    v.Classified ctx (v.read ctx target) := by
  cases ha : v.atom? with
  | none =>
    rw [atom?_eq_none_iff.mp ha]
    trivial
  | some a =>
    refine (readsAs_read ha target).mono (fun _ _ => trivial) fun e fails => ?_
    cases fails with
    | unsupported | outOfRange | malformed => exact .inl rfl
    | channel id _ hid answer => exact .inr ⟨id, hid, answer⟩
    | outside leaves =>
      cases v with
      | timePointWithTimeZone dt =>
        cases ha
        exact absurd leaves stays
      | _ => exact leaves.elim

/-- Every reading is classified, except that of a zoned date-time whose clock, in the zone that the target
shows, is a day beyond the calendar. -/
theorem read_total (ctx : ConversionContext) (v : WireValue) (target : Target) :
    (¬v.LeavesCalendar ctx (ctx.resolve .timePointWithTimeZone target) →
      v.Classified ctx (v.read ctx target)) ∧
    (v.LeavesCalendar ctx (ctx.resolve .timePointWithTimeZone target) →
      v.read ctx target = .error .outsideCalendar) := by
  refine ⟨classified_read, fun leaves => ?_⟩
  cases v with
  | timePointWithTimeZone dt =>
    rw [read_of_atom rfl]
    exact readDirect_of_leavesCalendar leaves
  | _ => exact leaves.elim

def lastHour : ZonedDateTime :=
  ⟨⟨⟨262142, 12, 31, Date.december _⟩,
    { Time.midnight with second := 82800, second_lt := by decide }⟩, .utc, by decide⟩

def twoHoursAhead : ConversionContext :=
  { (default : ConversionContext) with calendar := some CentralEurope.summer }

theorem read_not_total :
    ¬∀ (ctx : ConversionContext) (v : WireValue) (target : Target),
      v.Classified ctx (v.read ctx target) := by
  intro total
  have unclassified : (timePointWithTimeZone lastHour).read twoHoursAhead .timestamp =
      .error .outsideCalendar := rfl
  have classified := total twoHoursAhead (timePointWithTimeZone lastHour) .timestamp
  rw [unclassified] at classified
  rcases classified with conversion | ⟨id, hid, -⟩
  · cases conversion
  · cases hid

end WireValue

end SqlClient
