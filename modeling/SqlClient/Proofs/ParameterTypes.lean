import SqlClient.Proofs.RoundTrips
import SqlClient.Proofs.Readings

namespace SqlClient

inductive Payload where
  | truth (b : Bool)
  | integer (n : Int)
  | single (x : Single)
  | double (x : Double)
  | decimal (d : Decimal)
  | text (s : String)
  | octets (b : Bytes)
  | date (d : Date)
  | time (t : Time)
  | dateTime (dt : DateTime)
  | offsetTime (t : OffsetTime)
  | zonedDateTime (dt : ZonedDateTime)
  | largeObject (id : LobId)
deriving DecidableEq, Repr

def WireValue.payload? : WireValue → Option Payload
  | null => none
  | boolean b => some (.truth b)
  | int4 n => some (.integer n.toInt)
  | int8 n => some (.integer n.toInt)
  | float4 x => some (.single x)
  | float8 x => some (.double x)
  | decimal d => some (.decimal d)
  | character s => some (.text s)
  | octet b => some (.octets b)
  | date d => some (.date d)
  | timeOfDay t => some (.time t)
  | timePoint dt => some (.dateTime dt)
  | timeOfDayWithTimeZone t => some (.offsetTime t)
  | timePointWithTimeZone dt => some (.zonedDateTime dt)
  | blob id | clob id => some (.largeObject id)

def HostValue.payload? : HostValue → Option Payload
  | null => none
  | boolean b => some (.truth b)
  | byte n => some (.integer n.toInt)
  | short n => some (.integer n.toInt)
  | int n => some (.integer n.toInt)
  | long n => some (.integer n.toInt)
  | float x => some (.single x)
  | double x => some (.double x)
  | decimal d => some (.decimal d)
  | string s | clob s => some (.text s)
  -- A stream is sent whole, whatever has been read of it.
  | characterStream s => some (.text s.content)
  | bytes b | blob b => some (.octets b)
  | byteStream s => some (.octets s.content)
  | date d | localDate d => some (.date d)
  | time t | localTime t => some (.time t)
  | timestamp dt | localDateTime dt => some (.dateTime dt)
  | offsetTime t => some (.offsetTime t)
  | offsetDateTime dt | zonedDateTime dt => some (.zonedDateTime dt)

theorem Atom.wireAtom?_kindRead {a : Atom} (h : a.isLargeObject = false) :
    a.naturalTarget.kindRead.wireAtom? = some a := by
  cases a <;> first | rfl | cases h

theorem Atom.naturalTarget_ne_object (a : Atom) : a.naturalTarget ≠ .object := by
  cases a <;> decide

namespace HostValue

variable {ctx : ConversionContext} {v : HostValue} {a : Atom} {declared : Option Atom}

theorem payload?_toWire (v : HostValue) : v.toWire.payload? = v.payload? := by
  cases v with
  | byte n => simp [toWire, WireValue.payload?, payload?]
  | short n => simp [toWire, WireValue.payload?, payload?]
  | _ => rfl

theorem wireAs_atom (hv : v ≠ .null) (ha : a.isLargeObject = false) :
    Ends (fun w => w.atom? = some a) (fun _ => True) (v.wireAs ctx a) := by
  unfold wireAs
  split
  next same => exact same
  next =>
    obtain ⟨own, hown⟩ := exists_atom hv
    -- A reading gives the kind that reads the type, and that kind is sent as the type.
    have reads : v.toWire.ReadsAs ctx _ (v.toWire.read ctx a.naturalTarget) :=
      WireValue.readsAs_read (v.atom?_toWire.trans hown) a.naturalTarget
    rw [ConversionContext.resolve, if_neg a.naturalTarget_ne_object] at reads
    refine (reads.map fun host kind => ?_).mono (fun _ => id) fun _ _ => trivial
    rw [host.atom?_toWire, atom?, kind]
    exact Atom.wireAtom?_kindRead ha

end HostValue

/-- The parameter has the name given and a type that can be bound, the one that was declared or else the one
of the value, and it holds a null exactly for a null and else a value of its type. -/
structure Parameter.WellTyped (p : Parameter) (name : String) (v : HostValue) (declared : Option Atom) :
    Prop where
  name : p.name = name
  atom : some p.atom = declared.or v.atom?
  bindable : p.atom ≠ .blob ∧ p.atom ≠ .clob
  null_iff : p.value = .null ↔ v = .null
  value : v ≠ .null → p.value.atom? = some p.atom

namespace HostValue

theorem ne_lob_of_bindable {a : Atom} (h : ¬a.isLargeObject = true) : a ≠ .blob ∧ a ≠ .clob := by
  constructor
  · rintro rfl
    exact h rfl
  · rintro rfl
    exact h rfl

theorem wellTyped_encode (ctx : ConversionContext) (name : String) (v : HostValue)
    (declared : Option Atom) :
    Ends (fun p => p.WellTyped name v declared) (fun _ => True) (v.encode ctx name declared) := by
  unfold encode
  split
  next => trivial
  next a typed =>
    split
    next => trivial
    next bindable =>
      have ha := ne_lob_of_bindable bindable
      split
      next null => exact ⟨rfl, typed.symm, ha, by simp [null], fun hv => absurd null hv⟩
      next hv =>
        refine (wireAs_atom hv (Bool.eq_false_iff.mpr bindable)).map fun w atom => ?_
        have present : w ≠ .null := WireValue.ne_null_of_atom atom
        exact ⟨rfl, typed.symm, ha, by simp [present, hv], fun _ => atom⟩

theorem encode_well_typed (ctx : ConversionContext) (name : String) (v : HostValue) :
    (∀ declared p, v.encode ctx name declared = .ok p → p.WellTyped name v declared) ∧
    (v ≠ .null → ∃ p, v.encode ctx name none = .ok p ∧ p.value.payload? = v.payload?) := by
  refine ⟨fun declared p => (wellTyped_encode ctx name v declared).of_ok, fun hv => ?_⟩
  obtain ⟨a, ha⟩ := exists_atom hv
  exact ⟨_, encode_undeclared name ha, v.payload?_toWire⟩

example : (string "42").encode default "p1" (some .int8) = .ok ⟨"p1", .int8, .int8 42⟩ := by
  rfl

end HostValue

end SqlClient
