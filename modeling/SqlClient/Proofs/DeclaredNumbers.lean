import Mathlib.Algebra.Order.Ring.Int
import Mathlib.Data.Rat.Lemmas
import SqlClient.Parameter
import SqlClient.Proofs.Readings

namespace SqlClient

def Atom.isExact : Atom → Bool
  | int4 | int8 | decimal => true
  | _ => false

def Decimal.toRat (d : Decimal) : ℚ :=
  d.signed / 10 ^ d.scale

def WireValue.number? : WireValue → Option ℚ
  | int4 n => some n.toInt
  | int8 n => some n.toInt
  | decimal d => some d.toRat
  | _ => none

def HostValue.number? (v : HostValue) : Option ℚ :=
  match v with
  | decimal d => some d.toRat
  | v => v.integer?.map fun n => n

def Atom.Has (a : Atom) (q : ℚ) : Prop :=
  ∃ w : WireValue, w.atom? = some a ∧ w.number? = some q

def integerPart (q : ℚ) : ℤ :=
  q.num.tdiv q.den

def Atom.cut (a : Atom) (q : ℚ) : ℚ :=
  match a with
  | int4 => ((integerPart q).bmod Int32.size : ℤ)
  | int8 => ((integerPart q).bmod Int64.size : ℤ)
  | _ => q

theorem integerPart_intCast (n : ℤ) : integerPart n = n := by
  simp [integerPart]

theorem integerPart_div (n : ℤ) {u : ℤ} (pos : 0 < u) : integerPart (n / u) = n.tdiv u := by
  have ratio : (n / u : ℚ) = Rat.divInt n u := (Rat.divInt_eq_div n u).symm
  -- the ratio need not be in lowest terms, and cutting does not mind
  obtain ⟨c, num, den⟩ := Rat.num_den_mk pos.ne' ratio
  have hc : 0 < c := pos_of_mul_pos_left (den ▸ pos) (Int.natCast_nonneg _)
  calc integerPart (n / u) = (c * (n / u : ℚ).num).tdiv (c * (n / u : ℚ).den) :=
        (Int.mul_tdiv_mul_of_pos _ _ hc).symm
    _ = n.tdiv u := by rw [← num, ← den]

theorem integerPart_toRat (d : Decimal) : integerPart d.toRat = d.integral := by
  have cut := integerPart_div d.signed (Int.pow_pos (by decide) : (0 : ℤ) < 10 ^ d.scale)
  push_cast at cut
  exact cut

theorem toRat_ofInt64 (n : Int64) : (Decimal.ofInt64 n).toRat = n.toInt := by
  have signed : (Decimal.ofInt64 n).signed = n.toInt := by
    simp only [Decimal.signed, Decimal.ofInt64, decide_eq_true_eq]
    omega
  rw [Decimal.toRat, signed]
  simp [Decimal.ofInt64]

namespace Atom

variable {a : Atom} {q : ℚ}

theorem cut_of_has (h : a.Has q) : a.cut q = q := by
  obtain ⟨w, hw, hq⟩ := h
  cases w <;> cases hw <;> cases hq
  case int4 n => rw [cut, integerPart_intCast, Int32.toInt_bmod_size]
  case int8 n => rw [cut, integerPart_intCast, Int64.toInt_bmod_size]
  case decimal => rfl

end Atom

namespace WireValue

variable {ctx : ConversionContext} {w : WireValue} {a : Atom} {q : ℚ}

theorem toInteger_number (width : Width) (hw : w.number? = some q) :
    w.toInteger width = .ok (width.wrap (integerPart q)) := by
  cases w <;> cases hw
  case int4 | int8 => rw [integerPart_intCast, toInteger]
  case decimal => rw [integerPart_toRat, toInteger]

theorem toDecimal_number (hs : ctx.scale = none) (hw : w.number? = some q) :
    ∃ d, w.toDecimal ctx = .ok (.decimal d) ∧ d.toRat = q := by
  have unscaled (d : Decimal) : (atScale ctx d).map HostValue.decimal = .ok (.decimal d) :=
    congrArg (Except.map HostValue.decimal) (atScale_unscaled hs d)
  cases w <;> cases hw
  case int4 n =>
    exact ⟨.ofInt64 n.toInt64, unscaled _, by rw [toRat_ofInt64, Int32.toInt_toInt64]⟩
  case int8 n => exact ⟨.ofInt64 n, unscaled _, toRat_ofInt64 n⟩
  case decimal d => exact ⟨d, unscaled _, rfl⟩

theorem read_eq_readDirect (hw : w.number? = some q) {t : Target} (ht : t ≠ .object) :
    w.read ctx t = w.readDirect ctx t := by
  obtain ⟨b, hb⟩ : ∃ b, w.atom? = some b := by
    cases w <;> cases hw <;> exact ⟨_, rfl⟩
  rw [read_of_atom hb, ConversionContext.resolve, if_neg ht]

theorem read_number (hs : ctx.scale = none) (hw : w.number? = some q) (ha : a.isExact = true) :
    ∃ v, w.read ctx a.naturalTarget = .ok v ∧ v.toWire.atom? = some a ∧
      v.toWire.number? = some (a.cut q) := by
  cases a <;> cases ha
  case int4 =>
    refine ⟨.int (Int32.ofInt (integerPart q)), ?_, rfl, ?_⟩
    · rw [read_eq_readDirect hw (by decide)]
      exact toInteger_number .int hw
    · simp only [HostValue.toWire, number?, Int32.toInt_ofInt, Atom.cut]
  case int8 =>
    refine ⟨.long (Int64.ofInt (integerPart q)), ?_, rfl, ?_⟩
    · rw [read_eq_readDirect hw (by decide)]
      exact toInteger_number .long hw
    · simp only [HostValue.toWire, number?, Int64.toInt_ofInt, Atom.cut]
  case decimal =>
    obtain ⟨d, reads, same⟩ := toDecimal_number hs hw
    refine ⟨.decimal d, ?_, rfl, congrArg some same⟩
    rw [read_eq_readDirect hw (by decide)]
    exact reads

end WireValue

namespace HostValue

variable {ctx : ConversionContext} {v : HostValue} {a : Atom} {q : ℚ}

theorem number?_toWire (v : HostValue) : v.toWire.number? = v.number? := by
  cases v with
  | byte n => simp [toWire, WireValue.number?, number?, integer?]
  | short n => simp [toWire, WireValue.number?, number?, integer?]
  | _ => rfl

theorem wireAs_number (hs : ctx.scale = none) (hv : v.number? = some q) (ha : a.isExact = true) :
    ∃ w, v.wireAs ctx a = .ok w ∧ w.atom? = some a ∧ w.number? = some (a.cut q) := by
  have number : v.toWire.number? = some q := v.number?_toWire.trans hv
  rw [wireAs]
  split
  next asIs =>
    refine ⟨v.toWire, rfl, asIs, ?_⟩
    rw [Atom.cut_of_has ⟨v.toWire, asIs, number⟩]
    exact number
  next =>
    obtain ⟨back, reads, atom, cut⟩ := WireValue.read_number hs number ha
    exact ⟨back.toWire, by rw [reads]; rfl, atom, cut⟩

/-- An integer or a decimal that is bound under an exact numeric type is cut to that type, whose own
numbers are left as they are and are the only ones. -/
theorem encode_number (name : String) (hs : ctx.scale = none) (hv : v.number? = some q)
    (ha : a.isExact = true) :
    ∃ w, v.encode ctx name (some a) = .ok ⟨name, a, w⟩ ∧ w.atom? = some a ∧
      w.number? = some (a.cut q) ∧ (a.cut q = q ↔ a.Has q) := by
  obtain ⟨w, encodes, atom, number⟩ := wireAs_number hs hv ha
  have bindable : a.isLargeObject = false := by
    cases a <;> cases ha <;> rfl
  have present : v ≠ .null := by
    rintro rfl
    cases hv
  refine ⟨w, ?_, atom, number, fun same => ⟨w, atom, same ▸ number⟩, Atom.cut_of_has⟩
  simp only [encode, Option.some_or, bindable, Bool.false_eq_true, if_false, present, encodes]
  rfl

def wide : HostValue :=
  .long 3000000000

theorem encode_number_wide :
    wide.number? = some 3000000000 ∧ ¬Atom.int4.Has 3000000000 ∧
      ∃ w, wide.encode default "p1" (some .int4) = .ok ⟨"p1", .int4, w⟩ ∧
        w.number? = some (-1294967296) := by
  have number : wide.number? = some 3000000000 := by decide
  have cut : Atom.int4.cut 3000000000 = -1294967296 := by decide
  obtain ⟨w, encodes, -, denotes, kept⟩ :=
    @encode_number default wide .int4 3000000000 "p1" rfl number rfl
  refine ⟨number, fun has => ?_, w, encodes, cut ▸ denotes⟩
  exact absurd (cut.symm.trans (kept.mpr has)) (by decide)

theorem encode_number_altered :
    ¬∀ (ctx : ConversionContext) (name : String) (v : HostValue) (q : ℚ) (a : Atom),
      ctx.scale = none → v.number? = some q → a.isExact = true →
        (∃ e, v.encode ctx name (some a) = .error e ∧ e.isConversion = true) ∨
          ∃ p, v.encode ctx name (some a) = .ok p ∧ p.value.number? = some q := by
  intro kept
  have encodes : wide.encode default "p1" (some .int4) =
      .ok ⟨"p1", .int4, .int4 (-1294967296)⟩ := by decide
  rcases kept default "p1" wide 3000000000 .int4 rfl (by decide) rfl with ⟨e, fails, -⟩ | ⟨p, ok, same⟩
  · cases encodes.symm.trans fails
  · cases encodes.symm.trans ok
    exact absurd same (by decide)

end HostValue

end SqlClient
