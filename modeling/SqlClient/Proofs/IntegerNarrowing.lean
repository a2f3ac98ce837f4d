import Mathlib.Data.Int.ModEq
import Mathlib.Tactic.FieldSimp
import Mathlib.Tactic.Ring
import SqlClient.Proofs.DeclaredNumbers
import SqlClient.Proofs.IntegerLiterals

namespace SqlClient

attribute [local instance (high)] instPowNat

namespace Binary.Format

variable {f : Format} {bits : ℕ}

def bias (f : Format) : ℕ :=
  2 ^ (f.exponentBits - 1) - 1

def IsFinite (f : Format) (bits : ℕ) : Prop :=
  f.exponentField bits ≠ 2 ^ f.exponentBits - 1

def IsInfinite (f : Format) (bits : ℕ) : Prop :=
  f.exponentField bits = 2 ^ f.exponentBits - 1 ∧ f.fractionField bits = 0

def IsNaN (f : Format) (bits : ℕ) : Prop :=
  f.exponentField bits = 2 ^ f.exponentBits - 1 ∧ f.fractionField bits ≠ 0

def toRat (f : Format) (bits : ℕ) : ℚ :=
  let sign : ℚ := if f.signBit ≤ bits then -1 else 1
  let fraction : ℚ := f.fractionField bits / 2 ^ f.fractionBits
  if f.exponentField bits = 0 then sign * (fraction * 2 ^ (1 - f.bias : ℤ))
  else sign * ((1 + fraction) * 2 ^ (f.exponentField bits - f.bias : ℤ))

theorem toRat_eq (f : Format) (h : 2 ≤ f.exponentBits) (bits : ℕ) : f.toRat bits =
    (if f.signBit ≤ bits then -1 else 1) * ((f.magnitude bits : ℚ) / f.unit) := by
  have wide : 2 ^ 1 ≤ 2 ^ (f.exponentBits - 1) := Nat.pow_le_pow_right (by decide) (by omega)
  obtain ⟨b, hb⟩ : ∃ b, f.bias = b + 1 := ⟨f.bias - 1, by unfold bias; omega⟩
  have unit : f.unit = 2 ^ b * 2 ^ f.fractionBits := by
    have quantum : f.quantum = b + f.fractionBits := by
      unfold bias at hb
      unfold quantum
      omega
    rw [Format.unit, quantum, Nat.pow_add]
  unfold toRat magnitude
  dsimp only
  rw [unit, hb]
  split
  next subnormal =>
    have exponent : (1 - (b + 1 : ℕ) : ℤ) = -(b : ℤ) := by push_cast; ring
    rw [exponent, zpow_neg, zpow_natCast]
    push_cast
    field_simp
  next normal =>
    obtain ⟨e, he⟩ := Nat.exists_eq_succ_of_ne_zero normal
    have exponent : (f.exponentField bits - (b + 1 : ℕ) : ℤ) = e - b := by rw [he]; push_cast; ring
    rw [exponent, zpow_sub₀ two_ne_zero, zpow_natCast, zpow_natCast, he, Nat.succ_sub_one]
    push_cast
    field_simp

/-- The integer that a pattern comes to at a width: its integer part where the width has it and else the
bound on that side, and zero where it is no number. -/
structure Saturates (f : Format) (bits : ℕ) (w : Width) (n : ℤ) : Prop where
  finite : f.IsFinite bits → n = max w.low (min w.high (integerPart (f.toRat bits)))
  infinite : f.IsInfinite bits → n = if f.signBit ≤ bits then w.low else w.high
  nan : f.IsNaN bits → n = 0

theorem integerPart_ratio (m u : ℕ) (hu : 0 < u) : integerPart ((m : ℚ) / u) = (m / u : ℕ) := by
  have cut := integerPart_div (m : ℤ) (Int.natCast_pos.mpr hu)
  push_cast at cut
  rw [cut, ← Int.ofNat_tdiv]

theorem integerPart_neg (q : ℚ) : integerPart (-q) = -integerPart q := by
  rw [integerPart, integerPart, Rat.neg_num, Rat.neg_den, Int.neg_tdiv]

theorem unit_pos (f : Format) : 0 < f.unit :=
  Nat.pow_pos (by decide)

theorem saturates_truncate (h : 2 ≤ f.exponentBits) (bits : ℕ) (w : Width) :
    f.Saturates bits w ((f.decode bits).truncate f w.low w.high) := by
  refine ⟨fun finite => ?_, fun ⟨top, blank⟩ => ?_, fun ⟨top, payload⟩ => ?_⟩
  · unfold IsFinite at finite
    have part := integerPart_ratio (f.magnitude bits) f.unit f.unit_pos
    simp only [decode, if_neg finite, Value.truncate, decide_eq_true_eq, f.toRat_eq h]
    by_cases negative : f.signBit ≤ bits
    · simp only [if_pos negative, neg_one_mul, integerPart_neg, part]
    · simp only [if_neg negative, one_mul, part]
  · simp only [decode, top, blank, if_true, Value.truncate, decide_eq_true_eq]
  · simp only [decode, top, payload, if_true, if_false, Value.truncate]

end Binary.Format

namespace Width

variable {w : Width} {n m : ℤ}

theorem integer?_wrap (w : Width) (n : ℤ) : (w.wrap n).integer? = some (n.bmod (2 ^ w.bits)) := by
  cases w with
  | byte => exact congrArg some Int8.toInt_ofInt
  | short => exact congrArg some Int16.toInt_ofInt
  | int => exact congrArg some Int32.toInt_ofInt
  | long => exact congrArg some Int64.toInt_ofInt

theorem has_iff : w.Has m ↔ -(((2 ^ w.bits : ℕ) / 2 : ℕ) : ℤ) ≤ m ∧ m < ((2 ^ w.bits : ℕ) + 1) / 2 := by
  cases w <;> exact and_congr_right fun _ => Int.le_sub_one_iff

theorem has_modEq_iff : w.Has m ∧ m ≡ n [ZMOD (2 ^ w.bits : ℕ)] ↔ m = n.bmod (2 ^ w.bits) := by
  have pos : 0 < 2 ^ w.bits := Nat.pow_pos (by decide)
  rw [has_iff]
  constructor
  · rintro ⟨⟨low, high⟩, same⟩
    calc m = m.bmod (2 ^ w.bits) := (Int.bmod_eq_of_le low high).symm
      _ = n.bmod (2 ^ w.bits) := by rw [← Int.emod_bmod, same, Int.emod_bmod]
  · rintro rfl
    exact ⟨⟨Int.le_bmod pos, Int.bmod_lt pos⟩, Int.bmod_emod⟩

theorem setWidth_ofInt {k l : ℕ} (h : k ≤ l) (n : ℤ) :
    (BitVec.ofInt l n).setWidth k = BitVec.ofInt k n := by
  have divides : ((2 ^ k : ℕ) : ℤ) ∣ (2 ^ l : ℕ) := Int.natCast_dvd_natCast.mpr (Nat.pow_dvd_pow 2 h)
  have some : ((2 ^ l : ℕ) : ℤ) ≠ 0 := Int.natCast_ne_zero.mpr (Nat.pow_pos (by decide)).ne'
  have residue : 0 ≤ n % (2 ^ l : ℕ) := Int.emod_nonneg n some
  apply BitVec.eq_of_toNat_eq
  rw [BitVec.toNat_setWidth, BitVec.toNat_ofInt, BitVec.toNat_ofInt, ← Int.emod_emod_of_dvd n divides,
    Int.toNat_emod residue (Int.natCast_nonneg _), Int.toNat_natCast]

theorem has_truncate (w : Width) (f : Binary.Format) (x : Binary.Value) :
    w.Has (x.truncate f w.low w.high) := by
  have zero := w.has_zero
  have order : w.low ≤ w.high := zero.1.trans zero.2
  cases x with
  | nan => exact zero
  | infinite negative =>
    cases negative with
    | false => exact ⟨order, le_refl _⟩
    | true => exact ⟨le_refl _, order⟩
  | finite negative magnitude =>
    exact ⟨le_max_left _ _, max_le order (min_le_left _ _)⟩

end Width

namespace WireValue

variable {ctx : ConversionContext} {v : WireValue} {w : Width} {n : ℤ} {q : ℚ}

def exactNumber? : WireValue → Option ℚ
  | boolean b => some b.toInt
  | v => v.number?

def pattern? : WireValue → Option (Binary.Format × ℕ)
  | float4 x => some (Binary.single, x.bits.toNat)
  | float8 x => some (Binary.double, x.bits.toNat)
  | _ => none

def ReadsInteger (ctx : ConversionContext) (v : WireValue) (w : Width) (n : ℤ) : Prop :=
  ∃ host, v.read ctx w.target = .ok host ∧ host.kind? = some w.target ∧ host.integer? = some n

theorem read_eq_toInteger (ctx : ConversionContext) {a : Atom} (ha : v.atom? = some a) (w : Width) :
    v.read ctx w.target = v.toInteger w := by
  have own : w.target ≠ .object := by cases w <;> decide
  rw [read_of_atom ha, ConversionContext.resolve, if_neg own]
  cases w <;> rfl

theorem exists_atom_of_exactNumber (hq : v.exactNumber? = some q) : ∃ a, v.atom? = some a := by
  cases v <;> cases hq <;> exact ⟨_, rfl⟩

theorem exists_atom_of_pattern {p : Binary.Format × ℕ} (hp : v.pattern? = some p) :
    ∃ a, v.atom? = some a := by
  cases v <;> cases hp <;> exact ⟨_, rfl⟩

theorem toInteger_exactNumber (hq : v.exactNumber? = some q) (w : Width) :
    v.toInteger w = .ok (w.wrap (integerPart q)) := by
  cases v with
  | boolean b =>
    cases hq
    rw [integerPart_intCast, toInteger]
  | _ => exact toInteger_number w hq

theorem toInteger_pattern {f : Binary.Format} {bits : ℕ} (hp : v.pattern? = some (f, bits)) (w : Width) :
    2 ≤ f.exponentBits ∧ v.toInteger w = .ok (w.wrap (w.ofFloat f (f.decode bits))) := by
  cases v <;> cases hp <;> exact ⟨by decide, rfl⟩

theorem exists_toInteger (h : v.exactNumber?.isSome ∨ v.pattern?.isSome) :
    ∃ a n, v.atom? = some a ∧ v.toInteger .byte = .ok (.byte (Int8.ofInt n)) ∧
      v.toInteger .short = .ok (.short (Int16.ofInt n)) ∧
      v.toInteger .int = .ok (.int (Int32.ofInt n)) := by
  rcases h with number | pattern
  · obtain ⟨q, hq⟩ := Option.isSome_iff_exists.mp number
    obtain ⟨a, ha⟩ := exists_atom_of_exactNumber hq
    exact ⟨a, integerPart q, ha, toInteger_exactNumber hq .byte, toInteger_exactNumber hq .short,
      toInteger_exactNumber hq .int⟩
  · obtain ⟨⟨f, bits⟩, hp⟩ := Option.isSome_iff_exists.mp pattern
    obtain ⟨a, ha⟩ := exists_atom_of_pattern hp
    exact ⟨a, Width.int.ofFloat f (f.decode bits), ha, (toInteger_pattern hp .byte).2,
      (toInteger_pattern hp .short).2, (toInteger_pattern hp .int).2⟩

theorem readsInteger_iff (ha : ∃ a, v.atom? = some a) (reads : v.toInteger w = .ok (w.wrap n)) (m : ℤ) :
    v.ReadsInteger ctx w m ↔ m = n.bmod (2 ^ w.bits) := by
  obtain ⟨a, ha⟩ := ha
  rw [ReadsInteger, read_eq_toInteger ctx ha, reads]
  constructor
  · rintro ⟨host, same, -, number⟩
    obtain rfl := Except.ok.inj same
    exact Option.some.inj (number.symm.trans (w.integer?_wrap n))
  · rintro rfl
    exact ⟨_, rfl, by cases w <;> rfl, w.integer?_wrap n⟩

/-- A Boolean, an integer or a decimal is read at every width as the one integer there that agrees with its
integer part in the low bits. What a number is read as at the two small widths are the low bits of its
reading as `int`. A float that is read as `int` or as `long` is held inside the range. -/
theorem read_integer_coherent (ctx : ConversionContext) (v : WireValue) :
    (∀ q, v.exactNumber? = some q → ∀ w : Width, ∃ n, v.ReadsInteger ctx w n ∧
      w.Has n ∧ n ≡ integerPart q [ZMOD (2 ^ w.bits : ℕ)] ∧
        ∀ m, w.Has m → m ≡ integerPart q [ZMOD (2 ^ w.bits : ℕ)] → m = n) ∧
    (v.exactNumber?.isSome ∨ v.pattern?.isSome → ∃ i b s,
      v.read ctx .int = .ok (.int i) ∧ v.read ctx .byte = .ok (.byte b) ∧
        v.read ctx .short = .ok (.short s) ∧
          b.toBitVec = i.toBitVec.setWidth 8 ∧ s.toBitVec = i.toBitVec.setWidth 16) ∧
    (∀ f bits, v.pattern? = some (f, bits) → ∀ w, w = .int ∨ w = .long →
      ∃ n, v.ReadsInteger ctx w n ∧ f.Saturates bits w n) := by
  refine ⟨fun q hq w => ?_, fun number => ?_, fun f bits hp w wide => ?_⟩
  · have reads := toInteger_exactNumber hq w
    refine ⟨_, (readsInteger_iff (exists_atom_of_exactNumber hq) reads _).mpr rfl, ?_⟩
    obtain ⟨has, same⟩ := (w.has_modEq_iff (n := integerPart q)).mpr rfl
    exact ⟨has, same, fun m has same => w.has_modEq_iff.mp ⟨has, same⟩⟩
  · obtain ⟨a, n, ha, byte, short, int⟩ := exists_toInteger number
    refine ⟨Int32.ofInt n, Int8.ofInt n, Int16.ofInt n, ?_, ?_, ?_, ?_, ?_⟩
    · exact (read_eq_toInteger ctx ha .int).trans int
    · exact (read_eq_toInteger ctx ha .byte).trans byte
    · exact (read_eq_toInteger ctx ha .short).trans short
    · exact (Width.setWidth_ofInt (by decide) n).symm
    · exact (Width.setWidth_ofInt (by decide) n).symm
  · obtain ⟨format, reads⟩ := toInteger_pattern hp w
    have cut : w.ofFloat f (f.decode bits) = (f.decode bits).truncate f w.low w.high := by
      rcases wide with rfl | rfl <;> rfl
    rw [cut] at reads
    have own : (f.decode bits).truncate f w.low w.high =
        ((f.decode bits).truncate f w.low w.high).bmod (2 ^ w.bits) :=
      w.has_modEq_iff.mp ⟨w.has_truncate f _, rfl⟩
    exact ⟨_, (readsInteger_iff (exists_atom_of_pattern hp) reads _).mpr own,
      f.saturates_truncate format bits w⟩

def lowestDecimal : Decimal :=
  ⟨true, 79228162514264337593543950335, 0, by decide⟩

theorem read_integer_coherent_extremes :
    (decimal lowestDecimal).ReadsInteger default .byte 1 ∧
      (float8 ⟨0xFFF0000000000000⟩).ReadsInteger default .long (-9223372036854775808) ∧
        ∃ b, (float4 ⟨0x7F7FFFFF⟩).read default .byte = .ok (.byte b) ∧ b = -1 := by
  refine ⟨?_, ?_, ?_⟩
  · obtain ⟨n, reads, -, -, unique⟩ :=
      (read_integer_coherent default (decimal lowestDecimal)).1 _ rfl .byte
    have part : integerPart lowestDecimal.toRat = -79228162514264337593543950335 :=
      (integerPart_toRat lowestDecimal).trans (by decide)
    have one : 1 = n := unique 1 (by decide) (by rw [part]; decide)
    exact one ▸ reads
  · obtain ⟨n, reads, saturates⟩ :=
      (read_integer_coherent default (float8 ⟨0xFFF0000000000000⟩)).2.2 _ _ rfl .long (.inr rfl)
    have least : n = -9223372036854775808 := saturates.infinite ⟨by decide, by decide⟩
    exact least ▸ reads
  · obtain ⟨i, b, s, int, byte, -, low, -⟩ :=
      (read_integer_coherent default (float4 ⟨0x7F7FFFFF⟩)).2.1 (.inr rfl)
    have largest : (float4 ⟨0x7F7FFFFF⟩).read default .int = .ok (.int 2147483647) := by rfl
    cases largest.symm.trans int
    exact ⟨b, byte, Int8.toBitVec_inj.mp low⟩

end WireValue

end SqlClient
