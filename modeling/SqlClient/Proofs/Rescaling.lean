import Mathlib.Algebra.Order.Round
import Mathlib.Data.Rat.Floor
import Mathlib.Data.Sign.Basic
import Mathlib.Tactic.FieldSimp
import Mathlib.Tactic.Linarith
import SqlClient.Proofs.DeclaredNumbers

namespace SqlClient

attribute [local instance (high)] instPowNat

def nearestAway (places : ℕ) (q : ℚ) : ℚ :=
  SignType.sign q * round (|q| * 10 ^ places) / 10 ^ places

def FitsScale (scale : ℕ) (q : ℚ) : Prop :=
  ∃ n : ℤ, q * 10 ^ scale = n ∧ n.natAbs < 2 ^ (96 : ℕ)

theorem round_natCast_div (m : ℕ) {u : ℕ} (hu : 0 < u) :
    round ((m : ℚ) / u) = (m / u + if u ≤ 2 * (m % u) then 1 else 0 : ℕ) := by
  have half : (m : ℚ) / u + 1 / 2 = ((2 * m + u : ℕ) : ℚ) / (2 * u : ℕ) := by
    push_cast
    field_simp
  rw [round_eq, half, Rat.floor_natCast_div_natCast]
  norm_cast
  have whole : u * (m / u) + m % u = m := Nat.div_add_mod m u
  have part : m % u < u := Nat.mod_lt m hu
  have units (c : ℕ) : (m / u + c) * (2 * u) = 2 * (u * (m / u)) + c * (2 * u) := by ring
  rw [Nat.div_eq_iff (by omega), units]
  split_ifs with h
  · constructor <;> omega
  · constructor <;> omega

theorem fitsScale_iff_abs {s : ℕ} {q : ℚ} :
    FitsScale s q ↔ ∃ n : ℕ, |q| * 10 ^ s = n ∧ n < 2 ^ (96 : ℕ) := by
  have pos : (0 : ℚ) < 10 ^ s := by positivity
  constructor
  · rintro ⟨n, same, below⟩
    refine ⟨n.natAbs, ?_, below⟩
    rw [Nat.cast_natAbs, Int.cast_abs, ← same, abs_mul, abs_of_pos pos]
  · rintro ⟨n, same, below⟩
    rcases abs_choice q with sign | sign
    · exact ⟨n, by rw [← sign]; exact_mod_cast same, by simpa using below⟩
    · exact ⟨-n, by push_cast; rw [← same, sign]; ring, by simpa using below⟩

namespace Decimal

variable {d : Decimal} {s : ℕ}

def sgn (d : Decimal) : ℤ :=
  if d.negative then -1 else 1

theorem signed_eq (d : Decimal) : d.signed = d.sgn * d.mantissa := by
  unfold signed sgn
  split <;> simp

theorem abs_sgn (d : Decimal) : |(d.sgn : ℚ)| = 1 := by
  unfold sgn
  split <;> simp

theorem toRat_eq (d : Decimal) : d.toRat = d.sgn * d.mantissa / 10 ^ d.scale := by
  rw [toRat, signed_eq]
  push_cast
  rfl

theorem abs_toRat (d : Decimal) : |d.toRat| = d.mantissa / 10 ^ d.scale := by
  have pos : (0 : ℚ) < 10 ^ d.scale := by positivity
  rw [toRat_eq, abs_div, abs_mul, abs_sgn, one_mul, abs_of_pos pos, Nat.abs_cast]

theorem toRat_eq_zero_iff : d.toRat = 0 ↔ d.mantissa = 0 := by
  rw [← abs_eq_zero, abs_toRat, div_eq_zero_iff]
  simp

theorem sign_toRat (h : d.mantissa ≠ 0) : (SignType.sign d.toRat : ℚ) = d.sgn := by
  have size : 0 < (d.mantissa : ℚ) / 10 ^ d.scale := by
    have := Nat.pos_of_ne_zero h
    positivity
  rw [toRat_eq, mul_div_assoc, sgn]
  split
  next => rw [sign_neg (by push_cast; linarith)]; rfl
  next => rw [sign_pos (by push_cast; linarith)]; rfl

theorem sameNumber_iff {a b : Decimal} : SameNumber a b ↔ a.toRat = b.toRat := by
  have pos (k : ℕ) : (10 : ℚ) ^ k ≠ 0 := pow_ne_zero k (by norm_num)
  rw [toRat, toRat, div_eq_div_iff (pos _) (pos _), SameNumber]
  norm_cast

theorem fitsScale_of_le (h : d.scale ≤ s) :
    FitsScale s d.toRat ↔ d.mantissa * 10 ^ (s - d.scale) < 2 ^ (96 : ℕ) := by
  have lifted : |d.toRat| * 10 ^ s = (d.mantissa * 10 ^ (s - d.scale) : ℕ) := by
    rw [abs_toRat, ← pow_sub_mul_pow (10 : ℚ) h]
    push_cast
    field_simp
  rw [fitsScale_iff_abs, lifted]
  constructor
  · rintro ⟨n, same, below⟩
    exact Nat.cast_injective same ▸ below
  · exact fun below => ⟨_, rfl, below⟩

theorem abs_toRat_mul (h : s < d.scale) :
    |d.toRat| * 10 ^ s = d.mantissa / (10 ^ (d.scale - s) : ℕ) := by
  rw [abs_toRat, ← pow_sub_mul_pow (10 : ℚ) h.le]
  push_cast
  field_simp

theorem fitsScale_of_lt (h : s < d.scale) :
    FitsScale s d.toRat ↔ 10 ^ (d.scale - s) ∣ d.mantissa := by
  have pos : (10 ^ (d.scale - s) : ℕ) ≠ 0 := (Nat.pow_pos (by decide)).ne'
  rw [fitsScale_iff_abs, abs_toRat_mul h]
  constructor
  · rintro ⟨n, same, -⟩
    rw [div_eq_iff (Nat.cast_ne_zero.mpr pos)] at same
    exact ⟨n, by rw [mul_comm]; exact_mod_cast same⟩
  · rintro ⟨n, same⟩
    have below : n ≤ d.mantissa := by
      rw [same]
      exact Nat.le_mul_of_pos_left _ (Nat.pos_of_ne_zero pos)
    refine ⟨n, ?_, below.trans_lt d.mantissa_lt⟩
    rw [same, Nat.cast_mul, mul_div_cancel_left₀ _ (Nat.cast_ne_zero.mpr pos)]

theorem toRat_of_kept {e : Decimal}
    (h : e.negative = (d.negative && (e.mantissa != 0 || d.mantissa == 0))) :
    e.toRat = d.sgn * e.mantissa / 10 ^ e.scale := by
  -- A mantissa that becomes zero may lose its sign, which changes no number.
  by_cases none : e.mantissa = 0
  · simp [toRat_eq, none]
  · have same : e.negative = d.negative := by rw [h, bne_iff_ne.mpr none, Bool.true_or, Bool.and_true]
    rw [toRat_eq, sgn, sgn, same]

theorem sameNumber_truncateTo_iff (h : s < d.scale) :
    SameNumber (d.truncateTo s) d ↔ FitsScale s d.toRat := by
  rw [sameNumber_iff]
  constructor
  · intro same
    have mantissa : |(d.truncateTo s).toRat| * 10 ^ s = (d.truncateTo s).mantissa := by
      rw [abs_toRat]
      exact div_mul_cancel₀ _ (by positivity)
    exact fitsScale_iff_abs.mpr ⟨_, same ▸ mantissa, (d.truncateTo s).mantissa_lt⟩
  · intro fits
    obtain ⟨n, factor⟩ := (fitsScale_of_lt h).mp fits
    have pos : 0 < 10 ^ (d.scale - s) := Nat.pow_pos (by decide)
    have kept : (d.truncateTo s).mantissa = n := Nat.div_eq_of_eq_mul_right pos factor
    calc (d.truncateTo s).toRat = d.sgn * n / 10 ^ s := kept ▸ toRat_of_kept rfl
      _ = d.sgn * (10 ^ (d.scale - s) * n : ℕ) / 10 ^ d.scale := by
        rw [← pow_sub_mul_pow (10 : ℚ) h.le]
        push_cast
        field_simp
      _ = d.toRat := by rw [← factor, toRat_eq]

theorem toRat_roundTo (h : s < d.scale) : (d.roundTo s h).toRat = nearestAway s d.toRat := by
  have pos : 0 < 10 ^ (d.scale - s) := Nat.pow_pos (by decide)
  have mantissa : round (|d.toRat| * 10 ^ s) = (d.roundTo s h).mantissa := by
    rw [abs_toRat_mul h, round_natCast_div _ pos]
    rfl
  have kept : (d.roundTo s h).toRat = d.sgn * (d.roundTo s h).mantissa / 10 ^ s := toRat_of_kept rfl
  rw [kept, nearestAway, mantissa, Int.cast_natCast]
  by_cases zero : d.mantissa = 0
  · have none : (d.roundTo s h).mantissa = 0 := by simp [roundTo, zero]
    simp [none]
  · rw [sign_toRat zero]

theorem toRat_widen (count : ℕ) (d : Decimal) : (d.widen count).toRat = d.toRat := by
  induction count generalizing d with
  | zero => rfl
  | succ count ih =>
    unfold widen
    split
    next room =>
      rw [ih, toRat_eq, toRat_eq]
      simp only [sgn]
      push_cast
      rw [pow_succ]
      field_simp
    next => rfl

theorem scale_widen_iff (count : ℕ) (d : Decimal) :
    (d.widen count).scale = d.scale + count ↔ d.mantissa * 10 ^ count < 2 ^ (96 : ℕ) := by
  induction count generalizing d with
  | zero => simpa [widen] using d.mantissa_lt
  | succ count ih =>
    have step : d.mantissa * 10 ^ (count + 1) = d.mantissa * 10 * 10 ^ count := by
      rw [Nat.pow_succ, Nat.mul_comm (10 ^ count), Nat.mul_assoc]
    unfold widen
    split
    next room =>
      rw [step, ← ih ⟨d.negative, d.mantissa * 10, d.scale + 1, room⟩, Nat.add_assoc, Nat.add_comm 1]
    next full =>
      -- A zero that has no room leaves none for those after it.
      have beyond : d.mantissa * 10 ≤ d.mantissa * 10 * 10 ^ count :=
        Nat.le_mul_of_pos_right _ (Nat.pow_pos (by decide))
      omega

theorem toRat_raiseScale (d : Decimal) (s : ℕ) : (d.raiseScale s).toRat = d.toRat := by
  unfold raiseScale
  split
  next => rfl
  next =>
    split
    next none => rw [toRat_eq_zero_iff.mpr none, toRat_eq_zero_iff]; rfl
    next => exact toRat_widen _ d

theorem scale_raiseScale_iff (h : d.scale ≤ s) (hd : d.scale ≤ maxScale) :
    (d.raiseScale s).scale = s ↔ FitsScale s d.toRat ∧ (d.toRat = 0 → s ≤ maxScale) := by
  rw [fitsScale_of_le h, toRat_eq_zero_iff, raiseScale]
  split
  next same =>
    subst same
    simp [hd, d.mantissa_lt]
  next =>
    split
    next none => simp [none, zero]
    next some =>
      have reached := d.scale_widen_iff (s - d.scale)
      rw [Nat.add_sub_cancel' h] at reached
      simp only [reached, some, false_implies, and_true]

theorem raiseScale_own (h : d.scale = s) : d.raiseScale s = d := by
  rw [raiseScale, if_pos h]

theorem withScale_reject (h : s < d.scale) : d.withScale s .reject =
    if SameNumber (d.truncateTo s) d then .ok (d.truncateTo s) else .error .needsRounding := by
  rw [withScale, dif_pos h, lowerScale]
  split
  next same =>
    have own : (d.truncateTo s).raiseScale s = d.truncateTo s := raiseScale_own rfl
    simp only [Except.bind, bind, own]
    exact if_pos rfl
  next => rfl

theorem withScale_halfUp (h : s < d.scale) : d.withScale s .halfUp = .ok (d.roundTo s h) := by
  have own : (d.roundTo s h).raiseScale s = d.roundTo s h := raiseScale_own rfl
  rw [withScale, dif_pos h, lowerScale]
  simp only [Except.bind, bind, own]
  exact if_pos rfl

theorem withScale_of_le (h : d.scale ≤ s) (rounding : Rounding) : d.withScale s rounding =
    if (d.raiseScale s).scale = s then .ok (d.raiseScale s) else .error .unreachable := by
  rw [withScale, dif_neg (Nat.not_lt_of_le h)]
  rfl

theorem exists_withScale_reject_iff (hd : d.scale ≤ maxScale) :
    (∃ r, d.withScale s .reject = .ok r) ↔
      FitsScale s d.toRat ∧ (d.toRat = 0 → s ≤ maxScale) := by
  by_cases h : s < d.scale
  · have small : s ≤ maxScale := by omega
    rw [withScale_reject h, ← sameNumber_truncateTo_iff h]
    split
    next same => simp [same, small]
    next other => simp [other]
  · have h : d.scale ≤ s := by omega
    rw [withScale_of_le h, ← scale_raiseScale_iff h hd]
    split
    next reached => simp [reached]
    next short => simp [short]

theorem toRat_of_withScale_reject {r : Decimal} (hr : d.withScale s .reject = .ok r) :
    r.toRat = d.toRat ∧ r.scale = s := by
  by_cases h : s < d.scale
  · rw [withScale_reject h] at hr
    split at hr
    next same =>
      cases hr
      exact ⟨sameNumber_iff.mp same, rfl⟩
    next => cases hr
  · rw [withScale_of_le (by omega)] at hr
    split at hr
    next reached =>
      cases hr
      exact ⟨d.toRat_raiseScale s, reached⟩
    next => cases hr

theorem scale_of_withScale {r : Decimal} {rounding : Rounding}
    (hr : d.withScale s rounding = .ok r) : r.scale = s := by
  by_cases h : s < d.scale
  · cases rounding with
    | reject => exact (toRat_of_withScale_reject hr).2
    | halfUp =>
      rw [withScale_halfUp h] at hr
      cases hr
      rfl
  · rw [withScale_of_le (by omega)] at hr
    split at hr
    next reached =>
      cases hr
      exact reached
    next => cases hr

theorem withScale_eq_self_iff {rounding : Rounding} : d.withScale s rounding = .ok d ↔ d.scale = s := by
  refine ⟨scale_of_withScale, fun own => ?_⟩
  rw [withScale_of_le own.le, raiseScale_own own, if_pos own]

end Decimal

def ConversionContext.rejecting (ctx : ConversionContext) : ConversionContext :=
  { ctx with settings := { ctx.settings with rounding := .reject } }

variable {ctx : ConversionContext} {d : Decimal} {s : ℕ}

theorem atScale_ok_iff (hs : ctx.scale = some s) {r : Decimal} :
    atScale ctx d = .ok r ↔ d.withScale s ctx.settings.rounding = .ok r := by
  simp only [atScale, hs]
  cases d.withScale s ctx.settings.rounding <;> simp

theorem atScale_eq_self_iff :
    atScale ctx d = .ok d ↔ ∀ s, ctx.scale = some s → d.scale = s := by
  cases hs : ctx.scale with
  | none => simp [atScale_unscaled hs]
  | some s =>
    rw [atScale_ok_iff hs, Decimal.withScale_eq_self_iff]
    simp

theorem atScale_error {e : Error} (h : atScale ctx d = .error e) :
    ∃ fault, e = .outOfRange .decimal fault := by
  unfold atScale at h
  split at h
  next => cases h
  next =>
    split at h
    next => cases h
    next =>
      cases h
      exact ⟨_, rfl⟩

theorem atScale_rejecting (hs : ctx.scale = some s) (h : d.scale ≤ s) :
    atScale ctx d = atScale ctx.rejecting d := by
  have same : ctx.rejecting.scale = some s := hs
  simp only [atScale, hs, same, Decimal.withScale_of_le h]

/-- Without rounding a decimal is brought to each scale that its number fits, as the number that it is, but
a zero to the largest scale at most. With rounding every smaller scale is reached, at the nearest number,
and the others as without. -/
theorem atScale_exact (ctx : ConversionContext) (d : Decimal) (s : ℕ) (hs : ctx.scale = some s)
    (hd : d.scale ≤ Decimal.maxScale) :
    (ctx.settings.rounding = .reject →
      ((∃ r, atScale ctx d = .ok r) ↔ FitsScale s d.toRat ∧ (d.toRat = 0 → s ≤ Decimal.maxScale)) ∧
      ∀ r, atScale ctx d = .ok r → r.toRat = d.toRat ∧ r.scale = s) ∧
    (ctx.settings.rounding = .halfUp →
      (s < d.scale → ∃ r, atScale ctx d = .ok r ∧ r.toRat = nearestAway s d.toRat ∧ r.scale = s) ∧
      (d.scale ≤ s → atScale ctx d = atScale ctx.rejecting d)) ∧
    ∀ e, atScale ctx d = .error e → ∃ fault, e = .outOfRange .decimal fault := by
  refine ⟨fun reject => ?_, fun halfUp => ⟨fun h => ?_, atScale_rejecting hs⟩, fun e => atScale_error⟩
  · simp only [atScale_ok_iff hs, reject]
    exact ⟨Decimal.exists_withScale_reject_iff hd, fun r => Decimal.toRat_of_withScale_reject⟩
  · refine ⟨d.roundTo s h, ?_, Decimal.toRat_roundTo h, rfl⟩
    rw [atScale_ok_iff hs, halfUp, Decimal.withScale_halfUp h]

def oneRoundedDigit : ConversionContext :=
  { (default : ConversionContext) with
    settings := { (default : ConversionSettings) with rounding := .halfUp }
    scale := some 1 }

def overdraft : Decimal :=
  ⟨true, 12345, 2, by decide⟩

theorem atScale_exact_overdraft :
    oneRoundedDigit.scale = some 1 ∧ overdraft.scale ≤ Decimal.maxScale ∧
      ∃ r, atScale oneRoundedDigit overdraft = .ok r ∧ r.toRat = -247 / 2 ∧ r.scale = 1 := by
  have small : overdraft.scale ≤ Decimal.maxScale := by decide
  obtain ⟨r, reads, number, scale⟩ :=
    ((atScale_exact oneRoundedDigit overdraft 1 rfl small).2.1 rfl).1 (by decide)
  have nearest : nearestAway 1 overdraft.toRat = -247 / 2 := by decide +kernel
  exact ⟨rfl, small, r, reads, number.trans nearest, scale⟩

def leastDecimal : Decimal :=
  ⟨false, 1, 28, by decide⟩

theorem atScale_beyond_maxScale :
    ¬∀ (ctx : ConversionContext) (d : Decimal) (s : ℕ), ctx.scale = some s →
      d.scale ≤ Decimal.maxScale → ctx.settings.rounding = .reject →
        ((∃ r, atScale ctx d = .ok r) ↔ s ≤ Decimal.maxScale ∧ FitsScale s d.toRat) := by
  intro within
  let ctx : ConversionContext := { (default : ConversionContext) with scale := some 29 }
  have reads : ∃ r, atScale ctx leastDecimal = .ok r := ⟨_, rfl⟩
  exact absurd ((within ctx leastDecimal 29 rfl (by decide) rfl).mp reads).1 (by decide)

end SqlClient
