import SqlClient.Text.Digits

namespace SqlClient

attribute [local instance (high)] instPowNat

structure Decimal where
  negative : Bool
  mantissa : Nat
  scale : Nat
  mantissa_lt : mantissa < 2 ^ (96 : Nat)
deriving DecidableEq, Repr

namespace Decimal

def maxScale : Nat := 28

def zero (negative : Bool) (scale : Nat) : Decimal :=
  ⟨negative, 0, scale, by decide⟩

instance : Inhabited Decimal := ⟨zero false 0⟩

def ofParts? (negative : Bool) (mantissa scale : Nat) : Option Decimal :=
  if h : mantissa < 2 ^ (96 : Nat) then some ⟨negative && mantissa != 0, mantissa, scale, h⟩
  else none

def ofInt64 (n : Int64) : Decimal where
  negative := n.toInt < 0
  mantissa := n.toInt.natAbs
  scale := 0
  mantissa_lt := by
    have hl := n.le_toInt
    have hu := n.toInt_lt
    omega

def signed (d : Decimal) : Int :=
  if d.negative then -d.mantissa else d.mantissa

def SameNumber (a b : Decimal) : Prop :=
  a.signed * 10 ^ b.scale = b.signed * 10 ^ a.scale

instance (a b : Decimal) : Decidable (SameNumber a b) :=
  inferInstanceAs (Decidable (_ = _))

theorem SameNumber.refl (a : Decimal) : SameNumber a a :=
  rfl

theorem SameNumber.symm {a b : Decimal} (h : SameNumber a b) : SameNumber b a :=
  Eq.symm h

def integral (d : Decimal) : Int :=
  d.signed.tdiv (10 ^ d.scale)

private theorem div_pow_lt {m k : Nat} (h : m < 2 ^ (96 : Nat)) : m / 10 ^ k < 2 ^ (96 : Nat) :=
  Nat.lt_of_le_of_lt (Nat.div_le_self ..) h

/-- Drops fraction digits beyond `places`, which is below the scale. A mantissa that becomes zero loses
its sign, a zero keeps it. -/
def truncateTo (d : Decimal) (places : Nat) : Decimal :=
  let kept := d.mantissa / 10 ^ (d.scale - places)
  { negative := d.negative && (kept != 0 || d.mantissa == 0)
    mantissa := kept
    scale := places
    mantissa_lt := div_pow_lt d.mantissa_lt }

private theorem rounded_lt {m k : Nat} (h : m < 2 ^ (96 : Nat)) (hk : 0 < k) :
    (m / 10 ^ k + if 10 ^ k ≤ 2 * (m % 10 ^ k) then 1 else 0) < 2 ^ (96 : Nat) := by
  have hp : 10 ≤ 10 ^ k := by
    calc 10 = 10 ^ 1 := rfl
      _ ≤ 10 ^ k := Nat.pow_le_pow_right (by decide) hk
  have hd : m / 10 ^ k ≤ m / 10 := Nat.div_le_div_left hp (by decide)
  split <;> omega

def roundTo (d : Decimal) (places : Nat) (h : places < d.scale) : Decimal :=
  let unit := 10 ^ (d.scale - places)
  let kept := d.mantissa / unit + if unit ≤ 2 * (d.mantissa % unit) then 1 else 0
  { negative := d.negative && (kept != 0 || d.mantissa == 0)
    mantissa := kept
    scale := places
    mantissa_lt := rounded_lt d.mantissa_lt (by omega) }

def widen : Nat → Decimal → Decimal
  | 0, d => d
  | count + 1, d =>
    if h : d.mantissa * 10 < 2 ^ (96 : Nat) then
      widen count ⟨d.negative, d.mantissa * 10, d.scale + 1, h⟩
    else d

def raiseScale (d : Decimal) (scale : Nat) : Decimal :=
  if d.scale = scale then d
  else if d.mantissa = 0 then zero d.negative (min scale maxScale)
  else d.widen (scale - d.scale)

inductive Rounding where
  | reject
  | halfUp
deriving DecidableEq, Repr, Inhabited

inductive ScaleFault where
  | needsRounding
  | unreachable
deriving DecidableEq, Repr

def lowerScale (d : Decimal) (scale : Nat) (h : scale < d.scale) :
    Rounding → Except ScaleFault Decimal
  | .reject =>
    let kept := d.truncateTo scale
    if SameNumber kept d then .ok kept else .error .needsRounding
  | .halfUp => .ok (d.roundTo scale h)

def withScale (d : Decimal) (scale : Nat) (rounding : Rounding) : Except ScaleFault Decimal := do
  let lowered ← if h : scale < d.scale then d.lowerScale scale h rounding else .ok d
  let raised := lowered.raiseScale scale
  if raised.scale = scale then .ok raised else .error .unreachable

def text (d : Decimal) : List Char :=
  let ds := Text.padLeft (d.scale + 1) (Text.digits d.mantissa)
  let whole := ds.take (ds.length - d.scale)
  let body := if d.scale = 0 then whole else whole ++ '.' :: ds.drop (ds.length - d.scale)
  if d.negative then '-' :: body else body

end Decimal

end SqlClient
