import SqlClient.Number.Binary
import SqlClient.Number.Decimal

/-!
Decimals and binary floats. From a float to a decimal the binary expansion is kept digit by digit as
far as a mantissa of 96 bits and 28 fraction digits hold it. From a decimal to a double the integer
part and the fraction are converted apart, and the sum is rounded to the decimal's own scale.
-/

namespace SqlClient.Decimal

open Binary

attribute [local instance (high)] instPowNat

structure Mixed where
  mantissa : Nat
  ten : Int

/-- Absorbs `five` factors of five: an even mantissa is halved and the power of ten grows, an odd one is
multiplied by five while that fits and otherwise loses its last bit. -/
def Mixed.absorbFifths : Nat → Mixed → Mixed
  | 0, x => x
  | five + 1, x =>
    if x.mantissa % 2 = 0 then absorbFifths five ⟨x.mantissa / 2, x.ten + 1⟩
    else if x.mantissa * 5 < 2 ^ (96 : Nat) then absorbFifths five ⟨x.mantissa * 5, x.ten⟩
    else absorbFifths five ⟨x.mantissa / 2, x.ten + 1⟩

/-- Divides by five `five` times: while there is room for a bit the mantissa is doubled and the power of
ten shrinks, after that the division cuts. -/
def Mixed.divideFives : Nat → Mixed → Option Mixed
  | 0, x => some x
  | five + 1, x =>
    if x.mantissa < 2 ^ (95 : Nat) then divideFives five ⟨x.mantissa * 2, x.ten - 1⟩
    else if ((five + 1 : Nat) : Int) < 2 * x.ten then none
    else divideFives five ⟨x.mantissa / 5, x.ten⟩

def Mixed.expand : Nat → Nat → Option Nat
  | 0, mantissa => some mantissa
  | ten + 1, mantissa =>
    if mantissa * 10 < 2 ^ (96 : Nat) then expand ten (mantissa * 10) else none

def Mixed.shorten : Nat → Nat → Nat × Nat
  | 0, mantissa => (mantissa, maxScale)
  | excess + 1, mantissa =>
    let kept := mantissa / 10
    if kept = 0 then (0, 0)
    else shorten excess (if 5 ≤ mantissa % 10 then kept + 1 else kept)

def Mixed.toDecimal? (negative : Bool) (x : Mixed) : Option Decimal :=
  if 0 < x.ten then do
    let mantissa ← Mixed.expand x.ten.toNat x.mantissa
    if h : mantissa < 2 ^ (96 : Nat) then some ⟨negative, mantissa, 0, h⟩ else none
  else
    let scale := (-x.ten).toNat
    let (mantissa, scale) :=
      if maxScale < scale then Mixed.shorten (scale - maxScale) x.mantissa else (x.mantissa, scale)
    if h : mantissa < 2 ^ (96 : Nat) then some ⟨negative, mantissa, scale, h⟩ else none

def ofPowerOfTwo? (negative : Bool) (significand : Nat) (exponent : Int) : Option Decimal := do
  let start : Mixed := ⟨significand, exponent⟩
  if exponent < 0 then (start.absorbFifths (-exponent).toNat).toDecimal? negative
  else (← start.divideFives exponent.toNat).toDecimal? negative

def ofBinary? (f : Format) (bits : Nat) : Option Decimal :=
  match f.decode bits with
  | .nan | .infinite _ => none
  | .finite negative 0 => some (zero negative 0)
  | .finite negative _ =>
    let field := f.exponentField bits
    let significand := f.fractionField bits + if field = 0 then 0 else 2 ^ f.fractionBits
    ofPowerOfTwo? negative significand ((max field 1 : Nat) - 1 - f.quantum)

def ofSingle? (x : Single) : Option Decimal :=
  ofBinary? single x.bits.toNat

def ofDouble? (x : Double) : Option Decimal :=
  ofBinary? double x.bits.toNat

def nearestUp (num den : Nat) : Nat :=
  (2 * num + den) / (2 * den)

def fractionBits (mantissa scale : Nat) : Nat :=
  let power := double.nearest (10 ^ scale) 1
  let whole := double.nearest (mantissa / 10 ^ scale) 1
  let fraction := double.nearest (double.nearest (mantissa % 10 ^ scale) 1) power
  if fraction = 0 then double.roundBits whole double.unit
  else
    let sum := double.nearest (whole + fraction) double.unit
    let lifted := double.nearest (sum * power) (double.unit * double.unit)
    double.roundBits (nearestUp lifted double.unit * double.unit) power

def toDouble (d : Decimal) : Double :=
  if d.scale = 0 then .ofInt d.signed
  else ⟨(double.withSign d.negative (fractionBits d.mantissa d.scale)).toUInt64⟩

def toSingle (d : Decimal) : Single :=
  d.toDouble.toSingle

end SqlClient.Decimal
