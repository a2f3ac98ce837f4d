/-!
Binary interchange formats. Every finite value of a format is a whole multiple of its quantum, the
smallest positive value, so a finite value is a sign and a natural number of quanta and arithmetic
on it is exact. Rounding takes a ratio of natural numbers to the nearest value, a tie going to the
even significand.
-/

namespace SqlClient.Binary

-- Powers are those of the core library, whatever else is imported.
attribute [local instance (high)] instPowNat

structure Format where
  fractionBits : Nat
  exponentBits : Nat
deriving DecidableEq, Repr

def single : Format := ⟨23, 8⟩

def double : Format := ⟨52, 11⟩

inductive Value where
  | nan
  | infinite (negative : Bool)
  | finite (negative : Bool) (magnitude : Nat)
deriving DecidableEq, Repr

namespace Format

/-- The quantum of the format is `2 ^ -f.quantum`. -/
def quantum (f : Format) : Nat :=
  2 ^ (f.exponentBits - 1) - 2 + f.fractionBits

def unit (f : Format) : Nat :=
  2 ^ f.quantum

def signBit (f : Format) : Nat :=
  2 ^ (f.fractionBits + f.exponentBits)

def infinityBits (f : Format) : Nat :=
  (2 ^ f.exponentBits - 1) * 2 ^ f.fractionBits

def nanBits (f : Format) : Nat :=
  f.infinityBits + 2 ^ (f.fractionBits - 1)

def fractionField (f : Format) (bits : Nat) : Nat :=
  bits % 2 ^ f.fractionBits

def exponentField (f : Format) (bits : Nat) : Nat :=
  bits / 2 ^ f.fractionBits % 2 ^ f.exponentBits

def magnitude (f : Format) (bits : Nat) : Nat :=
  if f.exponentField bits = 0 then f.fractionField bits
  else (2 ^ f.fractionBits + f.fractionField bits) * 2 ^ (f.exponentField bits - 1)

def decode (f : Format) (bits : Nat) : Value :=
  let negative := f.signBit ≤ bits
  if f.exponentField bits = 2 ^ f.exponentBits - 1 then
    if f.fractionField bits = 0 then .infinite negative else .nan
  else .finite negative (f.magnitude bits)

def nearestEven (num den : Nat) : Nat :=
  let q := num / den
  let twice := 2 * (num % den)
  if twice < den ∨ (twice = den ∧ q % 2 = 0) then q else q + 1

def roundBits (f : Format) (num den : Nat) : Nat :=
  let quanta := num * f.unit
  let shift := (quanta / den).log2 - f.fractionBits
  min (shift * 2 ^ f.fractionBits + nearestEven quanta (den * 2 ^ shift)) f.infinityBits

def nearest (f : Format) (num den : Nat) : Nat :=
  f.magnitude (f.roundBits num den)

def withSign (f : Format) (negative : Bool) (bits : Nat) : Nat :=
  if negative then f.signBit + bits else bits

def encode (f source : Format) : Value → Nat
  | .nan => f.nanBits
  | .infinite negative => f.withSign negative f.infinityBits
  | .finite negative magnitude => f.withSign negative (f.roundBits magnitude source.unit)

end Format

def Value.truncate (f : Format) (low high : Int) : Value → Int
  | .nan => 0
  | .infinite negative => if negative then low else high
  | .finite negative magnitude =>
    let whole : Int := (magnitude / f.unit : Nat)
    max low (min high (if negative then -whole else whole))

def Value.Equal : Value → Value → Prop
  | .nan, _ | _, .nan => False
  | .finite _ 0, .finite _ 0 => True
  | a, b => a = b

instance (a b : Value) : Decidable (Value.Equal a b) := by
  unfold Value.Equal
  split <;> infer_instance

def Value.toBool? (f : Format) : Value → Option Bool
  | .finite _ 0 => some false
  | .finite false magnitude => if magnitude = f.unit then some true else none
  | _ => none

end SqlClient.Binary

namespace SqlClient

structure Single where
  bits : UInt32
deriving DecidableEq, Repr, Inhabited

structure Double where
  bits : UInt64
deriving DecidableEq, Repr, Inhabited

open Binary

def Single.value (x : Single) : Value :=
  single.decode x.bits.toNat

def Double.value (x : Double) : Value :=
  double.decode x.bits.toNat

def Single.ofRatio (negative : Bool) (num den : Nat) : Single :=
  ⟨(single.withSign negative (single.roundBits num den)).toUInt32⟩

def Double.ofRatio (negative : Bool) (num den : Nat) : Double :=
  ⟨(double.withSign negative (double.roundBits num den)).toUInt64⟩

def Single.ofInt (n : Int) : Single :=
  .ofRatio (n < 0) n.natAbs 1

def Double.ofInt (n : Int) : Double :=
  .ofRatio (n < 0) n.natAbs 1

def Double.toSingle (x : Double) : Single :=
  ⟨(single.encode double x.value).toUInt32⟩

def Single.toDouble (x : Single) : Double :=
  ⟨(double.encode single x.value).toUInt64⟩

end SqlClient
