import SqlClient.Number.Binary
import SqlClient.Text.Digits

/-!
Reading floats. A literal is an optional sign and either a spelled-out value (`inf`, `infinity`, `nan`
in any case) or digits with at most one point and at least one digit, then an optional exponent. The
number denoted is rounded once to the wanted format, whatever its size.
-/

namespace SqlClient.Binary

attribute [local instance (high)] instPowNat

inductive LiteralFault where
  | empty
  | invalid
deriving DecidableEq, Repr

def takeFixed (cs : List Char) : List Char × List Char × List Char :=
  let whole := cs.takeWhile Text.isDigit
  match cs.drop whole.length with
  | '.' :: rest =>
    let fraction := rest.takeWhile Text.isDigit
    (whole, fraction, rest.drop fraction.length)
  | rest => (whole, [], rest)

def readExponent? : List Char → Option Int
  | [] => some 0
  | c :: cs =>
    if Text.lowerAscii c = 'e' then
      let (negative, cs) := Text.takeSign cs
      match Text.takeNumber none cs with
      | some (n, []) => some (if negative then -n else n)
      | _ => none
    else none

/-- Pattern, sign aside, of the value nearest to `mantissa * 10 ^ exponent`. Outside of the exponents
tested here every positive number rounds to zero or to infinity. -/
def Format.roundScientific (f : Format) (mantissa : Nat) (exponent : Int) : Nat :=
  let top := exponent + (Text.digits mantissa).length
  if mantissa = 0 ∨ top < -400 then 0
  else if 400 < top then f.infinityBits
  else f.roundBits (mantissa * 10 ^ exponent.toNat) (10 ^ (-exponent).toNat)

def Format.readUnsigned? (f : Format) (cs : List Char) : Option Nat :=
  let name := cs.map Text.lowerAscii
  if name = "inf".toList ∨ name = "infinity".toList then some f.infinityBits
  else if name = "nan".toList then some f.nanBits
  else
    let (whole, fraction, rest) := takeFixed cs
    if whole.isEmpty ∧ fraction.isEmpty then none
    else do
      let exponent ← readExponent? rest
      some (f.roundScientific (Text.ofDigits (whole ++ fraction)) (exponent - fraction.length))

def Format.read (f : Format) (cs : List Char) : Except LiteralFault Nat :=
  if cs.isEmpty then .error .empty
  else
    let (negative, rest) := Text.takeSign cs
    match f.readUnsigned? rest with
    | some bits => .ok (f.withSign negative bits)
    | none => .error .invalid

end SqlClient.Binary

namespace SqlClient

def Single.read (cs : List Char) : Except Binary.LiteralFault Single := do
  return ⟨(← Binary.single.read cs).toUInt32⟩

def Double.read (cs : List Char) : Except Binary.LiteralFault Double := do
  return ⟨(← Binary.double.read cs).toUInt64⟩

end SqlClient
