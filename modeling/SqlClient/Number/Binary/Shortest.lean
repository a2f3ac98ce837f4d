import SqlClient.Number.Binary
import SqlClient.Text.Digits

/-!
Shortest decimal text of a binary value. Of the decimal grids of one, two, three … significant
digits, the first that has a point inside the interval of reals rounding to the value gives the
digits; of two such points the nearer wins, the larger one on a tie. The text is positional: it never
has an exponent, and no fraction where the value is whole.
-/

namespace SqlClient.Binary

attribute [local instance (high)] instPowNat

structure Interval where
  low : Nat
  centre : Nat
  high : Nat
  closed : Bool
deriving DecidableEq, Repr

def Format.interval (f : Format) (magnitude : Nat) : Interval :=
  let shift := magnitude.log2 - f.fractionBits
  let significand := magnitude / 2 ^ shift
  let narrow := significand = 2 ^ f.fractionBits ∧ 0 < shift
  { low := 4 * magnitude - (if narrow then 1 else 2) * 2 ^ shift
    centre := 4 * magnitude
    high := 4 * magnitude + 2 * 2 ^ shift
    closed := significand % 2 = 0 }

structure Scientific where
  coefficient : Nat
  exponent : Int
deriving DecidableEq, Repr

def Interval.onGrid? (i : Interval) (unit : Nat) (exponent : Int) : Option Nat :=
  let scale := 10 ^ (-exponent).toNat
  let step := 4 * unit * 10 ^ exponent.toNat
  let centre := i.centre * scale
  let below := centre / step
  let lowFits := if i.closed then i.low * scale ≤ below * step else i.low * scale < below * step
  let highFits :=
    if i.closed then (below + 1) * step ≤ i.high * scale else (below + 1) * step < i.high * scale
  if lowFits ∧ highFits then
    some (if step ≤ 2 * (centre % step) then below + 1 else below)
  else if lowFits then some below
  else if highFits then some (below + 1)
  else none

def Interval.search (i : Interval) (unit : Nat) : Nat → Int → Scientific
  | 0, exponent => ⟨i.centre * 10 ^ (-exponent).toNat / (4 * unit * 10 ^ exponent.toNat), exponent⟩
  | steps + 1, exponent =>
    match i.onGrid? unit exponent with
    | some coefficient => ⟨coefficient, exponent⟩
    | none => i.search unit steps (exponent - 1)

def Format.decimalExponent (f : Format) (magnitude : Nat) : Int :=
  let lift := f.quantum
  ((Text.digits (magnitude * 10 ^ lift / f.unit)).length : Int) - lift

def Scientific.carry (s : Scientific) : Scientific :=
  if s.coefficient % 10 = 0 then ⟨s.coefficient / 10, s.exponent + 1⟩ else s

/-- Seventeen digits always suffice for the wider format, so the search has room for every value. -/
def Format.shortest (f : Format) (magnitude : Nat) : Scientific :=
  ((f.interval magnitude).search f.unit 18 (f.decimalExponent magnitude - 1)).carry

def Scientific.positional (s : Scientific) : List Char :=
  let ds := Text.digits s.coefficient
  if 0 ≤ s.exponent then ds ++ List.replicate s.exponent.toNat '0'
  else
    let places := (-s.exponent).toNat
    let padded := Text.padLeft (places + 1) ds
    padded.take (padded.length - places) ++ '.' :: padded.drop (padded.length - places)

structure Spelling where
  infinity : List Char
  nan : List Char

def Spelling.short : Spelling := ⟨"inf".toList, "NaN".toList⟩

def Spelling.long : Spelling := ⟨"Infinity".toList, "NaN".toList⟩

def Value.text (f : Format) (spelling : Spelling) : Value → List Char
  | .nan => spelling.nan
  | .infinite negative => if negative then '-' :: spelling.infinity else spelling.infinity
  | .finite negative magnitude =>
    let body := if magnitude = 0 then ['0'] else (f.shortest magnitude).positional
    if negative then '-' :: body else body

end SqlClient.Binary

namespace SqlClient

def Single.text (spelling : Binary.Spelling) (x : Single) : List Char :=
  x.value.text Binary.single spelling

def Double.text (spelling : Binary.Spelling) (x : Double) : List Char :=
  x.value.text Binary.double spelling

end SqlClient
