import SqlClient.Number.Decimal

/-!
Reading decimals. The plain notation is an optional sign and digits with at most one point, where an
underscore may follow any digit; digits beyond the capacity are refused or rounded half up. The
scientific notation is a plain base, always rounded, and a power of ten; digits that a negative
power moves beyond the capacity are refused or rounded like those of the plain notation.
-/

namespace SqlClient.Decimal

attribute [local instance (high)] instPowNat

structure Numeral where
  mantissa : Nat
  scale : Nat
  pointSeen : Bool
  digitSeen : Bool
deriving DecidableEq, Repr

def Numeral.start : Numeral := ⟨0, 0, false, false⟩

def Numeral.push (n : Numeral) (d : Nat) : Numeral :=
  ⟨n.mantissa * 10 + d, if n.pointSeen then n.scale + 1 else 0, n.pointSeen, true⟩

def Numeral.full (n : Numeral) : Bool :=
  n.pointSeen && maxScale ≤ n.scale

inductive Excess where
  | refuse
  | round
deriving DecidableEq, Repr

def Numeral.shortLimit : Nat := 2 ^ (64 : Nat) / 10 - 255

/-- The digit that decides the rounding, the first of those without a place. A separator there
counts as zero after a short mantissa and is passed over after any other. -/
def Numeral.decidingDigit (n : Numeral) (rest : List Char) : Nat :=
  let rest := if n.mantissa / 10 < shortLimit then rest else rest.dropWhile (· = '_')
  (rest.head?.bind Text.digit?).getD 0

/-- Ends a numeral before text that it has no place for, which may hold digits and separators only.
A mantissa that grows beyond the capacity gives up a fraction digit. -/
def Numeral.roundAt (n : Numeral) (rest : List Char) : Option (Nat × Nat) :=
  if !rest.all fun c => Text.isDigit c || c = '_' then none
  else if n.decidingDigit rest < 5 then some (n.mantissa, n.scale)
  else if n.mantissa + 1 < 2 ^ (96 : Nat) then some (n.mantissa + 1, n.scale)
  else if n.scale = 0 then none
  else some ((n.mantissa + 5) / 10, n.scale - 1)

def Numeral.read (excess : Excess) (n : Numeral) : List Char → Option (Nat × Nat)
  | [] => if n.digitSeen then some (n.mantissa, n.scale) else none
  | c :: cs =>
    let finish := match excess with
      | .refuse => none
      | .round => n.roundAt (c :: cs)
    if n.full then finish
    else match Text.digit? c with
      | some d =>
        if (n.push d).mantissa < 2 ^ (96 : Nat) then (n.push d).read excess cs
        else if n.pointSeen then finish
        else none
      | none =>
        if c = '.' ∧ !n.pointSeen then { n with pointSeen := true }.read excess cs
        else if c = '_' ∧ n.digitSeen then n.read excess cs
        else none

def readPlain? (excess : Excess) (cs : List Char) : Option Decimal := do
  let (negative, rest) := Text.takeSign cs
  let (mantissa, scale) ← Numeral.start.read excess rest
  ofParts? negative mantissa scale

def readPower? (cs : List Char) : Option Nat := do
  let cs := match cs with
    | '+' :: rest => rest
    | _ => cs
  match Text.takeNumber none cs with
  | some (n, []) => if n < UInt32.size then some n else none
  | _ => none

def farScale : Nat := maxScale + 30

def withSmallerPower? (excess : Excess) (d : Decimal) (power : Nat) : Option Decimal :=
  if h : d.scale + power ≤ maxScale then some { d with scale := d.scale + power }
  else match excess with
    | .refuse => none
    | .round =>
      let raised := { d with scale := min (d.scale + power) farScale }
      some (raised.roundTo maxScale (by simp only [raised, farScale]; omega))

def withLargerPower? (d : Decimal) (power : Nat) : Option Decimal :=
  if power ≤ d.scale then some { d with scale := d.scale - power }
  else if power ≤ maxScale then
    ofParts? d.negative (d.mantissa * 10 ^ (power - d.scale)) 0
  else none

def isExponentMark (c : Char) : Bool :=
  c = 'e' || c = 'E'

def readScientific? (excess : Excess) (cs : List Char) : Option Decimal := do
  let base := cs.takeWhile fun c => !isExponentMark c
  match cs.drop base.length with
  | [] => none
  | _ :: power =>
    let d ← readPlain? .round base
    match power with
    | '-' :: rest => d.withSmallerPower? excess (← readPower? rest)
    | rest => d.withLargerPower? (← readPower? rest)

def read? (excess : Excess) (cs : List Char) : Option Decimal :=
  (readPlain? excess cs).orElse fun _ => readScientific? excess cs

end SqlClient.Decimal
