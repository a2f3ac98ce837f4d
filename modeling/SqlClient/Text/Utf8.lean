namespace SqlClient

attribute [local instance (high)] instPowNat

abbrev Bytes := List UInt8

namespace Text

inductive Utf8Fault where
  | invalid (length index : Nat)
  | incomplete (index : Nat)
deriving DecidableEq, Repr

def announcedLength? (first : Nat) : Option Nat :=
  if first < 0x80 then some 1
  else if 0xC2 ≤ first ∧ first ≤ 0xDF then some 2
  else if 0xE0 ≤ first ∧ first ≤ 0xEF then some 3
  else if 0xF0 ≤ first ∧ first ≤ 0xF4 then some 4
  else none

/-- Bounds of the second byte of a character; the narrow ones keep out overlong forms, surrogates and
what lies beyond the last code point. -/
def secondBounds (first : Nat) : Nat × Nat :=
  if first = 0xE0 then (0xA0, 0xBF)
  else if first = 0xED then (0x80, 0x9F)
  else if first = 0xF0 then (0x90, 0xBF)
  else if first = 0xF4 then (0x80, 0x8F)
  else (0x80, 0xBF)

def leadPayload (length first : Nat) : Nat :=
  if length = 1 then first else first % 2 ^ (7 - length)

inductive Follow where
  | done (code : Nat) (rest : Bytes)
  | cut
  | broken (length : Nat)

def follow : Nat → Nat × Nat → Nat → Nat → Bytes → Follow
  | 0, _, _, code, rest => .done code rest
  | _ + 1, _, _, _, [] => .cut
  | count + 1, bounds, seen, code, b :: rest =>
    if bounds.1 ≤ b.toNat ∧ b.toNat ≤ bounds.2 then
      follow count (0x80, 0xBF) (seen + 1) (code * 64 + b.toNat % 64) rest
    else .broken seen

def decodeChar (index : Nat) (first : UInt8) (rest : Bytes) : Except Utf8Fault (Char × Bytes) :=
  match announcedLength? first.toNat with
  | none => .error (.invalid 1 index)
  | some length =>
    match follow (length - 1) (secondBounds first.toNat) 1 (leadPayload length first.toNat) rest with
    | .done code rest => .ok (Char.ofNat code, rest)
    | .cut => .error (.incomplete index)
    | .broken seen => .error (.invalid seen index)

/-- Decodes at most `fuel` characters; as each takes a byte, the length of the input is enough. -/
def decodeFrom (total : Nat) : Nat → Bytes → Except Utf8Fault (List Char)
  | _, [] => .ok []
  | 0, _ :: _ => .ok []
  | fuel + 1, first :: rest => do
    let (c, rest) ← decodeChar (total - (rest.length + 1)) first rest
    return c :: (← decodeFrom total fuel rest)

def decodeUtf8 (bytes : Bytes) : Except Utf8Fault String := do
  return String.ofList (← decodeFrom bytes.length bytes.length bytes)

def encodeAscii (s : String) : Bytes :=
  s.toList.map fun c => if c.toNat < 128 then c.toNat.toUInt8 else '?'.toNat.toUInt8

end Text

end SqlClient
