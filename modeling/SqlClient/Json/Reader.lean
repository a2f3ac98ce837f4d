import SqlClient.Json
import SqlClient.Text.Digits

/-!
Reading JSON, strictly: no comments, no trailing commas, no leading zeros, and nothing but blanks around
the document. Each step of the reading takes a character or goes from a list to its first entry, so twice
the length of the text is enough fuel.
-/

namespace SqlClient.Json

def isBlank (c : Char) : Bool :=
  c = ' ' || c = '\n' || c = '\t' || c = '\r'

def skipBlanks (cs : List Char) : List Char :=
  cs.dropWhile isBlank

inductive Element where
  | plain (c : Char)
  | numbered (code : Nat)
deriving DecidableEq, Repr

def hexDigit? (c : Char) : Option Nat :=
  if '0' ≤ c ∧ c ≤ '9' then some (c.toNat - '0'.toNat)
  else if 'a' ≤ c ∧ c ≤ 'f' then some (c.toNat - 'a'.toNat + 10)
  else if 'A' ≤ c ∧ c ≤ 'F' then some (c.toNat - 'A'.toNat + 10)
  else none

def takeHex : List Char → Option (Nat × List Char)
  | a :: b :: c :: d :: cs => do
    some ((((← hexDigit? a) * 16 + (← hexDigit? b)) * 16 + (← hexDigit? c)) * 16 +
      (← hexDigit? d), cs)
  | _ => none

def takeEscape : List Char → Option (Element × List Char)
  | '"' :: cs => some (.plain '"', cs)
  | '\\' :: cs => some (.plain '\\', cs)
  | '/' :: cs => some (.plain '/', cs)
  | 'b' :: cs => some (.plain '\x08', cs)
  | 'f' :: cs => some (.plain '\x0c', cs)
  | 'n' :: cs => some (.plain '\n', cs)
  | 'r' :: cs => some (.plain '\r', cs)
  | 't' :: cs => some (.plain '\t', cs)
  | 'u' :: cs => do
    let (code, cs) ← takeHex cs
    some (.numbered code, cs)
  | _ => none

def takeElements : Nat → List Char → Option (List Element × List Char)
  | 0, _ | _, [] => none
  | fuel + 1, c :: cs =>
    if c = '"' then some ([], cs)
    else if c = '\\' then do
      let (e, cs) ← takeEscape cs
      let (es, cs) ← takeElements fuel cs
      some (e :: es, cs)
    else if c.toNat < 32 then none
    else do
      let (es, cs) ← takeElements fuel cs
      some (.plain c :: es, cs)

def isHighSurrogate (code : Nat) : Bool :=
  0xD800 ≤ code && code < 0xDC00

def isLowSurrogate (code : Nat) : Bool :=
  0xDC00 ≤ code && code < 0xE000

def joinElements : List Element → Option (List Char)
  | [] => some []
  | .plain c :: es => (joinElements es).map (c :: ·)
  | .numbered high :: .numbered low :: es =>
    if isHighSurrogate high && isLowSurrogate low then
      (joinElements es).map
        (Char.ofNat (0x10000 + (high - 0xD800) * 0x400 + (low - 0xDC00)) :: ·)
    else if isHighSurrogate high || isLowSurrogate high then none
    else (joinElements (.numbered low :: es)).map (Char.ofNat high :: ·)
  | .numbered code :: es =>
    if isHighSurrogate code || isLowSurrogate code then none
    else (joinElements es).map (Char.ofNat code :: ·)

def takeText (cs : List Char) : Option (Option String × List Char) := do
  let (es, rest) ← takeElements cs.length cs
  some ((joinElements es).map String.ofList, rest)

def takeDigits (cs : List Char) : Option (List Char × List Char) :=
  let run := cs.takeWhile Text.isDigit
  if run.isEmpty then none else some (run, cs.drop run.length)

def takeWhole : List Char → Option (List Char × List Char)
  | '0' :: cs =>
    match cs with
    | c :: _ => if Text.isDigit c then none else some (['0'], cs)
    | [] => some (['0'], cs)
  | cs => takeDigits cs

def takeFraction : List Char → Option (List Char × List Char)
  | '.' :: cs => do
    let (ds, cs) ← takeDigits cs
    some ('.' :: ds, cs)
  | cs => some ([], cs)

def takeExponentSign : List Char → List Char × List Char
  | '+' :: cs => (['+'], cs)
  | '-' :: cs => (['-'], cs)
  | cs => ([], cs)

def takeExponent : List Char → Option (List Char × List Char)
  | c :: cs =>
    if c = 'e' ∨ c = 'E' then do
      let (sign, cs) := takeExponentSign cs
      let (ds, cs) ← takeDigits cs
      some (c :: sign ++ ds, cs)
    else some ([], c :: cs)
  | [] => some ([], [])

def takeNumber (cs : List Char) : Option (List Char × List Char) := do
  let (sign, cs) := match cs with
    | '-' :: cs => (['-'], cs)
    | cs => ([], cs)
  let (whole, cs) ← takeWhole cs
  let (fraction, cs) ← takeFraction cs
  let (exponent, cs) ← takeExponent cs
  some (sign ++ whole ++ fraction ++ exponent, cs)

def takeWord (word : List Char) (value : Json) (cs : List Char) : Option (Json × List Char) := do
  some (value, ← Text.strip? word cs)

mutual

def takeValue : Nat → List Char → Option (Json × List Char)
  | 0, _ => none
  | fuel + 1, cs =>
    match skipBlanks cs with
    | [] => none
    | '[' :: rest =>
      match skipBlanks rest with
      | ']' :: rest => some (.array [], rest)
      | rest => do
        let (items, rest) ← takeItems fuel rest
        some (.array items, rest)
    | '\x7b' :: rest =>
      match skipBlanks rest with
      | '\x7d' :: rest => some (.object [], rest)
      | rest => do
        let (members, rest) ← takeMembers fuel rest
        some (.object members, rest)
    | '"' :: rest => do
      let (text, rest) ← takeText rest
      some (.string text, rest)
    | 'n' :: rest => takeWord "ull".toList .null rest
    | 't' :: rest => takeWord "rue".toList (.boolean true) rest
    | 'f' :: rest => takeWord "alse".toList (.boolean false) rest
    | rest => do
      let (text, rest) ← takeNumber rest
      some (.number text, rest)

def takeItems : Nat → List Char → Option (List Json × List Char)
  | 0, _ => none
  | fuel + 1, cs => do
    let (item, rest) ← takeValue fuel cs
    match skipBlanks rest with
    | ',' :: rest => do
      let (items, rest) ← takeItems fuel rest
      some (item :: items, rest)
    | ']' :: rest => some ([item], rest)
    | _ => none

def takeMembers : Nat → List Char → Option (List (Option String × Json) × List Char)
  | 0, _ => none
  | fuel + 1, cs =>
    match skipBlanks cs with
    | '"' :: rest => do
      let (name, rest) ← takeText rest
      match skipBlanks rest with
      | ':' :: rest => do
        let (value, rest) ← takeValue fuel rest
        match skipBlanks rest with
        | ',' :: rest => do
          let (members, rest) ← takeMembers fuel rest
          some ((name, value) :: members, rest)
        | '\x7d' :: rest => some ([(name, value)], rest)
        | _ => none
      | _ => none
    | _ => none

end

def read? (cs : List Char) : Option Json := do
  let (value, rest) ← takeValue (2 * cs.length + 2) cs
  if (skipBlanks rest).isEmpty then some value else none

end SqlClient.Json
