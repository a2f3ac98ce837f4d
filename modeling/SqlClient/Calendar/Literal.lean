import SqlClient.Calendar.DateTime
import SqlClient.Text.Blank
import SqlClient.Text.Digits

/-!
Reading dates and times. A reader takes a field from the front of a text and returns what follows it; a
literal is read only if nothing is left over, with one exception: the offset of a time of day is read
from the front of its text and the rest is ignored.
-/

namespace SqlClient

open Text

attribute [local instance (high)] instPowNat

namespace Calendar

def expect (c : Char) : List Char → Option (List Char)
  | [] => none
  | d :: cs => if d = c then some cs else none

def takeField (limit : Nat) (cs : List Char) : Option (Nat × List Char) :=
  takeNumber (some limit) (skipBlanks cs)

def takeYear (cs : List Char) : Option (Int × List Char) :=
  match skipBlanks cs with
  | '-' :: rest => do
    let (n, rest) ← takeNumber none rest
    some (-n, rest)
  | '+' :: rest => do
    let (n, rest) ← takeNumber none rest
    some (n, rest)
  | rest => do
    let (n, rest) ← takeNumber (some 4) rest
    some (n, rest)

def skipIf (spaced : Bool) (cs : List Char) : List Char :=
  if spaced then skipBlanks cs else cs

def ofFieldsInCalendar? (year : Int) (month day : Nat) : Option Date := do
  let d ← Date.ofFields? year month day
  if d.InCalendar then some d else none

def takeDate (spaced : Bool) (cs : List Char) : Option (Date × List Char) := do
  let (year, cs) ← takeYear cs
  let cs ← expect '-' (skipIf spaced cs)
  let (month, cs) ← takeField 2 cs
  let cs ← expect '-' (skipIf spaced cs)
  let (day, cs) ← takeField 2 cs
  some (← ofFieldsInCalendar? year month day, cs)

def ofClock? (hour minute second nano : Nat) : Option Time :=
  if second = 60 then Time.ofFields? hour minute 59 (nanosPerSecond + nano)
  else Time.ofFields? hour minute second nano

/-- A fraction of a second in nanoseconds, digits beyond the ninth being cut. Without a point there is
none; a point needs a digit after it. -/
def takeFraction : List Char → Option (Nat × List Char)
  | '.' :: cs =>
    let run := cs.takeWhile isDigit
    if run.isEmpty then none
    else
      let kept := run.take 9
      some (ofDigits kept * 10 ^ (9 - kept.length), cs.drop run.length)
  | cs => some (0, cs)

def takeTime (spaced : Bool) (cs : List Char) : Option (Time × List Char) := do
  let (hour, cs) ← takeField 2 cs
  let cs ← expect ':' (skipIf spaced cs)
  let (minute, cs) ← takeField 2 cs
  let cs ← expect ':' (skipIf spaced cs)
  let (second, cs) ← takeField 2 cs
  let (nano, cs) ← takeFraction cs
  some (← ofClock? hour minute second nano, cs)

def takeShortTime (cs : List Char) : Option (Time × List Char) := do
  let (hour, cs) ← takeField 2 cs
  let cs ← expect ':' (skipBlanks cs)
  let (minute, cs) ← takeField 2 cs
  some (← ofClock? hour minute 0 0, cs)

def complete? {α : Type} : α × List Char → Option α
  | (a, []) => some a
  | _ => none

def completeBlank? {α : Type} (r : α × List Char) : Option α :=
  complete? (r.1, skipBlanks r.2)

def takeTwo : List Char → Option (Nat × List Char)
  | c :: d :: cs => do some ((← digit? c) * 10 + (← digit? d), cs)
  | _ => none

def takeOffsetSign : List Char → Option (Bool × List Char)
  | c :: cs =>
    if c = '+' then some (false, cs)
    else if c = '-' ∨ c = '\u2212' then some (true, cs)
    else none
  | [] => none

def takeOffset (between : List Char → Option (List Char)) (cs : List Char) :
    Option (Int × List Char) := do
  let (negative, cs) ← takeOffsetSign cs
  let (hours, cs) ← takeTwo cs
  let (minutes, cs) ← takeTwo (← between cs)
  if minutes < 60 then
    let n : Int := (hours * 3600 + minutes * 60 : Nat)
    some (if negative then -n else n, cs)
  else none

def skipOffsetMarks (cs : List Char) : List Char :=
  cs.dropWhile fun c => c = ':' || isBlank c

end Calendar

open Calendar

def Date.read? (cs : List Char) : Option Date :=
  (takeDate false cs).bind complete?

def Time.read? (cs : List Char) : Option Time :=
  ((takeTime true cs).bind completeBlank?).orElse fun _ =>
    (takeShortTime cs).bind completeBlank?

def DateTime.readJoined? (cs : List Char) : Option DateTime := do
  let (date, cs) ← takeDate true cs
  let cs ← expect 'T' (skipBlanks cs)
  let (time, cs) ← takeTime true cs
  completeBlank? (⟨date, time⟩, cs)

def DateTime.readSpaced? (cs : List Char) : Option DateTime := do
  let (date, cs) ← takeDate false cs
  let (time, cs) ← takeTime false cs
  complete? (⟨date, time⟩, cs)

def DateTime.read? (cs : List Char) : Option DateTime :=
  (readJoined? cs).orElse fun _ => readSpaced? cs

def Offset.readFront? (cs : List Char) : Option Offset :=
  if cs = ['z'] ∨ cs = ['Z'] then some .utc
  else do
    let (seconds, _) ← takeOffset (fun cs => some (skipOffsetMarks cs)) cs
    Offset.ofSeconds? seconds

inductive OffsetTime.LiteralFault where
  | time
  | offset
deriving DecidableEq, Repr

def OffsetTime.read (cs : List Char) : Except OffsetTime.LiteralFault OffsetTime :=
  match takeTime false cs with
  | none => .error .time
  | some (time, rest) =>
    match Offset.readFront? rest with
    | none => .error .offset
    | some offset => .ok ⟨time, offset⟩

def Offset.readStrict? : List Char → Option Offset
  | ['z'] | ['Z'] => some .utc
  | cs => do
    let seconds ← complete? (← takeOffset (expect ':') cs)
    Offset.ofSeconds? seconds

/-- The strict notation: every field at full width, the letter `T` or one space between date and time,
and an offset. -/
def ZonedDateTime.read? (cs : List Char) : Option ZonedDateTime := do
  let (century, cs) ← takeTwo cs
  let (year, cs) ← takeTwo cs
  let (month, cs) ← takeTwo (← expect '-' cs)
  let (day, cs) ← takeTwo (← expect '-' cs)
  let date ← ofFieldsInCalendar? (century * 100 + year : Nat) month day
  let cs ← match cs with
    | c :: cs => if c = 'T' ∨ c = 't' ∨ c = ' ' then some cs else none
    | [] => none
  let (hour, cs) ← takeTwo cs
  let (minute, cs) ← takeTwo (← expect ':' cs)
  let (second, cs) ← takeTwo (← expect ':' cs)
  let (nano, cs) ← takeFraction cs
  let time ← ofClock? hour minute second nano
  ZonedDateTime.ofLocal? ⟨date, time⟩ (← Offset.readStrict? cs)

end SqlClient
