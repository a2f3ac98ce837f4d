import SqlClient.Conversion.Context
import SqlClient.Conversion.Mismatch
import SqlClient.Number.Binary.Literal
import SqlClient.Number.Binary.Shortest
import SqlClient.Number.Decimal.Binary
import SqlClient.Number.Decimal.Literal
import SqlClient.Text.Blank

namespace SqlClient

attribute [local instance (high)] instPowNat

def WireValue.double? : WireValue → Option Double
  | .int4 n => some (.ofInt n.toInt)
  | .int8 n => some (.ofInt n.toInt)
  | .float4 x => some x.toDouble
  | .float8 x => some x
  | .decimal d => some d.toDouble
  | _ => none

def readBoolean (literal : String) : Except Error Bool :=
  let name := (Text.trim literal.toList).map Text.lowerAscii
  if name = "true".toList ∨ name = "1".toList then .ok true
  else if name = "false".toList ∨ name = "0".toList then .ok false
  else .error (.malformedLiteral .boolean literal .notBoolean)

def WireValue.toBoolean (v : WireValue) : Except Error HostValue :=
  match v with
  | .boolean b => .ok (.boolean b)
  | .character s => (readBoolean s).map .boolean
  | v =>
    match v.double?.bind fun x => x.value.toBool? Binary.double with
    | some b => .ok (.boolean b)
    | none => v.mismatch .boolean

inductive Width where
  | byte
  | short
  | int
  | long
deriving DecidableEq, Repr

namespace Width

def bits : Width → Nat
  | byte => 8
  | short => 16
  | int => 32
  | long => 64

def low (w : Width) : Int :=
  -2 ^ (w.bits - 1)

def high (w : Width) : Int :=
  2 ^ (w.bits - 1) - 1

def target : Width → Target
  | byte => .byte
  | short => .short
  | int => .int
  | long => .long

/-- The width at which floats are cut before they are narrowed to `w`. -/
def floatWidth : Width → Width
  | long => long
  | _ => int

def wrap : Width → Int → HostValue
  | byte, n => .byte (Int8.ofInt n)
  | short, n => .short (Int16.ofInt n)
  | int, n => .int (Int32.ofInt n)
  | long, n => .long (Int64.ofInt n)

def ofFloat (w : Width) (f : Binary.Format) (x : Binary.Value) : Int :=
  x.truncate f w.floatWidth.low w.floatWidth.high

end Width

inductive IntegerFault where
  | empty
  | invalidDigit
  | overflow
deriving DecidableEq, Repr

def accumulate (w : Width) (negative : Bool) : Int → List Char → Except IntegerFault Int
  | n, [] => .ok n
  | n, c :: cs =>
    match Text.digit? c with
    | none => .error .invalidDigit
    | some d =>
      let next := if negative then n * 10 - d else n * 10 + d
      if w.low ≤ next ∧ next ≤ w.high then accumulate w negative next cs
      else .error .overflow

def readInteger (w : Width) (cs : List Char) : Except IntegerFault Int :=
  if cs.isEmpty then .error .empty
  else
    let (negative, rest) := Text.takeSign cs
    if rest.isEmpty then .error .invalidDigit else accumulate w negative 0 rest

def integerLiteral (w : Width) (literal : String) : Except Error Int :=
  match readInteger w (Text.trim literal.toList) with
  | .ok n => .ok n
  | .error .empty => .error (.malformedLiteral w.target literal .emptyInteger)
  | .error .invalidDigit => .error (.malformedLiteral w.target literal .invalidDigit)
  | .error .overflow => .error (.outOfRange w.target (.integerLiteral literal))

def WireValue.toInteger (w : Width) (v : WireValue) : Except Error HostValue :=
  match v with
  | .boolean b => .ok (w.wrap b.toInt)
  | .int4 n => .ok (w.wrap n.toInt)
  | .int8 n => .ok (w.wrap n.toInt)
  | .float4 x => .ok (w.wrap (w.ofFloat Binary.single x.value))
  | .float8 x => .ok (w.wrap (w.ofFloat Binary.double x.value))
  | .decimal d => .ok (w.wrap d.integral)
  | .character s => (integerLiteral w s).map w.wrap
  | v => v.mismatch w.target

def floatLiteral {α : Type} (target : Target) (literal : String)
    (read : List Char → Except Binary.LiteralFault α) : Except Error α :=
  match read (Text.trim literal.toList) with
  | .ok x => .ok x
  | .error .empty => .error (.malformedLiteral target literal .emptyFloat)
  | .error .invalid => .error (.malformedLiteral target literal .invalidFloat)

def WireValue.toFloat (v : WireValue) : Except Error HostValue :=
  match v with
  | .boolean b => .ok (.float (.ofInt b.toInt))
  | .int4 n => .ok (.float (.ofInt n.toInt))
  | .int8 n => .ok (.float (.ofInt n.toInt))
  | .float4 x => .ok (.float x)
  | .float8 x => .ok (.float x.toSingle)
  | .decimal d => .ok (.float d.toSingle)
  | .character s => (floatLiteral .float s Single.read).map .float
  | v => v.mismatch .float

def WireValue.toDouble (v : WireValue) : Except Error HostValue :=
  match v with
  | .boolean b => .ok (.double (.ofInt b.toInt))
  | .character s => (floatLiteral .double s Double.read).map .double
  | v =>
    match v.double? with
    | some x => .ok (.double x)
    | none => v.mismatch .double

def decimalLiteral (literal : String) : Except Error Decimal :=
  match Decimal.read? .refuse (Text.trim literal.toList) with
  | some d => .ok d
  | none => .error (.malformedLiteral .decimal literal .unreadable)

def atScale (ctx : ConversionContext) (d : Decimal) : Except Error Decimal :=
  match ctx.scale with
  | none => .ok d
  | some scale =>
    match d.withScale scale ctx.settings.rounding with
    | .ok scaled => .ok scaled
    | .error fault => .error (.outOfRange .decimal (.scale d scale fault))

theorem atScale_unscaled {ctx : ConversionContext} (h : ctx.scale = none) (d : Decimal) :
    atScale ctx d = .ok d := by
  simp only [atScale, h]

def ofFloat (form : Option Decimal) (text : List Char) : Except Error Decimal :=
  match form with
  | some d => .ok d
  | none => .error (.outOfRange .decimal (.noDecimalForm text))

def WireValue.toDecimal (ctx : ConversionContext) (v : WireValue) : Except Error HostValue :=
  let scaled (d : Decimal) := (atScale ctx d).map HostValue.decimal
  match v with
  | .int4 n => scaled (.ofInt64 n.toInt64)
  | .int8 n => scaled (.ofInt64 n)
  | .float4 x => ofFloat (Decimal.ofSingle? x) (x.text .short) >>= scaled
  | .float8 x => ofFloat (Decimal.ofDouble? x) (x.text .short) >>= scaled
  | .decimal d => scaled d
  | .character s => decimalLiteral s >>= scaled
  | v => v.mismatch .decimal

end SqlClient
