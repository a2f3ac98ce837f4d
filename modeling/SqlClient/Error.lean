import SqlClient.Calendar.Text
import SqlClient.Operation
import SqlClient.Text.Quoted
import SqlClient.Value.Wire

namespace SqlClient

structure ServerError where
  detail : String
  code : Option String
deriving DecidableEq, Repr, Inhabited

def ServerError.message (e : ServerError) : String :=
  match e.code with
  | none => e.detail
  | some code => e.detail ++ " (" ++ code ++ ")"

inductive NoTransactionReason where
  | autocommitEnabled
  | noStatementExecuted
deriving DecidableEq, Repr

inductive RangeFault where
  | integerLiteral (literal : String)
  | noDecimalForm (float : List Char)
  | scale (value : Decimal) (scale : Nat) (fault : Decimal.ScaleFault)
  | noInstant (wall : DateTime)
deriving DecidableEq, Repr

inductive LiteralFault where
  | emptyInteger
  | invalidDigit
  | emptyFloat
  | invalidFloat
  | notBoolean
  | utf8 (fault : Text.Utf8Fault)
  | offset
  | unreadable
deriving DecidableEq, Repr

inductive ExecutionFault where
  | server (e : ServerError)
  | noResultSet
  | resultSet
  | notPositioned
  | noColumn (name : String)
  | noLargeObject (id : LobId)
deriving DecidableEq, Repr

inductive ParameterFault where
  | untypedNull (name : String)
  | largeObject (name : String) (atom : Atom)
  | indexZero
  | nullWithoutType (index : Nat)
  | notSet (index : Nat)
  | batchTypesDiffer
  | batchTypesChanged
deriving DecidableEq, Repr

inductive Resource where
  | connection
  | statement
  | preparedStatement
  | cursor
  | cursorTransaction
  | largeObjectChannel
deriving DecidableEq, Repr

inductive Error where
  | begin (cause : ServerError)
  | noActiveTransaction (reason : NoTransactionReason)
  | transactionAlreadyActive
  | commit (cause : ServerError)
  | rollback (cause : ServerError)
  | unsupportedConversion (source : Atom) (target : Target)
  | outOfRange (target : Target) (fault : RangeFault)
  | malformedLiteral (target : Target) (literal : String) (fault : LiteralFault)
  | invalidColumnIndex (index count : Nat)
  | timeout (op : Operation) (after : Milliseconds)
  | execution (fault : ExecutionFault)
  | parameter (fault : ParameterFault)
  | closed (what : Resource)
  | singleThreadedHost
  | server (cause : ServerError)
  /-- A wall clock that the calendar does not have; no message is defined for it. -/
  | outsideCalendar
deriving DecidableEq, Repr

def Error.isConversion : Error → Bool
  | unsupportedConversion .. | outOfRange .. | malformedLiteral .. => true
  | _ => false

def Error.isTimeout : Error → Bool
  | timeout .. => true
  | _ => false

def NoTransactionReason.message : NoTransactionReason → String
  | autocommitEnabled => "auto-commit is enabled"
  | noStatementExecuted => "no statement has been executed"

def RangeFault.message : RangeFault → String
  | .integerLiteral literal => Text.quote literal ++ " does not fit"
  | .noDecimalForm float => String.ofList float ++ " has no decimal form"
  | .scale value wanted fault =>
    let base :=
      String.ofList value.text ++ " cannot be represented with scale " ++ toString wanted
    match fault with
    | .needsRounding => base ++ " without rounding"
    | .unreachable => base
  | .noInstant wall => String.ofList (wall.text ' ') ++ " does not exist in the target zone"

def Utf8Fault.message : Text.Utf8Fault → String
  | .invalid length index =>
    "invalid utf-8 sequence of " ++ toString length ++ " bytes from index " ++ toString index
  | .incomplete index => "incomplete utf-8 byte sequence from index " ++ toString index

def LiteralFault.message? : LiteralFault → Option String
  | emptyInteger => some "cannot parse integer from empty string"
  | invalidDigit => some "invalid digit found in string"
  | emptyFloat => some "cannot parse float from empty string"
  | invalidFloat => some "invalid float literal"
  | notBoolean => some "expected true or false"
  | utf8 fault => some (Utf8Fault.message fault)
  | offset => some "missing or invalid offset"
  | unreadable => none

def ExecutionFault.message : ExecutionFault → String
  | server e => e.message
  | noResultSet => "statement does not return a result set"
  | resultSet => "statement returns a result set; use execute_query"
  | notPositioned => "result cursor is not positioned on a row"
  | noColumn name => "no column named " ++ name
  | noLargeObject id => "no lob " ++ toString id.number

def ParameterFault.message : ParameterFault → String
  | untypedNull name => "cannot infer a wire type for null parameter " ++ name
  | largeObject name atom =>
    "parameter " ++ name ++ ": " ++ atom.text ++
      " cannot be bound directly; bind octet or character data"
  | indexZero => "parameter indexes start at 1"
  | nullWithoutType index => "parameter " ++ toString index ++ ": null needs a declared type"
  | notSet index => "parameter " ++ toString index ++ " is not set"
  | batchTypesDiffer => "batch entries must bind the same parameter types"
  | batchTypesChanged => "parameter types changed after entries were queued"

def Resource.message : Resource → String
  | connection => "connection is closed"
  | statement => "statement is closed"
  | preparedStatement => "prepared statement is closed"
  | cursor => "result cursor is closed"
  | cursorTransaction => "the transaction of this cursor has ended"
  | largeObjectChannel => "large object channel is not available"

def durationText (ms : Milliseconds) : String :=
  if ms = 0 then "0ns"
  else if ms < 1000 then toString ms ++ "ms"
  else
    let fraction := (Text.padLeft 3 (Text.digits (ms % 1000))).reverse.dropWhile (· = '0') |>.reverse
    let tail := if fraction.isEmpty then fraction else '.' :: fraction
    toString (ms / 1000) ++ String.ofList tail ++ "s"

def Error.message : Error → String
  | begin cause => "failed to begin transaction: " ++ cause.message
  | noActiveTransaction reason => "no active transaction: " ++ reason.message
  | transactionAlreadyActive => "a transaction is already active"
  | commit cause => "commit failed: " ++ cause.message
  | rollback cause => "rollback failed: " ++ cause.message
  | unsupportedConversion source target =>
    "unsupported conversion from " ++ source.text ++ " to " ++ target.name
  | outOfRange target fault => "value out of range for " ++ target.name ++ ": " ++ fault.message
  | malformedLiteral target literal fault =>
    let base := "malformed literal " ++ Text.quote literal ++ " for " ++ target.name
    match fault.message? with
    | some detail => base ++ ": " ++ detail
    | none => base
  | invalidColumnIndex index count =>
    "invalid column index " ++ toString index ++ " (column count " ++ toString count ++ ")"
  | timeout op after => op.name ++ " timed out after " ++ durationText after
  | execution fault => "SQL execution error: " ++ fault.message
  | parameter fault => "Parameter error: " ++ fault.message
  | closed what => "closed: " ++ what.message
  | singleThreadedHost =>
    "Configuration error: a current-thread runtime cannot drive blocking calls; " ++
      "use a multi-thread runtime"
  | server cause => cause.message
  | outsideCalendar => ""

end SqlClient
