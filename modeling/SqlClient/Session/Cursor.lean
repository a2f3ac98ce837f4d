import SqlClient.Conversion
import SqlClient.Session.Execution

namespace SqlClient

structure CursorResources where
  result : CursorId
  prepared : Option Prepared
deriving DecidableEq, Repr, Inhabited

structure Cursor where
  transaction : TransactionId
  resources : Option CursorResources
  columns : Option (List Column)
  row : Option Row
  rowNumber : Nat
  limits : StatementLimits
  afterLast : Bool
  wasNull : Bool
deriving DecidableEq, Repr, Inhabited

namespace Cursor

def isClosed (c : Cursor) : Bool :=
  c.resources.isNone

def describe (c : Cursor) : String :=
  Text.record "ResultCursor"
    [Text.item "tx" (toString c.transaction.number), Text.item "row_number" (toString c.rowNumber),
      Text.item "after_last" (toString c.afterLast), Text.item "closed" (toString c.isClosed), ".."]

abbrev Method := Action (Cursor × Session)

def cursor : Method Cursor := do
  return (← get).1

def session : Method Session := do
  return (← get).2

def change (f : Cursor → Cursor) : Method Unit :=
  modify fun (c, s) => (f c, s)

def call (r : Request) : Method r.Answer := do
  Action.onSecond (Session.call r (← cursor).limits.timeout)

def openResources : Method CursorResources := do
  match (← cursor).resources with
  | some r => return r
  | none => throw (.closed .cursor)

def release (r : CursorResources) : Action Session Unit := do
  let disposed ← match r.prepared with
    | some p => Action.attempt (Session.call (.dispose p.id) none)
    | none => pure (.ok ())
  let closed ← Action.attempt (Session.call (.closeCursor r.result) none)
  Action.both disposed closed

def close : Method Unit := do
  let c ← cursor
  match c.resources with
  | none => return
  | some r =>
    change fun c => { c with resources := none, row := none }
    let released ← Action.attempt (Action.onSecond (release r))
    let finished ← Action.attempt (Action.onSecond (Session.finish c.transaction))
    Action.both released finished

def knownColumns : Method (List Column) := do
  match (← cursor).columns with
  | some columns => return columns
  | none =>
    let r ← openResources
    let columns ← call (.describe r.result)
    change fun c => { c with columns := some columns }
    return columns

def isCapped (c : Cursor) : Bool :=
  c.limits.maxRows.any fun max => max ≤ c.rowNumber

def fetch (r : CursorResources) : Method (Option Row) := do
  if (← cursor).isCapped then return none
  call (.fetch r.result)

def exhaust : Method Unit := do
  change fun c => { c with afterLast := true, row := none }
  if (← session).isAutocommit (← cursor).transaction then close

def advance : Method Bool := do
  if (← cursor).afterLast then return false
  let r ← openResources
  if (← session).isClosed (← cursor).transaction then throw (.closed .cursorTransaction)
  let _ ← knownColumns
  match ← fetch r with
  | some row =>
    change fun c => { c with row := some row, rowNumber := c.rowNumber + 1 }
    return true
  | none =>
    exhaust
    return false

def valueAt (c : Cursor) (index : Nat) : Except Error WireValue :=
  match c.row with
  | none => .error (.execution .notPositioned)
  | some row =>
    match index with
    | 0 => .error (.invalidColumnIndex 0 row.length)
    | i + 1 =>
      match row[i]? with
      | some v => .ok v
      | none => .error (.invalidColumnIndex index row.length)

def declaredScale (c : Cursor) (index : Nat) : Option Nat :=
  match index with
  | 0 => none
  | i + 1 => do
    let column ← (← c.columns)[i]?
    if column.atom = .decimal then column.scale else none

inductive ReadRequest where
  | plain
  | calendar (offset : Offset)
  | scale (scale : Nat)
deriving DecidableEq, Repr

def contextFor (c : Cursor) (s : Session) (index : Nat) : ReadRequest → ConversionContext
  | .plain => ⟨s.conversion, none, c.declaredScale index, none⟩
  | .calendar offset => ⟨s.conversion, some offset, none, none⟩
  | .scale scale => ⟨s.conversion, none, some scale, none⟩

def withChannel (ctx : ConversionContext) (v : WireValue) (target : Target) :
    Method ConversionContext := do
  match v.lobFor? ctx target with
  | none => return ctx
  | some id =>
    if (← cursor).isClosed then return ctx
    let content ← Action.attempt (call (.readLob id))
    return { ctx with lobs := some fun _ => content }

/-- Reads a column of the current row. Whether the value was null is noted even where it does not
convert, unless the conversion leaves the calendar. -/
def read (index : Nat) (reader : ColumnReader) (asked : ReadRequest) : Method HostValue := do
  let ctx := (← cursor).contextFor (← session) index asked
  let v ← Action.ofExcept ((← cursor).valueAt index)
  let ctx ← withChannel ctx v reader.target
  match reader.read ctx v with
  | .error .outsideCalendar => throw .outsideCalendar
  | converted =>
    change fun c => { c with wasNull := v == .null }
    Action.ofExcept converted

def readDecimal (index scale : Nat) : Method (Option Decimal) := do
  return (← read index ⟨.decimal⟩ (.scale scale)).decimal?

def sameName (a b : String) : Bool :=
  a.toList.map Text.lowerAscii == b.toList.map Text.lowerAscii

def find (name : String) : Method Nat := do
  let columns ← knownColumns
  match columns.findIdx? fun column => column.name.any fun n => sameName n name with
  | some i => return i + 1
  | none => throw (.execution (.noColumn name))

def drop : Method Unit :=
  Action.bestEffort close

end Cursor

namespace Session

/-- Opens a cursor in the current transaction. With `owned` the prepared statement goes with the cursor,
and is given back where there will be none. -/
def query (limits : StatementLimits) (prepared : Prepared) (owned : Bool)
    (parameters : List Parameter) : Action Session Cursor := do
  match ← Action.attempt getOrBegin with
  | .error e =>
    if owned then dispose prepared
    throw e
  | .ok tx =>
    match ← Action.attempt (call (.query tx prepared.id parameters) limits.timeout) with
    | .ok result =>
      let maxRows := limits.maxRows.or (← get).maxRows
      return {
        transaction := tx
        resources := some ⟨result, if owned then some prepared else none⟩
        columns := none
        row := none
        rowNumber := 0
        limits := { limits with maxRows := maxRows }
        afterLast := false
        wasNull := false }
    | .error e =>
      if owned then dispose prepared
      abortAfter tx e
      throw e

end Session

end SqlClient
