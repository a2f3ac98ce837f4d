import SqlClient.Json.Reader
import SqlClient.Json.Writer
import SqlClient.Transaction.Options

/-!
Transaction options as JSON. A document leaves out what is not set and lists that are empty. Reading
also takes an array of the eight values in order, and an object with one null member in place of a name.
-/

namespace SqlClient.TransactionOptions

def namedIf (name : String) (value : Option Json) : List (Option String × Json) :=
  (value.map fun v => (some name, v)).toList

def listJson (names : List String) : Option Json :=
  if names.isEmpty then none else some (.array (names.map Json.ofString))

def toJson (o : TransactionOptions) : Json :=
  .object <|
    namedIf "type" (some (.ofString o.kind.name)) ++
    namedIf "label" (o.label.map Json.ofString) ++
    namedIf "include_ddl" (o.includeDdl.map Json.boolean) ++
    namedIf "write_preserve" (listJson o.writePreserve) ++
    namedIf "inclusive_read_area" (listJson o.inclusiveReadArea) ++
    namedIf "exclusive_read_area" (listJson o.exclusiveReadArea) ++
    namedIf "scan_parallel" (o.scanParallel.map fun n => .number (Text.digits n.toNat)) ++
    namedIf "priority" (o.priority.map fun p => .ofString p.name)

def name? : Json → Option String
  | .string text => text
  | .object [(name, .null)] => name
  | _ => none

def nullable? {α : Type} (read : Json → Option α) : Json → Option (Option α)
  | .null => some none
  | v => (read v).map some

def boolean? : Json → Option Bool
  | .boolean b => some b
  | _ => none

def word? : Json → Option UInt32
  | .number text =>
    if text.all Text.isDigit ∧ Text.ofDigits text < UInt32.size then
      some (Text.ofDigits text).toUInt32
    else none
  | _ => none

def names? : Json → Option (List String)
  | .array items => items.mapM Json.string?
  | _ => none

def ofFields? (kind label ddl write inclusive exclusive scan priority : Json) :
    Option TransactionOptions := do
  return {
    kind := ← name? kind >>= TransactionKind.ofName?
    label := ← nullable? Json.string? label
    includeDdl := ← nullable? boolean? ddl
    writePreserve := ← names? write
    inclusiveReadArea := ← names? inclusive
    exclusiveReadArea := ← names? exclusive
    scanParallel := ← nullable? word? scan
    priority := ← nullable? (fun v => name? v >>= Priority.ofName?) priority }

def member? (members : List (String × Json)) (name : String) (absent : Option Json) :
    Option Json :=
  match members.filter fun m => m.1 = name with
  | [] => absent
  | [(_, value)] => some value
  | _ => none

def ofMembers? (members : List (Option String × Json)) : Option TransactionOptions := do
  let ms ← members.mapM fun m => m.1.map fun name => (name, m.2)
  ofFields? (← member? ms "type" none) (← member? ms "label" (some .null))
    (← member? ms "include_ddl" (some .null)) (← member? ms "write_preserve" (some (.array [])))
    (← member? ms "inclusive_read_area" (some (.array [])))
    (← member? ms "exclusive_read_area" (some (.array [])))
    (← member? ms "scan_parallel" (some .null)) (← member? ms "priority" (some .null))

def ofJson? : Json → Option TransactionOptions
  | .object members => ofMembers? members
  | .array [kind, label, ddl, write, inclusive, exclusive, scan, priority] =>
    ofFields? kind label ddl write inclusive exclusive scan priority
  | _ => none

def read? (text : String) : Option TransactionOptions :=
  Json.read? text.toList >>= ofJson?

def write (o : TransactionOptions) : String :=
  String.ofList o.toJson.write

end SqlClient.TransactionOptions
