import SqlClient.Number.Decimal.Literal
import SqlClient.Conversion.Numeric
import SqlClient.Text.Blank
import SqlClient.Value.Wire

namespace SqlClient

abbrev Row := List WireValue

inductive SqlShape where
  | insert (table : String) (row : Option Row)
  | delete (table : String)
  | select (table : String)
  | other
deriving DecidableEq, Repr

namespace Sql

def lower (cs : List Char) : List Char :=
  cs.map Text.lowerAscii

def isSeparator (c : Char) : Bool :=
  Text.isBlank c || c = '(' || c = ';'

def tableAfter? (opening sql : List Char) : Option String := do
  let rest ← Text.strip? opening (lower (Text.trim sql))
  let name := (rest.dropWhile isSeparator).takeWhile fun c => !isSeparator c
  if name.isEmpty then none else some (String.ofList name)

def unquote : List Char → List Char
  | '\'' :: '\'' :: cs => '\'' :: unquote cs
  | c :: cs => c :: unquote cs
  | [] => []

def quoted? : List Char → Option (List Char)
  | '\'' :: cs => if cs.getLast? = some '\'' then some (unquote cs.dropLast) else none
  | _ => none

def readLiteral (cs : List Char) : WireValue :=
  let cs := Text.trim cs
  if lower cs = "null".toList then .null
  else match quoted? cs with
    | some inner => .character (String.ofList inner)
    | none =>
      match readInteger .long cs with
      | .ok n => .int8 (Int64.ofInt n)
      | .error _ =>
        match Decimal.read? .round cs with
        | some d => .decimal d
        | none => .character (String.ofList cs)

def afterWord? (word : List Char) : List Char → Option (List Char)
  | [] => none
  | c :: cs =>
    if word.isPrefixOf (lower (c :: cs)) then some ((c :: cs).drop word.length)
    else afterWord? word cs

def dropEndWhile (p : Char → Bool) (cs : List Char) : List Char :=
  (cs.reverse.dropWhile p).reverse

def splitCommas : List Char → List (List Char)
  | [] => [[]]
  | c :: cs =>
    if c = ',' then [] :: splitCommas cs
    else match splitCommas cs with
      | piece :: pieces => (c :: piece) :: pieces
      | [] => [[c]]

def valuesClause? (sql : List Char) : Option Row := do
  match Text.trim (← afterWord? "values".toList sql) with
  | '(' :: body =>
    let body := Text.trimEnd (dropEndWhile (· = ';') (Text.trimEnd body))
    if body.getLast? = some ')' then some ((splitCommas body.dropLast).map readLiteral) else none
  | _ => none

def shape (text : String) : SqlShape :=
  let sql := text.toList
  match tableAfter? "insert into ".toList sql with
  | some table => .insert table (valuesClause? sql)
  | none =>
    match tableAfter? "delete from ".toList sql with
    | some table => .delete table
    | none =>
      match tableAfter? "select * from ".toList sql with
      | some table => .select table
      | none => .other

def isSelection (text : String) : Bool :=
  "select".toList.isPrefixOf (lower (Text.skipBlanks text.toList))

end Sql

end SqlClient
