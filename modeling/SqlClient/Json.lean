/-!
JSON documents. Numbers keep their text, objects the order and the repetitions of their members. The
text of a string is missing where an escape names half of a surrogate pair: such a document is well
formed, but the string has no text.
-/

namespace SqlClient

inductive Json where
  | null
  | boolean (b : Bool)
  | number (text : List Char)
  | string (text : Option String)
  | array (items : List Json)
  | object (members : List (Option String × Json))
deriving Repr, Inhabited

namespace Json

def ofString (s : String) : Json :=
  .string (some s)

def string? : Json → Option String
  | .string text => text
  | _ => none

end Json

end SqlClient
