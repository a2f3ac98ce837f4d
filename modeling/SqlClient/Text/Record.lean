namespace SqlClient.Text

def item (field value : String) : String :=
  field ++ ": " ++ value

def record (name : String) (items : List String) : String :=
  name ++ " \x7b " ++ String.intercalate ", " items ++ " \x7d"

def option : Option String → String
  | none => "None"
  | some s => "Some(" ++ s ++ ")"

end SqlClient.Text
