import SqlClient.Server.Perform

namespace SqlClient

inductive Arrangement where
  | createTable (name : String) (columns : List Column)
  | seed (table : String) (rows : List Row)
  | script (sql : String) (result : Table)
  | putLob (content : Bytes)
  | failNext (op : Operation) (detail : String)
  | delay (op : Operation) (ms : Milliseconds)
  | clearDelays
deriving DecidableEq, Repr

abbrev Arrangement.Answer : Arrangement → Type
  | putLob _ => LobId
  | _ => Unit

def Server.arrange (s : Server) : (a : Arrangement) → a.Answer × Server
  | .createTable name columns => ((), s.createTable name columns)
  | .seed table rows => ((), rows.foldl (fun s row => s.seed table row) s)
  | .script sql result => ((), s.script sql result)
  | .putLob content => s.putLob content
  | .failNext op detail => ((), s.failNext op detail)
  | .delay op ms => ((), s.delay op ms)
  | .clearDelays => ((), s.clearDelays)

end SqlClient
