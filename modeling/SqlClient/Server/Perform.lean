import SqlClient.Server.State

namespace SqlClient

namespace ServerError

def transactionNotOpen (tx : TransactionId) : ServerError :=
  ⟨"transaction " ++ toString tx.number ++ " is not open", none⟩

def tableNotFound (name : String) : ServerError :=
  ⟨"table " ++ name ++ " not found", none⟩

def unknownPrepared : ServerError :=
  ⟨"unknown prepared statement", none⟩

def cursorNotOpen (cursor : CursorId) : ServerError :=
  ⟨"cursor " ++ toString cursor.number ++ " is not open", none⟩

def lobNotFound (lob : LobId) : ServerError :=
  ⟨"large object " ++ toString lob.number ++ " not found", none⟩

def arranged (detail : String) : ServerError :=
  ⟨detail, some "INJECTED"⟩

end ServerError

namespace Server

def begin (s : Server) (options : TransactionOptions) : TransactionId × Server :=
  let (n, s) := s.number
  (⟨n⟩, { s with transactions := s.transactions.put ⟨n⟩ [], lastOptions := some options }.record
    (.began ⟨n⟩))

def tablesAfter (s : Server) (writes : List Write) : Completion → Keyed String Table
  | .commit => writes.foldl applyWrite s.tables
  | .rollback => s.tables

def complete (s : Server) (how : Completion) (tx : TransactionId) :
    Except ServerError Unit × Server :=
  match s.transactions.get? tx with
  | none => (.error (.transactionNotOpen tx), s)
  | some writes =>
    (.ok (), { s with tables := s.tablesAfter writes how
                      transactions := s.transactions.put tx [] }.record (.completed how tx))

def closeTransaction (s : Server) (tx : TransactionId) : Server :=
  { s with transactions := s.transactions.erase tx }.record (.transactionClosed tx)

def returnsRows (s : Server) (sql : String) : Bool :=
  s.scripts.contains sql || Sql.isSelection sql ||
    match Sql.shape sql with
    | .select _ => true
    | _ => false

def prepare (s : Server) (sql : String) (placeholders : List Placeholder) : Prepared × Server :=
  let (n, s) := s.number
  (⟨⟨n⟩, s.returnsRows sql⟩, { s with prepared := s.prepared.put ⟨n⟩ sql }.record
    (.prepared ⟨n⟩ (placeholders.map Placeholder.atom)))

def dispose (s : Server) (id : PreparedId) : Server :=
  { s with prepared := s.prepared.erase id }.record (.disposed id)

def resultOf (s : Server) (tx : TransactionId) (sql : String) : Except ServerError OpenResult :=
  match s.scripts.get? sql with
  | some result => .ok ⟨result.columns, result.rows⟩
  | none =>
    match Sql.shape sql with
    | .select name =>
      match s.tables.get? name with
      | some table => .ok ⟨table.columns, s.visibleRows tx name⟩
      | none => .error (.tableNotFound name)
    | _ => .ok ⟨[], []⟩

def openResult (s : Server) (tx : TransactionId) (result : OpenResult) : CursorId × Server :=
  let (n, s) := s.number
  (⟨n⟩, { s with cursors := s.cursors.put ⟨n⟩ result }.record (.queried tx ⟨n⟩))

def query (s : Server) (tx : TransactionId) (id : PreparedId) :
    Except ServerError CursorId × Server :=
  if s.transactions.contains tx then
    match s.prepared.get? id with
    | none => (.error .unknownPrepared, s)
    | some sql =>
      match s.resultOf tx sql with
      | .error e => (.error e, s)
      | .ok result =>
        let (cursor, s) := s.openResult tx result
        (.ok cursor, s)
  else (.error (.transactionNotOpen tx), s)

def effectOf (s : Server) (tx : TransactionId) (parameters : List Parameter) :
    SqlShape → Except ServerError (Option Write × Nat)
  | .insert name literals =>
    if s.tables.contains name then
      let bound := parameters.map Parameter.value
      let row := if parameters.isEmpty then literals.getD bound else bound
      .ok (some (.insert name row), 1)
    else .error (.tableNotFound name)
  | .delete name => .ok (some (.clear name), (s.visibleRows tx name).length)
  | .select _ | .other => .ok (none, 0)

def execute (s : Server) (tx : TransactionId) (id : PreparedId) (parameters : List Parameter) :
    Except ServerError Nat × Server :=
  match s.prepared.get? id with
  | none => (.error .unknownPrepared, s)
  | some sql =>
    match s.effectOf tx parameters (Sql.shape sql) with
    | .error e => (.error e, s)
    | .ok (write, count) =>
      match s.transactions.get? tx with
      | none => (.error (.transactionNotOpen tx), s)
      | some writes =>
        (.ok count, { s with transactions := s.transactions.put tx (writes ++ write.toList) }.record
          (.executed tx count))

def describe (s : Server) (cursor : CursorId) : Except ServerError (List Column) :=
  match s.cursors.get? cursor with
  | some result => .ok result.columns
  | none => .error (.cursorNotOpen cursor)

def fetch (s : Server) (cursor : CursorId) : Except ServerError (Option Row) × Server :=
  match s.cursors.get? cursor with
  | none => (.error (.cursorNotOpen cursor), s)
  | some result =>
    (.ok result.rows.head?,
      { s with cursors := s.cursors.update cursor fun r => { r with rows := r.rows.tail } })

def closeCursor (s : Server) (cursor : CursorId) : Server :=
  { s with cursors := s.cursors.erase cursor }.record (.cursorClosed cursor)

def readLob (s : Server) (lob : LobId) : Except ServerError Bytes :=
  match s.lobs.get? lob with
  | some content => .ok content
  | none => .error (.lobNotFound lob)

def perform (s : Server) : (r : Request) → Except ServerError r.Answer × Server
  | .begin options =>
    let (tx, s) := s.begin options
    (.ok tx, s)
  | .complete how tx => s.complete how tx
  | .closeTransaction tx => (.ok (), s.closeTransaction tx)
  | .prepare sql placeholders =>
    let (prepared, s) := s.prepare sql placeholders
    (.ok prepared, s)
  | .dispose id => (.ok (), s.dispose id)
  | .query tx id _ => s.query tx id
  | .execute tx id parameters => s.execute tx id parameters
  | .describe cursor => (s.describe cursor, s)
  | .fetch cursor => s.fetch cursor
  | .closeCursor cursor => (.ok (), s.closeCursor cursor)
  | .readLob lob => (s.readLob lob, s)

def takeFailure (s : Server) (op : Operation) : Option ServerError × Server :=
  match s.failures.find? fun f => f.1 = op with
  | none => (none, s)
  | some (_, detail) =>
    (some (.arranged detail), { s with failures := s.failures.eraseP fun f => f.1 = op })

def answer (s : Server) (r : Request) : Except ServerError r.Answer × Server :=
  match s.takeFailure r.operation with
  | (some e, s) => (.error e, s)
  | (none, s) => s.perform r

end Server

end SqlClient
