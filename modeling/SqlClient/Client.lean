import SqlClient.Client.State

namespace SqlClient

open Client

def ConnectionCall.perform : (c : ConnectionCall) → Action Client c.Answer
  | .statement keep => keepStatement keep
  | .prepare keep sql => keepPrepared keep sql
  | .setAutocommit on => onSession (modify fun s => { s with autocommit := on })
  | .complete how => onSession (Session.completeOpen how)
  | .transaction keep => keepTransaction keep Session.transaction
  | .current keep => do
    let tx ← onSession Session.current
    keepHandle keep tx
    return tx
  | .requireActive keep => keepTransaction keep Session.requireActive
  | .requireNone => onSession Session.requireNone
  | .changeSettings change =>
    onSession (modify fun s => { s with settings := s.settings.set change })
  | .buildOptions => onSession Session.buildOptions
  | .close => onSession Session.close
  | .drop => Action.bestEffort (onSession Session.close)

def CoordinatorCall.perform : (c : CoordinatorCall) → Action Client c.Answer
  | .transaction keep => keepTransaction keep Session.getOrBegin
  | .complete how => onSession (Session.completeLive how)
  | .close => onSession Session.abandon

def HandleCall.perform (tx : TransactionId) : HandleCall → Action Client Unit
  | .complete how => onSession (Session.complete how tx)
  | .finish => onSession (Session.finish tx)

def StatementCall.perform (n : Nat) (st : Statement) : (c : StatementCall) → Action Client c.Answer
  | .query keep sql => keepCursor keep (onSession (st.executeQuery sql))
  | .update sql => onSession (st.executeUpdate sql)
  | .execute keep sql => keepOutcome keep (onSession (st.execute sql))
  | .addBatch sql => changeStatement n (st.addBatch sql)
  | .clearBatch => changeStatement n st.clearBatch
  | .executeBatch => onStatement n st Statement.executeBatch
  | .setMaxRows max => changeStatement n (st.setMaxRows max)
  | .setTimeout timeout => changeStatement n (st.setTimeout timeout)
  | .close => changeStatement n st.close

def PreparedCall.perform (n : Nat) (p : PreparedStatement) :
    (c : PreparedCall) → Action Client c.Answer
  | .bind index value declared => onPrepared n p (PreparedStatement.bind index value declared)
  | .clearParameters => changePrepared n p.clearParameters
  | .query keep => keepCursor keep (onPrepared n p PreparedStatement.executeQuery)
  | .update => onPrepared n p PreparedStatement.executeUpdate
  | .execute keep => keepOutcome keep (onPrepared n p PreparedStatement.execute)
  | .addBatch => onPrepared n p PreparedStatement.addBatch
  | .clearBatch => changePrepared n p.clearBatch
  | .executeBatch => onPrepared n p PreparedStatement.executeBatch
  | .setMaxRows max => changePrepared n (p.setMaxRows max)
  | .setTimeout timeout => changePrepared n (p.setTimeout timeout)
  | .close => onPrepared n p PreparedStatement.close
  | .drop => dropPrepared n

def CursorCall.perform (n : Nat) (c : Cursor) : (call : CursorCall) → Action Client call.Answer
  | .advance => onCursor n c Cursor.advance
  | .columns => onCursor n c Cursor.knownColumns
  | .find name => onCursor n c (Cursor.find name)
  | .read index target => onCursor n c (Cursor.read index ⟨target⟩ .plain)
  | .readInZone index target zone => onCursor n c (Cursor.read index ⟨target⟩ (.calendar zone))
  | .readDecimal index scale => onCursor n c (Cursor.readDecimal index scale)
  | .close => onCursor n c Cursor.close
  | .drop => dropCursor n

namespace Client

variable {α : Type}

def run (x : Action Client α) (k : Client) : Except Error α × Client :=
  match x k with
  | .ok a k => (.ok a, k)
  | .error e k => (.error e, k)

def runOn {ο : Type} (object : Option ο) (x : ο → Action Client α) (k : Client) :
    Option (Except Error α) × Client :=
  match object with
  | none => (none, k)
  | some o =>
    let (outcome, k) := run (x o) k
    (some outcome, k)

def call (k : Client) : (c : Call) → Option (Except Error c.Answer) × Client
  | .connection c => runOn (some ()) (fun _ => c.perform) k
  | .coordinator c => runOn (some ()) (fun _ => c.perform) k
  | .handle n c => runOn (k.handles.get? n) (fun tx => c.perform tx) k
  | .statement n c => runOn (k.statements.get? n) (fun st => c.perform n st) k
  | .prepared n c => runOn (k.prepared.get? n) (fun p => c.perform n p) k
  | .cursor n c => runOn (k.cursors.get? n) (fun cursor => c.perform n cursor) k

def onServer (k : Client) (server : Server) : Client :=
  { k with session := { k.session with server := server } }

def step (k : Client) : (c : Command) → c.Answer × Client
  | .arrange a =>
    let (answer, server) := k.session.server.arrange a
    (answer, k.onServer server)
  | .call c => k.call c
  | .direct r =>
    let (answer, server) := k.session.server.answer r
    (answer, k.onServer server)

def after (k : Client) (cs : List Command) : Client :=
  cs.foldl (fun k c => (k.step c).2) k

end Client

end SqlClient
