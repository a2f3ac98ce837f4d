import SqlClient.Server.Perform
import SqlClient.Session.State

/-!
Putting a request to the server. Every request of a session goes through `Session.call`: it waits for
the arranged delay, it runs into its timeout or is answered, a refusal becomes the failure that goes
with its operation, and the request is noted with its outcome.
-/

namespace SqlClient

def Operation.failure : Operation → ServerError → Error
  | .begin, e => .begin e
  | .commit, e => .commit e
  | .rollback, e => .rollback e
  | .prepare, e | .execute, e | .fetch, e => .execution (.server e)
  | .close, e => .server e

namespace Session

def expired? (s : Session) (op : Operation) (timeout : Option Milliseconds) :
    Option Milliseconds :=
  (timeout.or (s.timeouts.resolve op)).filter fun limit => limit < s.server.delayOf op

/-- What comes of a request, and the server afterwards; `timeout` goes before the configured one. A
request that times out never reaches the server. -/
def put (s : Session) (r : Request) (timeout : Option Milliseconds) :
    Except Error r.Answer × Server :=
  match s.expired? r.operation timeout with
  | some limit => (.error (.timeout r.operation limit), s.server)
  | none =>
    match s.server.answer r with
    | (.ok a, server) => (.ok a, server)
    | (.error e, server) => (.error (r.operation.failure e), server)

def call (r : Request) (timeout : Option Milliseconds) : Action Session r.Answer := fun s =>
  let (outcome, server) := s.put r timeout
  let s := { s with server := server, exchanges := s.exchanges ++ [⟨r, outcome⟩] }
  match outcome with
  | .ok a => .ok a s
  | .error e => .error e s

end Session

end SqlClient
