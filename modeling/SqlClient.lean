import SqlClient.Client
import SqlClient.Proofs.Atomicity
import SqlClient.Transaction.Document
import SqlClient.Proofs.ConversionErrors
import SqlClient.Proofs.Executions
import SqlClient.Proofs.Steering
import SqlClient.Proofs.Holdings
import SqlClient.Proofs.Calls
import SqlClient.Proofs.Completions
import SqlClient.Proofs.ManualTransactions
import SqlClient.Proofs.TimedOut
import SqlClient.Proofs.Attendance
import SqlClient.Proofs.OwnedObjects
import SqlClient.Proofs.NoLeaks
import SqlClient.Proofs.RoundTrips
import SqlClient.Proofs.ClosedConnections
import SqlClient.Proofs.CompletionRules
import SqlClient.Proofs.DeclaredNumbers
import SqlClient.Proofs.CursorRows
import SqlClient.Proofs.ParameterTypes
import SqlClient.Proofs.ObjectReadings
import SqlClient.Proofs.Rescaling
import SqlClient.Proofs.IntegerLiterals
import SqlClient.Proofs.ZonedText
import SqlClient.Proofs.BatchedUpdates
import SqlClient.Proofs.FailedBinds
import SqlClient.Proofs.FailedQueueing
import SqlClient.Proofs.CalendarReadings
import SqlClient.Proofs.FailedStatements
import SqlClient.Proofs.DecimalLiterals
import SqlClient.Proofs.OffsetTimeLiterals
import SqlClient.Proofs.IntegerNarrowing
import SqlClient.Proofs.BegunOptions
import SqlClient.Proofs.OffsetMoves
import SqlClient.Proofs.RetypedPositions
import SqlClient.Proofs.WrittenOptions
import SqlClient.Proofs.Publishing
