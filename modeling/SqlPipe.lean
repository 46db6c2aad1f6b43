import SqlPipe.Engine.Rehearsal
import SqlPipe.Main
import SqlPipe.Pool.Session
import SqlPipe.Workers.Shift
import SqlPipe.Proofs.Journal.Ledger
import SqlPipe.Proofs.Journal.Rows
import SqlPipe.Proofs.Line.Steps
import SqlPipe.Proofs.Engine.Settled
import SqlPipe.Proofs.Engine.Runs
import SqlPipe.Proofs.Engine.Barriers
import SqlPipe.Proofs.Engine.Isolation
import SqlPipe.Proofs.Engine.Sessions
import SqlPipe.Proofs.Engine.Custody
import SqlPipe.Proofs.Script.Streams
import SqlPipe.Proofs.Script.Lossless
import SqlPipe.Proofs.Source.Cuts
import SqlPipe.Proofs.Engine.Depth
import SqlPipe.Proofs.Engine.Savepoints
import SqlPipe.Proofs.Sql.Clauses
import SqlPipe.Proofs.Sql.RoundTrip
import SqlPipe.Proofs.Text.Search
import SqlPipe.Proofs.Workers.Crew
import SqlPipe.Proofs.Engine.Solo
import SqlPipe.Proofs.Sql.Openings
import SqlPipe.Proofs.Classify.Keywords
import SqlPipe.Proofs.Classify.Grammar
import SqlPipe.Proofs.Classify.OneLine
import SqlPipe.Proofs.Sql.Comments
import SqlPipe.Proofs.Classify.PlainInserts
import SqlPipe.Proofs.Engine.Harmless
import SqlPipe.Proofs.Engine.Quiet
import SqlPipe.Proofs.Engine.Cancellation
import SqlPipe.Proofs.Classify.Blank
import SqlPipe.Proofs.Classify.Lost
import SqlPipe.Proofs.Journal.Merging
import SqlPipe.Proofs.Engine.Trials
import SqlPipe.Proofs.Engine.Flushes
import SqlPipe.Proofs.Engine.Waiting
import SqlPipe.Proofs.Engine.Pressure
import SqlPipe.Proofs.Engine.Shapes
import SqlPipe.Proofs.Text.Encoding
import SqlPipe.Proofs.Script.Delimiters
import SqlPipe.Proofs.Script.Identifiers
import SqlPipe.Proofs.Engine.Closing
import SqlPipe.Proofs.Classify.Insensitive
import SqlPipe.Proofs.Sql.Targets
import SqlPipe.Proofs.Script.Again
import SqlPipe.Proofs.Engine.Counters
import SqlPipe.Proofs.Address.Servers
import SqlPipe.Proofs.Address.Parameters
import SqlPipe.Proofs.Address.Passwords
import SqlPipe.Proofs.Line.Polling
import SqlPipe.Proofs.Pool.Limits
import SqlPipe.Proofs.Pool.Stragglers
import SqlPipe.Proofs.Pool.Memory
