import SqlPipe.Classify.Parsed
import SqlPipe.Engine.Line

/-!
# The sink

The end of a pipe.  A sink sends each statement to the connections that its class asks for:

* rows of plain inserts wait in buffers, one for each target, until a flush sends them as batches;
* a statement that opens a transaction binds the sink to one connection, the sentry, until the
  transaction ends;
* a statement that changes the session runs on every connection, and during a transaction on the
  sentry first and on the others when the transaction has ended;
* every other statement runs once.

Every statement that is not buffered first flushes the buffers, so nothing overtakes it.  A
destination of a single connection gets all statements as they are, in order, on that connection.
-/

namespace SqlPipe

/-- What a pipe has done. -/
structure Stats where
  executed : Nat
  /-- Statements of unknown class, which are not sent. -/
  skipped : Nat
  bufferedRows : Nat
  batches : Nat
  flushes : Nat
  deriving DecidableEq, Repr

/-- The connection of an open transaction, with the number of ends that will close it. -/
structure Sentry where
  connection : Connection
  depth : Nat
  deriving DecidableEq, Repr

/-- The end of a pipe. -/
structure Sink where
  batchCap : Nat
  /-- The rows that wait, as one insert for each target, in the order in which the targets came. -/
  buffers : List Insert
  buffered : Nat
  sentry : Option Sentry
  /-- Session statements that only the sentry has run. -/
  deferred : List String
  /-- The connection of a destination that has no other. -/
  pinned : Option Connection
  stats : Stats
  deriving DecidableEq, Repr

def defaultBatchCap : Nat := 500

namespace Sink

/-- A sink that has not been used.  A cap of zero asks for the default. -/
def fresh (batchCap : Nat) : Sink where
  batchCap := if batchCap = 0 then defaultBatchCap else batchCap
  buffers := []
  buffered := 0
  sentry := none
  deferred := []
  pinned := none
  stats := ⟨0, 0, 0, 0, 0⟩

def inTransaction (sink : Sink) : Bool := sink.sentry.isSome

def addRows (insert : Insert) : List Insert → List Insert
  | [] => [insert]
  | buffer :: others =>
      if buffer.target = insert.target then
        { buffer with rows := buffer.rows ++ insert.rows } :: others
      else buffer :: addRows insert others

def pending (target : String) (buffers : List Insert) : List Row :=
  match buffers.find? (·.target = target) with
  | some buffer => buffer.rows
  | none => []

def addInsert (sink : Sink) (insert : Insert) : Sink :=
  let count := insert.rows.length
  { sink with
    buffers := addRows insert sink.buffers
    buffered := sink.buffered + count
    stats := { sink.stats with bufferedRows := sink.stats.bufferedRows + count } }

end Sink

structure Engine (σ : Type) where
  sink : Sink
  line : Line σ

namespace Engine

variable {σ : Type} (destination : Destination σ)

def fresh (batchCap : Nat) (world : σ) : Engine σ := ⟨.fresh batchCap, ⟨world, []⟩⟩

def report (engine : Engine σ) (level : Level) (message : String) : Engine σ :=
  { engine with line := engine.line.report level message }

def note (engine : Engine σ) (action : Action) : Engine σ :=
  { engine with line := engine.line.note action }

def after (engine : Engine σ) (done : Outcome × Line σ) : Outcome × Engine σ :=
  (done.1, { engine with line := done.2 })

def runOn (engine : Engine σ) (connection : Connection) (message : Message) :
    Outcome × Engine σ :=
  engine.after (engine.line.run destination connection message)

def release (engine : Engine σ) (connection : Connection) : Engine σ :=
  { engine with line := engine.line.release destination connection }

def countExecuted (n : Nat) (engine : Engine σ) : Engine σ :=
  let stats := engine.sink.stats
  { engine with sink.stats := { stats with executed := stats.executed + n } }

def countBatches (n : Nat) (engine : Engine σ) : Engine σ :=
  let stats := engine.sink.stats
  { engine with
    sink.stats := { stats with executed := stats.executed + n, batches := stats.batches + n } }

def counted (done : Outcome × Engine σ) : Outcome × Engine σ :=
  andThen done fun engine => (.ok (), engine.countExecuted 1)

/-! ## Flushing -/

def flushOnSentry (engine : Engine σ) (connection : Connection) :
    List Insert → Outcome × Engine σ
  | [] => (.ok (), engine)
  | batch :: others =>
      andThen (engine.runOn destination connection (.batch batch)) fun engine =>
        flushOnSentry (engine.countBatches 1) connection others

/-- The engine with empty buffers, one flush later. -/
def emptied (engine : Engine σ) : Engine σ :=
  let sink := engine.sink
  let batches := toString sink.buffers.length
  let stats := { sink.stats with flushes := sink.stats.flushes + 1 }
  ({ engine with sink := { sink with buffers := [], buffered := 0, stats } }.note .emptied).report
    .debug ("Flushing " ++ batches ++ " batches (" ++ toString sink.buffered ++ " rows)")

/-- Sends all rows that wait.  The buffers are empty afterwards, whatever becomes of the rows. -/
def flush (engine : Engine σ) : Outcome × Engine σ :=
  let sink := engine.sink
  if sink.buffers.isEmpty then (.ok (), engine)
  else
    -- taken out before they are sent, so that no row is sent twice behind a failure
    let batches := sink.buffers
    let engine := engine.emptied
    match sink.sentry with
    | some sentry => engine.flushOnSentry destination sentry.connection batches
    | none =>
        andThen (engine.after (engine.line.runBatches destination batches)) fun engine =>
          (.ok (), engine.countBatches batches.length)

def flushed (engine : Engine σ) (next : Engine σ → Outcome × Engine σ) : Outcome × Engine σ :=
  andThen (engine.flush destination) next

/-! ## Routing -/

/-- Lets the rows of an insert wait.  A flush follows when rows or targets have become too many. -/
def buffer (engine : Engine σ) (insert : Insert) : Outcome × Engine σ :=
  let sink := engine.sink.addInsert insert
  let engine := { engine with sink }.note (.buffered insert)
  let pending := (Sink.pending insert.target sink.buffers).length
  -- a flush outside of transactions checks out a connection for each target
  if pending ≥ sink.batchCap || sink.buffers.length ≥ destination.maxOpen then
    engine.flush destination
  else (.ok (), engine)

def runOnce (engine : Engine σ) (text : String) : Outcome × Engine σ :=
  counted (match engine.sink.sentry with
    | some sentry => engine.runOn destination sentry.connection (.statement text)
    | none => engine.after (engine.line.runOnce destination (.statement text)))

def bindTo (engine : Engine σ) (connection : Connection) : Engine σ :=
  { engine with sink.sentry := some ⟨connection, 0⟩ }.note (.bound connection)

def unbind (engine : Engine σ) : Engine σ :=
  { engine with sink.sentry := none }.note .unbound

/-- Opens a transaction or a savepoint on the sentry.  A transaction that does not open leaves no
sentry. -/
def beginOn (engine : Engine σ) (sentry : Sentry) (text : String) : Outcome × Engine σ :=
  match engine.runOn destination sentry.connection (.statement text) with
  | (.ok (), engine) =>
      let engine :=
        { engine with sink.sentry := some { sentry with depth := sentry.depth + 1 } }
      (.ok (), engine.countExecuted 1)
  | (.error failure, engine) =>
      if sentry.depth = 0 then
        (.error failure, engine.unbind.release destination sentry.connection)
      else (.error failure, engine)

def begin (engine : Engine σ) (text : String) : Outcome × Engine σ :=
  match engine.sink.sentry with
  | some sentry => engine.beginOn destination sentry text
  | none =>
      match engine.line.acquire destination with
      | (.ok connection, line) =>
          ({ engine with line }.bindTo connection).beginOn destination ⟨connection, 0⟩ text
      | (.error failure, line) => (.error failure, { engine with line })

/-- Runs deferred session statements on all connections but the old sentry, which stays checked out
until then so that none of them is it. -/
def replay (engine : Engine σ) (deferred : List String) : Outcome × Engine σ :=
  if deferred.isEmpty then (.ok (), engine)
  else
    let engine := engine.report .debug ("Replaying " ++ toString deferred.length ++
      " session statements after transaction end")
    engine.after (engine.line.runOnMany destination deferred (destination.maxOpen - 1))

def endOn (engine : Engine σ) (sentry : Sentry) (text : String) : Outcome × Engine σ :=
  let (outcome, engine) := engine.runOn destination sentry.connection (.statement text)
  -- the end counts whatever has become of its statement
  let depth := sentry.depth - 1
  if depth > 0 then
    counted (outcome, { engine with sink.sentry := some { sentry with depth } })
  else
    let deferred := engine.sink.deferred
    let engine := { engine with sink.deferred := [] }.unbind
    let (outcome, engine) :=
      andThen (counted (outcome, engine)) fun engine => engine.replay destination deferred
    (outcome, engine.release destination sentry.connection)

def finish (engine : Engine σ) (text : String) : Outcome × Engine σ :=
  match engine.sink.sentry with
  | some sentry => engine.endOn destination sentry text
  | none =>
      let engine := engine.report .warning
        ("Transaction end without an open transaction: " ++ excerpt text)
      engine.runOnce destination text

/-- Runs a session statement on every connection, or on the sentry for the time being. -/
def broadcast (engine : Engine σ) (text : String) : Outcome × Engine σ :=
  counted (match engine.sink.sentry with
    | some sentry =>
        andThen (engine.runOn destination sentry.connection (.statement text)) fun engine =>
          (.ok (), { engine with sink.deferred := engine.sink.deferred ++ [text] })
    | none => engine.after (engine.line.runOnMany destination [text] destination.maxOpen))

/-- Runs a statement on the only connection, which stays checked out. -/
def runPinned (engine : Engine σ) (text : String) : Outcome × Engine σ :=
  match engine.sink.pinned with
  | some connection => counted (engine.runOn destination connection (.statement text))
  | none =>
      match engine.line.acquire destination with
      | (.ok connection, line) =>
          let engine := { engine with line, sink.pinned := some connection }
          counted (engine.runOn destination connection (.statement text))
      | (.error failure, line) => (.error failure, { engine with line })

def route (engine : Engine σ) (parsed : Classify.Parsed) : Outcome × Engine σ :=
  let text := parsed.text
  match parsed.statementClass with
  | .unknown => (.ok (), engine)
  -- whatever does not wait itself has to stay behind the rows that do
  | .transaction .opening => engine.flushed destination (·.begin destination text)
  | .transaction .closing => engine.flushed destination (·.finish destination text)
  | .control => engine.flushed destination (·.runOnce destination text)
  | .definition => engine.flushed destination (·.runOnce destination text)
  | .manipulation .everySession => engine.flushed destination (·.broadcast destination text)
  | .manipulation .anySession =>
      match parsed.toInsert? destination.dialect with
      | some insert => engine.buffer destination insert
      | none => engine.flushed destination (·.runOnce destination text)

def skip (engine : Engine σ) (text : String) : Engine σ :=
  let stats := engine.sink.stats
  { engine with sink.stats := { stats with skipped := stats.skipped + 1 } }.report .trace
    ("Skipped statement: " ++ excerpt text)

def reportAll (engine : Engine σ) (events : List Event) : Engine σ :=
  events.foldl (fun engine event => engine.report event.level event.message) engine

def exec (engine : Engine σ) (text : String) : Outcome × Engine σ :=
  let (parsed, events) := Classify.parse destination.dialect text
  let engine := engine.reportAll events
  match parsed with
  | .error failure => (.error failure, engine)
  | .ok parsed =>
      if parsed.statementClass = .unknown then (.ok (), engine.skip text)
      else if destination.maxOpen ≤ 1 then engine.runPinned destination text
      else engine.route destination parsed

/-! ## Closing -/

def abandonTransaction (engine : Engine σ) : Engine σ :=
  match engine.sink.sentry with
  | none => engine
  | some sentry =>
      let engine := engine.unbind.report .warning ("Closing " ++ destination.dialect.name ++
        " destination with an open transaction (depth " ++ toString sentry.depth ++ ", " ++
        toString engine.sink.deferred.length ++ " session statements not replayed)")
      engine.release destination sentry.connection

def unpin (engine : Engine σ) : Engine σ :=
  match engine.sink.pinned with
  | none => engine
  | some connection => { engine with sink.pinned := none }.release destination connection

/-- Ends the sink: flushes it, gives up an open transaction and closes the destination.  The result
is that of the flush. -/
def close (engine : Engine σ) : Outcome × Engine σ :=
  let (outcome, engine) := engine.flush destination
  let engine := engine.abandonTransaction destination
  let engine := { engine with sink.deferred := [] }.unpin destination
  (outcome, { engine with line := engine.line.close destination })

/-- Gives up the sink without closing it.  Rows that still wait are lost. -/
def abandon (engine : Engine σ) : Engine σ :=
  if engine.sink.buffered > 0 then
    engine.report .warning ("Sink dropped with " ++ toString engine.sink.buffered ++
      " buffered rows in " ++ toString engine.sink.buffers.length ++
      " batches that were never flushed")
  else engine

end Engine

end SqlPipe
