import SqlPipe.Engine.Journal

/-!
# The line to a destination

Statements on their way to a destination: one on a connection at hand, several on several
connections at once, and batches that any connection may take.

On a destination whose executions overlap, all that can start does so before anything ends; on any
other one, each piece of work runs to its end before the next one starts.
-/

namespace SqlPipe

abbrev Outcome := Except Failure Unit

def andThen {σ : Type} (done : Outcome × σ) (next : σ → Outcome × σ) : Outcome × σ :=
  match done with
  | (.ok (), state) => next state
  | (.error failure, state) => (.error failure, state)

/-- The first failure of some outcomes, and success when there is none. -/
def firstFailure : List Outcome → Outcome
  | [] => .ok ()
  | .ok () :: others => firstFailure others
  | .error failure :: _ => .error failure

/-- The state of a destination with the journal of what was done to it. -/
structure Line (σ : Type) where
  world : σ
  journal : Journal

namespace Line

variable {σ : Type} (destination : Destination σ)

def note (line : Line σ) (action : Action) : Line σ :=
  { line with journal := action :: line.journal }

def report (line : Line σ) (level : Level) (message : String) : Line σ :=
  line.note (.reported ⟨level, message⟩)

def acquire (line : Line σ) : Except Failure Connection × Line σ :=
  match destination.acquire line.world with
  | (.ok connection, world) =>
      (.ok connection, { line with world }.note (.acquired connection))
  | (.error failure, world) => (.error failure, { line with world })

def release (line : Line σ) (connection : Connection) : Line σ :=
  { line with world := destination.release connection line.world }.note (.released connection)

def releaseAll (line : Line σ) (connections : List Connection) : Line σ :=
  connections.foldl (release destination) line

def close (line : Line σ) : Line σ :=
  { line with world := destination.close line.world }.note .closed

def cancelled (line : Line σ) : Bool := destination.cancelled line.world

def start (line : Line σ) (connection : Connection) : Line σ :=
  line.note (.started connection)

/-- What the end of an execution means, with the report of it.  A failure that the dialect knows as
harmless counts as success; any other failure is one of the statement. -/
def judge (dialect : Dialect) (text : String) (line : Line σ) : Outcome → Outcome × Line σ
  | .ok () => (.ok (), line.report .trace ("Executed: " ++ excerpt text))
  | .error failure =>
      if dialect.isHarmless failure.message then
        (.ok (), line.report .debug
          ("Ignored harmless error for " ++ excerpt text ++ ": " ++ failure.message))
      else (.error (.ofExecution text failure), line)

def finish (line : Line σ) (connection : Connection) (message : Message) : Outcome × Line σ :=
  let (outcome, world) := destination.execute connection message.text line.world
  judge destination.dialect message.text ({ line with world }.note (.sent connection message))
    outcome

def run (line : Line σ) (connection : Connection) (message : Message) : Outcome × Line σ :=
  (line.start connection).finish destination connection message

def runAll (line : Line σ) (connection : Connection) : List String → Outcome × Line σ
  | [] => (.ok (), line)
  | text :: others =>
      andThen (line.run destination connection (.statement text)) fun line =>
        runAll line connection others

def runOnce (line : Line σ) (message : Message) : Outcome × Line σ :=
  match line.acquire destination with
  | (.error failure, line) => (.error failure, line)
  | (.ok connection, line) =>
      let (outcome, line) := line.run destination connection message
      (outcome, line.release destination connection)

/-! ## On several connections -/

/-- Checks connections out behind those already held; a refusal gives all of them back. -/
def acquireMany (held : List Connection) (line : Line σ) :
    Nat → Except Failure (List Connection) × Line σ
  | 0 => (.ok held, line)
  | wanted + 1 =>
      match line.acquire destination with
      | (.ok connection, line) => acquireMany (held ++ [connection]) line wanted
      | (.error failure, line) => (.error failure, line.releaseAll destination held)

structure Lane where
  connection : Connection
  outcome : Outcome

def runInTurn (texts : List String) (line : Line σ) :
    List Connection → List Outcome × Line σ
  | [] => ([], line)
  | connection :: others =>
      let (outcome, line) := line.runAll destination connection texts
      let (outcomes, line) := runInTurn texts line others
      (outcome :: outcomes, line)

/-- Ends a statement on each connection that has not failed, and starts the next one there. -/
def finishEach (text : String) (more : Bool) (line : Line σ) : List Lane → List Lane × Line σ
  | [] => ([], line)
  | lane :: others =>
      match lane.outcome with
      | .error _ =>
          -- a connection that has failed is left out from here on
          let (lanes, line) := finishEach text more line others
          (lane :: lanes, line)
      | .ok () =>
          let (outcome, line) := line.finish destination lane.connection (.statement text)
          let line := if more && outcome.isOk then line.start lane.connection else line
          let (lanes, line) := finishEach text more line others
          ({ lane with outcome } :: lanes, line)

def runInStep (lanes : List Lane) (line : Line σ) : List String → List Outcome × Line σ
  | [] => (lanes.map Lane.outcome, line)
  | text :: others =>
      let (lanes, line) := finishEach destination text (!others.isEmpty) line lanes
      runInStep lanes line others

def runOnHeld (texts : List String) (line : Line σ) (connections : List Connection) :
    List Outcome × Line σ :=
  if destination.overlaps && !texts.isEmpty then
    let line := connections.foldl start line
    runInStep destination (connections.map fun connection => ⟨connection, .ok ()⟩) line texts
  else runInTurn destination texts line connections

/-- Runs statements, in order, on the wanted number of connections.  Each connection stops at its
own failure, and the first failure in the order of the connections is the result. -/
def runOnMany (line : Line σ) (texts : List String) (wanted : Nat) : Outcome × Line σ :=
  match acquireMany destination [] line wanted with
  | (.error failure, line) => (.error failure, line)
  | (.ok connections, line) =>
      let (outcomes, line) := runOnHeld destination texts line connections
      (firstFailure outcomes, line.releaseAll destination connections)

/-! ## Batches -/

def runEach (line : Line σ) : List Insert → List Outcome × Line σ
  | [] => ([], line)
  | batch :: others =>
      let (outcome, line) := line.runOnce destination (.batch batch)
      let (outcomes, line) := runEach line others
      (outcome :: outcomes, line)

/-- Checks out a connection for each batch and starts the batch there.  The refusals come with the
batches under way. -/
def startBatches (line : Line σ) :
    List Insert → List Failure × List (Connection × Insert) × Line σ
  | [] => ([], [], line)
  | batch :: others =>
      match line.acquire destination with
      | (.ok connection, line) =>
          let (refusals, started, line) := startBatches (line.start connection) others
          (refusals, (connection, batch) :: started, line)
      | (.error failure, line) =>
          let (refusals, started, line) := startBatches line others
          (failure :: refusals, started, line)

def finishBatches (line : Line σ) : List (Connection × Insert) → List Outcome × Line σ
  | [] => ([], line)
  | (connection, batch) :: others =>
      let (outcome, line) := line.finish destination connection (.batch batch)
      let (outcomes, line) := finishBatches (line.release destination connection) others
      (outcome :: outcomes, line)

/-- Runs all batches.  The outcomes stand in the order in which they come about. -/
def batchOutcomes (line : Line σ) (batches : List Insert) : List Outcome × Line σ :=
  if destination.overlaps then
    let (refusals, started, line) := line.startBatches destination batches
    let (outcomes, line) := line.finishBatches destination started
    (refusals.map .error ++ outcomes, line)
  else line.runEach destination batches

/-- Delivers batches, each on any connection.  After a cancellation nothing is sent.  All batches
run even when one has failed; the first failure in time is the result, and otherwise a
cancellation. -/
def runBatches (line : Line σ) (batches : List Insert) : Outcome × Line σ :=
  if line.cancelled destination then (.error .cancelled, line)
  else
    let (outcomes, line) := line.batchOutcomes destination batches
    match firstFailure outcomes with
    | .error failure => (.error failure, line)
    -- cancellation may have been requested while the batches ran
    | .ok () => if line.cancelled destination then (.error .cancelled, line) else (.ok (), line)

end Line

end SqlPipe
