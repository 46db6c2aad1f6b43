import SqlPipe.Config
import SqlPipe.Source

/-!
# Runs

A run opens both ends of a pipe, pipes the source into the destination and closes both ends,
whatever comes of it.  The first failure is the result.
-/

namespace SqlPipe

structure Run where
  outcome : Except Failure Stats
  events : List Event
  left : List String

namespace Run

def failed (failure : Failure) (events : List Event) (left : List String) : Run :=
  ⟨.error failure, events, left⟩

def summary (address : DatabaseAddress) (stats : Stats) : Event :=
  ⟨.info, "Pipe into " ++ address.masked ++ " finished: " ++ toString stats.executed ++
    " executed, " ++ toString stats.skipped ++ " skipped, " ++ toString stats.bufferedRows ++
    " rows in " ++ toString stats.batches ++ " batches, cost " ++ Text.duration 0⟩

/-- Pipes an open source into the sink of an open destination, and closes the sink.  A run that is
cancelled when it begins sends nothing. -/
def deliver (destination : Destination Database) (source : Source) (engine : Engine Database) :
    Outcome × Engine Database :=
  let (piped, engine) :=
    if engine.line.cancelled destination then (.error .cancelled, engine)
    else
      let (piped, _, engine) := source.pipe destination engine
      (piped, engine)
  let (closed, engine) := engine.close destination
  (piped >>= fun () => closed, engine)

def start (directory : Directory) (config : Config) (cancelled : Bool) : Run :=
  let settings := config.destination
  match Address.parseDatabase settings.address with
  | .error failure => failed failure [] []
  | .ok address =>
      let remarks := Address.remarks settings.address
      let (opened, reports) := Database.openPool directory address settings.poolOptions
        config.connectTimeout cancelled
      match opened with
      | .error failure => failed failure (remarks ++ reports) []
      | .ok opened =>
          let events := remarks ++ reports
          let opening := Source.openAt directory config.source.address
            config.source.poolOptions config.connectTimeout
          let events := events ++ opening.events
          let left := opened.leaves.toList ++ opening.leaves.toList
          match opening.source with
          | .error failure => failed failure events left
          | .ok source =>
              let destination := Database.destination opened.pool
              let engine : Engine Database := ⟨.fresh settings.batchCap, opened.line⟩
              let engine := engine.report .info
                ("Piping " ++ source.describe ++ " into " ++ address.masked)
              let (outcome, engine) := deliver destination source engine
              let events := events ++ Journal.events engine.line.journal
              match outcome with
              | .error failure => failed failure events left
              | .ok () => ⟨.ok engine.sink.stats, events ++ [summary address engine.sink.stats], left⟩

end Run

end SqlPipe
