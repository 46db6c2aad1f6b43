import SqlPipe.Database
import SqlPipe.Engine.Sink

/-!
# Sources

The beginning of a pipe.  A script is read once, from a file or from its address, and each of its
statements goes into the sink before the next one is read.  A database yields no statements.
-/

namespace SqlPipe

namespace Script

/-- The statements that a stream delivers up to the first failed read, and the failure of that
read. -/
def readAll (splitter : Splitter) : List Delivery → List String × Option Failure
  | [] => ((splitter.drain true).1, none)
  -- an empty piece is the end, whatever the stream would deliver behind it
  | .bytes [] :: _ => ((splitter.drain true).1, none)
  | .failed reason :: _ => ((splitter.drain false).1, some (.io reason))
  | .bytes chunk :: stream =>
      let (texts, splitter) := splitter.drain false
      let (others, failure) := readAll (splitter.feed chunk) stream
      (texts ++ others, failure)

end Script

inductive Source
  /-- A script; once it was read or closed it has no stream. -/
  | script (description : String) (stream : Option (List Script.Delivery))
  | database (address : DatabaseAddress)
  deriving DecidableEq, Repr

namespace Source

def describe : Source → String
  | script description _ => description
  | database address => address.masked

def openScript (directory : Directory) (address : Address) : Except Failure Source :=
  let description := address.describe
  match address with
  | .file path =>
      match directory.stream path with
      | .ok stream => .ok (.script description (some stream))
      | .error fault => .error (.io ("Failed to open " ++ path ++ ": " ++ fault.message))
  | .web _ => .error (.io ("Failed to fetch " ++ description ++ ": no server can be reached"))
  | .inline bytes => .ok (.script description (some ((Script.chunksOf bytes).map .bytes)))
  | .database _ => .error (.address "a database address is not a script")

/-- What opening a source comes to. -/
structure Opening where
  source : Except Failure Source
  events : List Event
  leaves : Option String

def openAt (directory : Directory) (text : String) (options : PoolOptions) (timeout : Nat) :
    Opening :=
  match Address.parse text with
  | .error failure => ⟨.error failure, [], none⟩
  | .ok address =>
      let events := Address.remarks text ++ [⟨.info, "Opening source " ++ address.describe⟩]
      match address with
      | .database target =>
          let (opened, reports) := Database.openPool directory target options timeout false
          ⟨opened.map fun _ => .database target, events ++ reports,
            opened.toOption.bind Database.Opened.leaves⟩
      | _ => ⟨openScript directory address, events, none⟩

/-- Closes a source.  A closed script cannot be piped. -/
def close : Source → Source
  | script description _ => .script description none
  | database address => .database address

variable {σ : Type} (destination : Destination σ)

/-- Sends statements into the sink, and then ends with the failure of reading or with a flush.
After a cancellation no further statement is sent. -/
def pipeStatements (failure : Option Failure) (engine : Engine σ) :
    List String → Outcome × Engine σ
  | [] =>
      match failure with
      | some failure => (.error failure, engine)
      | none => engine.flush destination
  | text :: texts =>
      if engine.line.cancelled destination then (.error .cancelled, engine)
      else
        andThen (engine.exec destination text) fun engine => pipeStatements failure engine texts

def pipe (source : Source) (engine : Engine σ) : Outcome × Source × Engine σ :=
  match source with
  | script description none =>
      (.error (.internal (description ++ " was already piped")), source, engine)
  | script _ (some stream) =>
      let (texts, failure) := Script.readAll (.empty destination.dialect) stream
      let (outcome, engine) := pipeStatements destination failure engine texts
      (outcome, source.close, engine)
  | database address =>
      (.ok (), source, engine.report .debug ("Streaming extraction from " ++ address.dialect.name ++
        " sources is not supported, nothing to pipe"))

end Source

end SqlPipe
