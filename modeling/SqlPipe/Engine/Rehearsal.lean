import SqlPipe.Engine.Destination
import SqlPipe.Text.Search

/-!
# Rehearsals

A destination in memory that follows a script: which checkouts it refuses, which statements fail or
bring a cancellation, and how its connections answer when they are asked whether they are alive.  It
serves to rehearse a pipe without a database.
-/

namespace SqlPipe

/-- What happens when a statement is executed. -/
structure Cue where
  part : String
  connection : Option Connection
  /-- How often the cue is still given; without a number, always. -/
  times : Option Nat
  failure : Option Failure
  cancels : Bool
  deriving DecidableEq, Repr

/-- The state of a rehearsal. -/
structure Rehearsal where
  /-- Connections that were given back, the last one first. -/
  idle : List Connection
  opened : Nat
  checkouts : Nat
  /-- The checkouts that are refused, counted from one. -/
  refused : List Nat
  cues : List Cue
  /-- What comes of asking a connection whether it is alive, in order.  The last one comes of all
  later questions too. -/
  responses : List Response
  pings : Nat
  closed : Bool
  cancelled : Bool
  deriving Repr

namespace Rehearsal

def fresh (refused : List Nat) (cues : List Cue) (responses : List Response) : Rehearsal where
  idle := []
  opened := 0
  checkouts := 0
  refused
  cues
  responses
  pings := 0
  closed := false
  cancelled := false

def acquire (rehearsal : Rehearsal) : Except Failure Connection × Rehearsal :=
  if rehearsal.closed then (.error (.connection "pool is closed"), rehearsal)
  else
    let number := rehearsal.checkouts + 1
    let rehearsal := { rehearsal with checkouts := number }
    if rehearsal.refused.contains number then
      (.error (.connection ("acquire " ++ toString number ++ " refused")), rehearsal)
    else
      match rehearsal.idle with
      | connection :: idle => (.ok connection, { rehearsal with idle })
      | [] => (.ok rehearsal.opened, { rehearsal with opened := rehearsal.opened + 1 })

def Cue.applies (cue : Cue) (connection : Connection) (text : String) : Bool :=
  Text.occursIn cue.part.toList text.toList && cue.connection.all (· == connection) &&
    cue.times.all (· > 0)

def Cue.spent (cue : Cue) : Cue := { cue with times := cue.times.map (· - 1) }

/-- The first cue that concerns a statement, and all cues after it was given. -/
def give (connection : Connection) (text : String) : List Cue → Option Cue × List Cue
  | [] => (none, [])
  | cue :: others =>
      if Cue.applies cue connection text then (some cue, Cue.spent cue :: others)
      else
        let (given, others) := give connection text others
        (given, cue :: others)

def execute (connection : Connection) (text : String) (rehearsal : Rehearsal) :
    Except Failure Unit × Rehearsal :=
  match give connection text rehearsal.cues with
  | (none, _) => (.ok (), rehearsal)
  | (some cue, cues) =>
      let outcome := match cue.failure with
        | some failure => .error failure
        | none => .ok ()
      (outcome, { rehearsal with cues, cancelled := rehearsal.cancelled || cue.cancels })

def respond : List Response → Response × List Response
  | [] => (⟨some 0, .ok ()⟩, [])
  | [response] => (response, [response])
  | response :: others => (response, others)

def ping (_connection : Connection) (rehearsal : Rehearsal) : Response × Rehearsal :=
  let (response, responses) := respond rehearsal.responses
  (response, { rehearsal with responses, pings := rehearsal.pings + 1 })

def release (connection : Connection) (rehearsal : Rehearsal) : Rehearsal :=
  { rehearsal with idle := connection :: rehearsal.idle }

def close (rehearsal : Rehearsal) : Rehearsal := { rehearsal with closed := true }

def cancel (rehearsal : Rehearsal) : Rehearsal := { rehearsal with cancelled := true }

def destination (dialect : Dialect) (maxOpen : Nat) (overlaps : Bool) : Destination Rehearsal where
  dialect
  maxOpen
  overlaps
  acquire := acquire
  execute := execute
  ping := ping
  release := release
  close := close
  cancelled := cancelled

end Rehearsal

end SqlPipe
