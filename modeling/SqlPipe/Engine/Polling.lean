import SqlPipe.Engine.Line
import SqlPipe.Text.Duration

/-!
# Waiting for a destination

A destination is asked whether it is alive at once and then every two seconds, until it is or the
time is up.  A question that was answered late is followed at once by those that have become due in
the meantime.  No question waits longer for its answer than the time that is left, but each may wait
as long as two seconds.

Times are milliseconds since the waiting began.
-/

namespace SqlPipe

def pingInterval : Nat := 2000

/-- How a question ends within a budget, and after how many milliseconds. -/
def Response.within (response : Response) (budget : Nat) : Nat × Outcome :=
  match response.delay with
  | some delay =>
      if delay ≤ budget then (delay, response.outcome)
      else (budget, .error (.connection "ping timed out"))
  | none => (budget, .error (.connection "ping timed out"))

namespace Line

variable {σ : Type} (destination : Destination σ)

def ping (line : Line σ) : Response × Line σ :=
  match line.acquire destination with
  | (.error failure, line) => (⟨some 0, .error failure⟩, line)
  | (.ok connection, line) =>
      let (response, world) := destination.ping connection line.world
      (response, { line with world }.release destination connection)

def unreachable (timeout : Nat) (last : Failure) : Failure :=
  .connection (destination.dialect.name ++ " database unreachable after " ++
    Text.duration timeout ++ ": " ++ last.message)

structure Waited (σ : Type) where
  elapsed : Nat
  outcome : Outcome
  line : Line σ

/-- Waits from a question on that was due at the given tick. -/
def waitFrom (timeout tick now : Nat) (line : Line σ) : Waited σ :=
  let start := max now (tick * pingInterval)
  let (response, line) := line.ping destination
  let (spent, outcome) := response.within (max (timeout - start) pingInterval)
  let ended := start + spent
  match outcome with
  | .ok () => ⟨ended, .ok (), line⟩
  | .error failure =>
      let line := line.report .error
        (destination.dialect.name ++ " database is not reachable: " ++ failure.message)
      if timeout ≤ ended then ⟨ended, .error (unreachable destination timeout failure), line⟩
      else waitFrom timeout (tick + 1) ended line
termination_by timeout - tick * pingInterval
decreasing_by
  have hstart : tick * pingInterval ≤ start := Nat.le_max_right ..
  rw [Nat.add_mul]
  simp only [pingInterval] at hstart ⊢
  omega

/-- Waits until a destination answers or the time is up. -/
def waitUntilReachable (timeout : Nat) (line : Line σ) : Waited σ :=
  line.waitFrom destination timeout 0 0

end Line

end SqlPipe
