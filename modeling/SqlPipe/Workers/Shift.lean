import SqlPipe.Workers

/-!
# Shifts

A shift is a run of a pool of workers against a clock.  Tasks are dispatched in order, as far as the
pool takes them, and then the pool is waited for.  A task begins when whoever dispatches tasks has
to wait for something, and ends after its duration.  The clock jumps to whatever happens next, so a
shift depends on nothing but the tasks and the time of a cancellation.
-/

namespace SqlPipe

/-- What a task does: it takes some milliseconds and then ends. -/
structure Task where
  duration : Nat
  ending : TaskEnd
  deriving DecidableEq, Repr

structure Mark where
  time : Nat
  begins : Bool
  task : Nat
  deriving DecidableEq, Repr

/-- A pool of workers against a clock. -/
structure Shift where
  pool : WorkerPool
  now : Nat
  ready : List (Nat × Task)
  /-- Tasks under way with the times at which they end. -/
  underWay : List (Nat × Nat × Task)
  cancelAt : Option Nat
  cancelledOutside : Bool
  /-- What was recorded, last mark first. -/
  marks : List Mark
  deriving DecidableEq, Repr

namespace Shift

def fresh (size : Nat) (cancelled : Bool) (cancelAt : Option Nat) : Shift where
  pool := .fresh size cancelled
  now := 0
  ready := []
  underWay := []
  cancelAt
  cancelledOutside := cancelled
  marks := []

def finish (shift : Shift) (number : Nat) (task : Task) : Shift :=
  { shift with
    pool := shift.pool.finish number task.ending
    marks := ⟨shift.now, false, number⟩ :: shift.marks }

/-- Begins a task.  One that takes no time ends at once. -/
def begin (shift : Shift) (entry : Nat × Task) : Shift :=
  let (number, task) := entry
  let shift := { shift with marks := ⟨shift.now, true, number⟩ :: shift.marks }
  if task.duration = 0 then shift.finish number task
  else { shift with underWay := shift.underWay ++ [(shift.now + task.duration, number, task)] }

def beginReady (shift : Shift) : Shift :=
  shift.ready.foldl begin { shift with ready := [] }

def nextEnd? (shift : Shift) : Option (Nat × Nat × Task) :=
  shift.underWay.foldl (fun next entry =>
    match next with
    | some best => if entry.1 < best.1 then some entry else some best
    | none => some entry) none

def cancelNow (shift : Shift) (time : Nat) : Shift :=
  { shift with
    pool := shift.pool.cancel
    now := time
    cancelAt := none
    cancelledOutside := true }

def endNext (shift : Shift) (entry : Nat × Nat × Task) : Shift :=
  { shift with now := entry.1, underWay := shift.underWay.erase entry }.finish entry.2.1 entry.2.2

def nextTime? (shift : Shift) : Option Nat :=
  match shift.nextEnd?, shift.cancelAt with
  | some entry, some time => some (min entry.1 time)
  | some entry, none => some entry.1
  | none, time => time

def jump? (shift : Shift) : Option Shift :=
  match shift.nextEnd?, shift.cancelAt with
  | some entry, some time =>
      some (if time < entry.1 then shift.cancelNow time else shift.endNext entry)
  | some entry, none => some (shift.endNext entry)
  | none, some time => some (shift.cancelNow time)
  | none, none => none

/-- What happens while nobody dispatches: ready tasks begin, and otherwise the clock jumps. -/
def advance? (shift : Shift) : Option Shift :=
  if shift.ready.isEmpty then shift.jump? else some shift.beginReady

/-- A bound on how often a shift can still advance. -/
def work (shift : Shift) : Nat :=
  2 * shift.ready.length + shift.underWay.length + shift.cancelAt.toList.length

/-- Dispatches a task as soon as the pool takes it.  `fuel` bounds the waiting. -/
def dispatchWithin (number : Nat) (task : Task) (shift : Shift) : Nat → Bool × Shift
  | 0 => (false, shift)
  | fuel + 1 =>
      match shift.pool.dispatch number with
      | (.accepted, pool) => (true, { shift with pool, ready := shift.ready ++ [(number, task)] })
      | (.refused, _) => (false, shift)
      | (.waits, _) =>
          match shift.advance? with
          | some shift => dispatchWithin number task shift fuel
          | none => (false, shift)

def dispatch (shift : Shift) (number : Nat) (task : Task) : Bool × Shift :=
  dispatchWithin number task shift (shift.work + 1)

/-- Dispatches tasks in order, numbered from a number on.  Each is answered with the time. -/
def dispatchAll (number : Nat) (shift : Shift) : List Task → List (Nat × Bool) × Shift
  | [] => ([], shift)
  | task :: tasks =>
      let (accepted, shift) := shift.dispatch number task
      let (answers, behind) := dispatchAll (number + 1) shift tasks
      ((shift.now, accepted) :: answers, behind)

def waitWithin (shift : Shift) : Nat → Except Failure Unit × Shift
  | 0 => (shift.pool.result, shift)
  | fuel + 1 =>
      match shift.pool.wait? with
      | (some outcome, pool) => (outcome, { shift with pool })
      | (none, pool) =>
          match { shift with pool }.advance? with
          | some shift => waitWithin shift fuel
          | none => (pool.result, { shift with pool })

def wait (shift : Shift) : Except Failure Unit × Shift :=
  waitWithin shift (shift.work + 1)

/-- Lets happen what happens up to a time.  `fuel` bounds how much that is. -/
def goOnWithin (time : Nat) (shift : Shift) : Nat → Shift
  | 0 => shift
  | fuel + 1 =>
      if shift.ready.isEmpty && shift.nextTime?.all (time < ·) then shift
      else
        match shift.advance? with
        | some shift => goOnWithin time shift fuel
        | none => shift

def goOn (shift : Shift) (time : Nat) : Shift :=
  goOnWithin time shift (shift.work + 1)

end Shift

end SqlPipe
