import SqlPipe.Failure

/-!
# Workers

A pool of workers runs a bounded number of tasks at once.  The first task that fails cancels the
pool: nothing more is dispatched, and waiting for the pool ends with that failure, while the tasks
under way go on unwatched.  A task that breaks down counts as failed when someone who waits for the
pool notices it.

The pool is a state with a function for each thing that can happen.  The order in which things
happen is not its concern.
-/

namespace SqlPipe

inductive TaskEnd
  | success
  | failure (failure : Failure)
  /-- The task ends without telling how. -/
  | breakdown
  deriving DecidableEq, Repr

inductive Dispatch
  | accepted
  /-- As many tasks as may run are running. -/
  | waits
  | refused
  deriving DecidableEq, Repr

structure WorkerPool where
  limit : Nat
  running : List Nat
  firstFailure : Option Failure
  /-- A task has broken down, and nobody has noticed. -/
  brokenDown : Bool
  cancelled : Bool
  deriving DecidableEq, Repr

namespace WorkerPool

/-- A pool that has not been used.  It runs at least one task. -/
def fresh (size : Nat) (cancelled : Bool) : WorkerPool where
  limit := max size 1
  running := []
  firstFailure := none
  brokenDown := false
  cancelled

def dispatch (pool : WorkerPool) (task : Nat) : Dispatch × WorkerPool :=
  if pool.cancelled then (.refused, pool)
  else if pool.limit ≤ pool.running.length then (.waits, pool)
  else (.accepted, { pool with running := pool.running ++ [task] })

def cancel (pool : WorkerPool) : WorkerPool := { pool with cancelled := true }

/-- Records a failure, unless another one was recorded before, and cancels the pool. -/
def record (pool : WorkerPool) (failure : Failure) : WorkerPool :=
  { pool with firstFailure := pool.firstFailure.or (some failure), cancelled := true }

def finish (pool : WorkerPool) (task : Nat) (ending : TaskEnd) : WorkerPool :=
  let pool := { pool with running := pool.running.erase task }
  match ending with
  | .success => pool
  | .failure failure => pool.record failure
  | .breakdown => { pool with brokenDown := true }

def notice (pool : WorkerPool) : WorkerPool :=
  if pool.brokenDown then { pool with brokenDown := false }.record (.internal "a task broke down")
  else pool

def result (pool : WorkerPool) : Except Failure Unit :=
  match pool.firstFailure with
  | some failure => .error failure
  | none => if pool.cancelled then .error .cancelled else .ok ()

/-- Waits for the pool: there is a result when it is cancelled or nothing is running any more. -/
def wait? (pool : WorkerPool) : Option (Except Failure Unit) × WorkerPool :=
  -- a breakdown counts only from here on
  let pool := pool.notice
  if pool.cancelled || pool.running.isEmpty then (some pool.result, pool) else (none, pool)

end WorkerPool

end SqlPipe
