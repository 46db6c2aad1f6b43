import SqlPipe.Engine.Destination
import SqlPipe.Event
import SqlPipe.Pool.Options

/-!
# Pools of SQLite connections

Whoever wants a connection needs a permit first, and has to wait while there is none.  With a permit
the pool hands out the idle connection that was given back last, and opens one only when none is
idle.  A connection that is given back is put among the idle ones, as far as the options allow, and
only then its permit is free again.  A connection that has been open for longer than its lifetime is
not used again.

A database in memory exists for one connection only, so its pool has a single connection.
-/

namespace SqlPipe

/-- A connection with the time at which it was opened, in milliseconds. -/
structure SqliteConnection where
  number : Connection
  openedAt : Nat
  deriving DecidableEq, Repr

/-- A pool of connections to one database. -/
structure SqlitePool where
  path : String
  options : PoolOptions
  /-- Why no connection can be opened, if none can. -/
  obstacle : Option Failure
  /-- Connections that nobody uses, the one given back last first. -/
  idle : List SqliteConnection
  held : List SqliteConnection
  /-- How many more connections may be checked out. -/
  permits : Nat
  opened : Nat
  closed : Bool
  now : Nat
  deriving DecidableEq, Repr

inductive Checkout
  | ready (connection : SqliteConnection)
  | waits
  | refused (failure : Failure)
  deriving DecidableEq, Repr

namespace SqlitePool

def memoryPath : String := ":memory:"

/-- A pool of several connections to a database in memory would have as many databases. -/
def splitsMemory (path : String) (options : PoolOptions) : Bool :=
  path = memoryPath && options.maxOpen > 1

def boundsFor (path : String) (options : PoolOptions) : PoolOptions :=
  if splitsMemory path options then { options with maxOpen := 1, maxIdle := 1 } else options

def announcement (path : String) (options : PoolOptions) : List Event :=
  let bounds := boundsFor path options
  (if splitsMemory path options then
    [⟨.warning, "SQLite in-memory destination limited to a single connection"⟩] else []) ++
  [⟨.info, "Creating SQLite connection pool for: " ++ path ++ " (max_size: " ++
    toString bounds.maxOpen ++ ", max_idle: " ++ toString bounds.maxIdle ++ ")"⟩]

def fresh (path : String) (options : PoolOptions) (obstacle : Option Failure) : SqlitePool where
  path
  options := boundsFor path options
  obstacle
  idle := []
  held := []
  permits := (boundsFor path options).maxOpen
  opened := 0
  closed := false
  now := 0

def expired (pool : SqlitePool) (connection : SqliteConnection) : Bool :=
  pool.options.lifetime.any fun lifetime => lifetime * 1000 < pool.now - connection.openedAt

def hold (pool : SqlitePool) (connection : SqliteConnection) : Checkout × SqlitePool :=
  (.ready connection, { pool with held := pool.held ++ [connection] })

def freePermit (pool : SqlitePool) : SqlitePool :=
  { pool with permits := pool.permits + 1 }

/-- Opens a connection and checks it out.  Where none can be opened the permit is free again. -/
def openNew (pool : SqlitePool) : Checkout × SqlitePool :=
  match pool.obstacle with
  | none => { pool with opened := pool.opened + 1 }.hold ⟨pool.opened, pool.now⟩
  | some failure => (.refused failure, pool.freePermit)

def serve (pool : SqlitePool) : Checkout × SqlitePool :=
  -- those in front that may not be used any more are closed; others stay where they are
  match pool.idle.dropWhile pool.expired with
  | connection :: idle => { pool with idle }.hold connection
  | [] => { pool with idle := [] }.openNew

def acquire (pool : SqlitePool) : Checkout × SqlitePool :=
  if pool.closed then (.refused (.connection "SQLite pool is closed"), pool)
  else
    match pool.permits with
    | 0 => (.waits, pool)
    | permits + 1 => { pool with permits }.serve

/-- Puts a connection among the idle ones if it may still be used and there is room for it. -/
def keep (pool : SqlitePool) (connection : SqliteConnection) : SqlitePool :=
  if pool.expired connection then pool
  else if pool.idle.length < pool.options.maxIdle then
    { pool with idle := connection :: pool.idle }
  else pool

def release (pool : SqlitePool) (connection : SqliteConnection) : SqlitePool :=
  let pool := { pool with held := pool.held.erase connection }
  (pool.keep connection).freePermit

/-- Closes the pool: idle connections are closed, and nothing is checked out any more. -/
def close (pool : SqlitePool) : SqlitePool :=
  { pool with closed := true, idle := [] }

def isOpen (pool : SqlitePool) (connection : Connection) : Bool :=
  (pool.held ++ pool.idle).any (·.number = connection)

def elapse (pool : SqlitePool) (milliseconds : Nat) : SqlitePool :=
  { pool with now := pool.now + milliseconds }

/-- Checks a connection out and gives it back at once, which tells whether the database answers. -/
def ping (pool : SqlitePool) : Option (Except Failure Unit) × SqlitePool :=
  match pool.acquire with
  | (.ready connection, pool) => (some (.ok ()), pool.release connection)
  | (.waits, pool) => (none, pool)
  | (.refused failure, pool) => (some (.error failure), pool)

end SqlitePool

end SqlPipe
