import SqlPipe.Engine.Polling
import SqlPipe.Pool.Connect
import SqlPipe.Pool.Target

/-!
# Databases

The ends of a pipe that are databases.  A SQLite database is opened by its path, which leads to a
file of the working directory or to memory; it accepts every statement.  No server can be reached,
so pools of other dialects open no connection.
-/

namespace SqlPipe

/-- A database at an end of a pipe. -/
structure Database where
  pool : SqlitePool
  cancelled : Bool
  deriving DecidableEq, Repr

namespace Database

def obstacle (directory : Directory) (pool : Pool) : Option Failure :=
  match pool.dialect with
  | .sqlite => SqliteTarget.obstacle directory pool.connectionText
  | dialect => some (.connection ("no " ++ dialect.name ++ " server can be reached"))

def fresh (directory : Directory) (pool : Pool) (cancelled : Bool) : Database :=
  ⟨.fresh pool.connectionText pool.options (obstacle directory pool), cancelled⟩

/-- Checks a connection out.  A sink never asks for more connections than there are. -/
def acquire (database : Database) : Except Failure Connection × Database :=
  match database.pool.acquire with
  | (.ready connection, pool) => (.ok connection.number, { database with pool })
  | (.waits, pool) => (.error (.internal "all connections are checked out"), { database with pool })
  | (.refused failure, pool) => (.error failure, { database with pool })

def release (connection : Connection) (database : Database) : Database :=
  match database.pool.held.find? (·.number = connection) with
  | some held => { database with pool := database.pool.release held }
  | none => database

def destination (pool : Pool) : Destination Database where
  dialect := pool.dialect
  maxOpen := pool.options.maxOpen
  overlaps := false
  acquire := acquire
  execute _ _ database := (.ok (), database)
  ping _ database := (⟨some 0, .ok ()⟩, database)
  release := release
  close database := { database with pool := database.pool.close }
  cancelled database := database.cancelled

structure Opened where
  pool : Pool
  line : Line Database

/-- The file that opening a pool has left in the working directory. -/
def Opened.leaves (opened : Opened) : Option String :=
  if opened.pool.dialect = .sqlite then (SqliteTarget.ofPath opened.pool.connectionText).leaves
  else none

/-- Makes a pool and waits until its database answers, with what is reported meanwhile.  The time is
in seconds. -/
def openPool (directory : Directory) (address : DatabaseAddress) (options : PoolOptions)
    (timeout : Nat) (cancelled : Bool) : Except Failure Opened × List Event :=
  let (made, events) := Pool.connect address options
  match made with
  | .error failure => (.error failure, events)
  | .ok pool =>
      let line : Line Database := ⟨fresh directory pool cancelled, []⟩
      let waited := line.waitUntilReachable (destination pool) (timeout * 1000)
      let events := events ++ Journal.events waited.line.journal
      match waited.outcome with
      | .error failure => (.error failure, events)
      | .ok () =>
          (.ok ⟨pool, { waited.line with journal := [] }⟩,
            events ++ [⟨.info, "Connected to " ++ address.masked⟩])

end Database

end SqlPipe
