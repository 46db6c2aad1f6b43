import SqlPipe.Pool.Tables
import SqlPipe.Pool.Target

/-!
# Sessions with a pool

Someone who uses a pool holds connections in the order in which they were acquired, and speaks to
the database over the one acquired last or over any other one.  A connection that is held still
answers after the pool was closed.
-/

namespace SqlPipe

/-- What may be asked of a pool. -/
inductive PoolRequest
  | acquire
  | releaseLast
  | releaseFirst
  | release (connection : SqliteConnection)
  | pingPool
  | closePool
  /-- Asks the connection acquired last whether it is alive. -/
  | pingHeld
  | execute (text : String)
  | executeOn (connection : SqliteConnection) (text : String)
  deriving DecidableEq, Repr

inductive PoolReply
  | done (outcome : Except Failure Unit)
  /-- All connections are checked out, so the answer has to wait. -/
  | waits
  | released (any : Bool)
  | noConnection

/-- A pool with the databases behind it. -/
structure PoolSession where
  pool : SqlitePool
  databases : Databases
  deriving DecidableEq, Repr

namespace PoolSession

def fresh (directory : Directory) (path : String) (options : PoolOptions) : PoolSession :=
  ⟨.fresh path options (SqliteTarget.obstacle directory path), .empty⟩

def storeOf (session : PoolSession) (connection : SqliteConnection) : Store :=
  match SqliteTarget.ofPath session.pool.path with
  | .memory => .own connection.number
  | _ => .shared

/-- The session with its pool in another state.  Connections may have been closed on the way. -/
def withPool (session : PoolSession) (pool : SqlitePool) : PoolSession :=
  ⟨pool, session.databases.keepOpen pool.isOpen⟩

def giveBack (session : PoolSession) : Option SqliteConnection → PoolReply × PoolSession
  | none => (.released false, session)
  | some connection => (.released true, session.withPool (session.pool.release connection))

def runOn (session : PoolSession) (text : String) :
    Option SqliteConnection → PoolReply × PoolSession
  | none => (.noConnection, session)
  | some connection =>
      let (outcome, databases) :=
        session.databases.execute connection.number (session.storeOf connection) text
      (.done outcome, { session with databases })

def meet (session : PoolSession) : PoolRequest → PoolReply × PoolSession
  | .acquire =>
      match session.pool.acquire with
      | (.ready _, pool) => (.done (.ok ()), session.withPool pool)
      | (.waits, pool) => (.waits, session.withPool pool)
      | (.refused failure, pool) => (.done (.error failure), session.withPool pool)
  | .releaseLast => session.giveBack session.pool.held.getLast?
  | .releaseFirst => session.giveBack session.pool.held.head?
  | .release connection => session.giveBack (session.pool.held.find? (· = connection))
  | .pingPool =>
      match session.pool.ping with
      | (some outcome, pool) => (.done outcome, session.withPool pool)
      | (none, pool) => (.waits, session.withPool pool)
  | .closePool => (.done (.ok ()), session.withPool session.pool.close)
  | .pingHeld =>
      match session.pool.held.getLast? with
      | some _ => (.done (.ok ()), session)
      | none => (.noConnection, session)
  | .execute text => session.runOn text session.pool.held.getLast?
  | .executeOn connection text => session.runOn text (session.pool.held.find? (· = connection))

def meetAll (session : PoolSession) : List PoolRequest → List PoolReply
  | [] => []
  | request :: requests =>
      let (reply, session) := session.meet request
      reply :: session.meetAll requests

end PoolSession

end SqlPipe
