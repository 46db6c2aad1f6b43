import SqlPipe.Pool.Session

/-!
# The course of a pool

Beside the requests that are made to a pool, time passes, and what keeps new connections from being
opened comes and goes.  Whatever happens consists of a few moves of the pool itself.  Statements and
questions on connections that are checked out are no moves: they leave the pool as it is.

A pool that is asked for a connection does one of five things, and one that is given a connection
back does one of two.  Proofs about pools look at checkouts and returns only through these.
-/

namespace SqlPipe

/-- What may happen to a pool. -/
inductive PoolEvent
  | asked (request : PoolRequest)
  /-- Time passes. -/
  | elapsed (milliseconds : Nat)
  /-- From now on new connections are kept from being opened, or no longer are. -/
  | obstructed (obstacle : Option Failure)
  deriving DecidableEq

/-- A move of a pool. -/
inductive PoolMove
  | acquire
  | release (connection : SqliteConnection)
  | close
  | elapse (milliseconds : Nat)
  | obstruct (obstacle : Option Failure)

def PoolMove.returned? : PoolMove → Option SqliteConnection
  | release connection => some connection
  | _ => none

namespace SqlitePool

variable {pool later : SqlitePool}

/-- What comes of asking a pool for a connection. -/
inductive Acquired (pool : SqlitePool) : Checkout × SqlitePool → Prop
  | closed (hclosed : pool.closed = true) :
      Acquired pool (.refused (.connection "SQLite pool is closed"), pool)
  | exhausted (hopen : pool.closed = false) (hpermits : pool.permits = 0) :
      Acquired pool (.waits, pool)
  /-- Idle connections that may not be used any more are passed over. -/
  | reused {permits : Nat} {passed rest : List SqliteConnection} {connection : SqliteConnection}
      (hopen : pool.closed = false) (hpermits : pool.permits = permits + 1)
      (hidle : pool.idle = passed ++ connection :: rest)
      (hpassed : ∀ other ∈ passed, pool.expired other = true)
      (husable : pool.expired connection = false) :
      Acquired pool (.ready connection,
        { pool with idle := rest, held := pool.held ++ [connection], permits })
  | opened {permits : Nat} (hopen : pool.closed = false) (hpermits : pool.permits = permits + 1)
      (hidle : ∀ other ∈ pool.idle, pool.expired other = true) (hobstacle : pool.obstacle = none) :
      Acquired pool (.ready ⟨pool.opened, pool.now⟩,
        { pool with
          idle := []
          held := pool.held ++ [⟨pool.opened, pool.now⟩]
          permits
          opened := pool.opened + 1 })
  | obstructed {permits : Nat} {failure : Failure} (hopen : pool.closed = false)
      (hpermits : pool.permits = permits + 1)
      (hidle : ∀ other ∈ pool.idle, pool.expired other = true)
      (hobstacle : pool.obstacle = some failure) :
      Acquired pool (.refused failure, { pool with idle := [] })

theorem acquire_of_closed (hclosed : pool.closed = true) :
    pool.acquire = (.refused (.connection "SQLite pool is closed"), pool) := by
  rw [acquire, if_pos hclosed]

theorem serve_of_cons {connection : SqliteConnection} {rest : List SqliteConnection}
    (hdrop : pool.idle.dropWhile pool.expired = connection :: rest) :
    pool.serve = { pool with idle := rest }.hold connection := by
  rw [serve, hdrop]

theorem serve_of_nil (hdrop : pool.idle.dropWhile pool.expired = []) :
    pool.serve = { pool with idle := [] }.openNew := by
  rw [serve, hdrop]

theorem openNew_of_none (hobstacle : pool.obstacle = none) :
    pool.openNew = { pool with opened := pool.opened + 1 }.hold ⟨pool.opened, pool.now⟩ := by
  rw [openNew, hobstacle]

theorem openNew_of_some {failure : Failure} (hobstacle : pool.obstacle = some failure) :
    pool.openNew = (.refused failure, pool.freePermit) := by
  rw [openNew, hobstacle]

theorem acquired_serve {permits : Nat} (hopen : pool.closed = false)
    (hpermits : pool.permits = permits + 1) :
    pool.Acquired { pool with permits }.serve := by
  let served : SqlitePool := { pool with permits }
  have hsplit := List.takeWhile_append_dropWhile (p := pool.expired) (l := pool.idle)
  have hpassed : ∀ other ∈ pool.idle.takeWhile pool.expired, pool.expired other = true :=
    fun _ hother => List.all_eq_true.mp List.all_takeWhile _ hother
  cases hdrop : pool.idle.dropWhile pool.expired with
  | cons connection rest =>
    have hserve := serve_of_cons (show served.idle.dropWhile served.expired = _ from hdrop)
    have husable := List.head?_dropWhile_not pool.expired pool.idle
    rw [hdrop] at hsplit husable
    rw [hserve]
    exact .reused hopen hpermits hsplit.symm hpassed (by simpa using husable)
  | nil =>
    have hserve := serve_of_nil (show served.idle.dropWhile served.expired = _ from hdrop)
    rw [hdrop, List.append_nil] at hsplit
    rw [hsplit] at hpassed
    rw [hserve]
    obtain hobstacle | ⟨failure, hobstacle⟩ := Option.eq_none_or_eq_some pool.obstacle
    · rw [openNew_of_none (show ({ served with idle := [] } : SqlitePool).obstacle = _
        from hobstacle)]
      exact .opened hopen hpermits hpassed hobstacle
    · rw [openNew_of_some (show ({ served with idle := [] } : SqlitePool).obstacle = _
        from hobstacle), freePermit]
      simp only [served, ← hpermits]
      exact .obstructed hopen hpermits hpassed hobstacle

theorem acquired (pool : SqlitePool) : pool.Acquired pool.acquire := by
  unfold acquire
  by_cases hclosed : pool.closed = true
  · rw [if_pos hclosed]
    exact .closed hclosed
  · rw [if_neg hclosed]
    cases hpermits : pool.permits with
    | zero => exact .exhausted (by simpa using hclosed) hpermits
    | succ permits => exact acquired_serve (by simpa using hclosed) hpermits

theorem mem_held_of_acquire {connection : SqliteConnection}
    (hacquire : pool.acquire = (.ready connection, later)) : connection ∈ later.held := by
  have hacquired := pool.acquired
  rw [hacquire] at hacquired
  cases hacquired <;> exact List.mem_concat_self

/-- What comes of giving a connection back to a pool. -/
inductive Released (pool : SqlitePool) (connection : SqliteConnection) : SqlitePool → Prop
  | kept (husable : pool.expired connection = false)
      (hroom : pool.idle.length < pool.options.maxIdle) :
      Released pool connection
        { pool with
          idle := connection :: pool.idle
          held := pool.held.erase connection
          permits := pool.permits + 1 }
  | dropped (hclosed : pool.expired connection = true ∨
        pool.options.maxIdle ≤ pool.idle.length) :
      Released pool connection
        { pool with
          held := pool.held.erase connection
          permits := pool.permits + 1 }

theorem released (pool : SqlitePool) (connection : SqliteConnection) :
    pool.Released connection (pool.release connection) := by
  let left : SqlitePool := { pool with held := pool.held.erase connection }
  change pool.Released connection (left.keep connection).freePermit
  unfold keep
  split
  · rename_i hexpired
    exact .dropped (.inl hexpired)
  · rename_i husable
    split
    · rename_i hroom
      exact .kept (eq_false_of_ne_true husable) hroom
    · rename_i hfull
      exact .dropped (.inr (Nat.le_of_not_lt hfull))

/-- What checkouts and returns keep: the options, and whether the pool is closed.  Connections that
were opened are never forgotten. -/
structure Keeps (pool later : SqlitePool) : Prop where
  options : later.options = pool.options
  closed : later.closed = pool.closed
  opened : pool.opened ≤ later.opened

theorem keeps_acquire (pool : SqlitePool) : pool.Keeps pool.acquire.2 := by
  have hacquired := pool.acquired
  generalize pool.acquire = acquired at hacquired ⊢
  cases hacquired with
  | opened => exact ⟨rfl, rfl, Nat.le_succ _⟩
  | _ => exact ⟨rfl, rfl, Nat.le_refl _⟩

theorem keeps_release (pool : SqlitePool) (connection : SqliteConnection) :
    pool.Keeps (pool.release connection) := by
  have hreleased := pool.released connection
  generalize pool.release connection = later at hreleased ⊢
  cases hreleased <;> exact ⟨rfl, rfl, Nat.le_refl _⟩

def move (pool : SqlitePool) : PoolMove → SqlitePool
  | .acquire => pool.acquire.2
  | .release connection => pool.release connection
  | .close => pool.close
  | .elapse milliseconds => pool.elapse milliseconds
  | .obstruct obstacle => { pool with obstacle }

/-- Only what is checked out is ever given back. -/
def Allows (pool : SqlitePool) : PoolMove → Prop
  | .release connection => connection ∈ pool.held
  | _ => True

/-- Moves that lead from one state of a pool to another. -/
inductive Course : SqlitePool → List PoolMove → SqlitePool → Prop
  | nil {pool : SqlitePool} : Course pool [] pool
  | cons {pool later : SqlitePool} {move : PoolMove} {moves : List PoolMove}
      (hallows : pool.Allows move) (hrest : Course (pool.move move) moves later) :
      Course pool (move :: moves) later

theorem Course.single {move : PoolMove} (hallows : pool.Allows move) :
    Course pool [move] (pool.move move) :=
  .cons hallows .nil

theorem Course.of_eq (heq : later = pool) : Course pool [] later :=
  heq ▸ .nil

theorem Course.append {middle : SqlitePool} {moves others : List PoolMove}
    (hcourse : Course pool moves middle) (hother : Course middle others later) :
    Course pool (moves ++ others) later := by
  induction hcourse with
  | nil => exact hother
  | cons hallows _ ih => exact .cons hallows (ih hother)

theorem closed_move (pool : SqlitePool) (move : PoolMove) :
    (pool.move move).closed = true ↔ pool.closed = true ∨ PoolMove.close = move := by
  cases move with
  | acquire => simp [SqlitePool.move, pool.keeps_acquire.closed]
  | release connection => simp [SqlitePool.move, (pool.keeps_release connection).closed]
  | close => simp [SqlitePool.move, SqlitePool.close]
  | elapse | obstruct => simp [SqlitePool.move, SqlitePool.elapse]

theorem options_move (pool : SqlitePool) (move : PoolMove) :
    (pool.move move).options = pool.options := by
  cases move with
  | acquire => exact pool.keeps_acquire.options
  | release connection => exact (pool.keeps_release connection).options
  | close | elapse | obstruct => rfl

theorem opened_le_move (pool : SqlitePool) (move : PoolMove) :
    pool.opened ≤ (pool.move move).opened := by
  cases move with
  | acquire => exact pool.keeps_acquire.opened
  | release connection => exact (pool.keeps_release connection).opened
  | close | elapse | obstruct => exact Nat.le_refl _

theorem Course.closed_iff {moves : List PoolMove} (hcourse : Course pool moves later) :
    later.closed = true ↔ pool.closed = true ∨ PoolMove.close ∈ moves := by
  induction hcourse with
  | nil => simp
  | cons _ _ ih => rw [ih, closed_move, List.mem_cons, or_assoc]

theorem Course.options_eq {moves : List PoolMove} (hcourse : Course pool moves later) :
    later.options = pool.options := by
  induction hcourse with
  | nil => rfl
  | cons _ _ ih => rw [ih, options_move]

theorem Course.opened_le {moves : List PoolMove} (hcourse : Course pool moves later) :
    pool.opened ≤ later.opened := by
  induction hcourse with
  | nil => exact Nat.le_refl _
  | cons _ _ ih => exact Nat.le_trans (opened_le_move _ _) ih

end SqlitePool

namespace PoolSession

def after (session : PoolSession) : PoolEvent → PoolSession
  | .asked request => (session.meet request).2
  | .elapsed milliseconds => { session with pool := session.pool.elapse milliseconds }
  | .obstructed obstacle => { session with pool := session.pool.move (.obstruct obstacle) }

def afterAll (session : PoolSession) (events : List PoolEvent) : PoolSession :=
  events.foldl after session

/-- The moves by which a connection is given back, if there is one. -/
def returning (connection : Option SqliteConnection) : List PoolMove :=
  connection.toList.map .release

def moves (session : PoolSession) : PoolEvent → List PoolMove
  | .asked .acquire => [.acquire]
  | .asked .releaseLast => returning session.pool.held.getLast?
  | .asked .releaseFirst => returning session.pool.held.head?
  | .asked (.release connection) => returning (session.pool.held.find? (· = connection))
  | .asked .pingPool =>
      match session.pool.acquire.1 with
      | .ready connection => [.acquire, .release connection]
      | _ => [.acquire]
  | .asked .closePool => [.close]
  | .asked .pingHeld | .asked (.execute _) | .asked (.executeOn _ _) => []
  | .elapsed milliseconds => [.elapse milliseconds]
  | .obstructed obstacle => [.obstruct obstacle]

def movesAll (session : PoolSession) : List PoolEvent → List PoolMove
  | [] => []
  | event :: events => session.moves event ++ (session.after event).movesAll events

variable {session : PoolSession}

theorem course_giveBack {connection : Option SqliteConnection}
    (hheld : ∀ given ∈ connection, given ∈ session.pool.held) :
    session.pool.Course (returning connection) (session.giveBack connection).2.pool := by
  cases connection with
  | none => exact .nil
  | some connection => exact .single (hheld connection rfl)

theorem pool_runOn (text : String) (connection : Option SqliteConnection) :
    (session.runOn text connection).2.pool = session.pool := by
  cases connection with
  | none => rfl
  | some connection =>
    simp only [runOn]

theorem pool_pingHeld : (session.meet .pingHeld).2.pool = session.pool := by
  simp only [meet]
  cases session.pool.held.getLast? with
  | none => simp only
  | some => simp only

theorem course_pingPool :
    session.pool.Course (session.moves (.asked .pingPool))
      (session.after (.asked .pingPool)).pool := by
  simp only [after, meet, moves, SqlitePool.ping]
  cases hacquire : session.pool.acquire with
  | mk checkout later =>
    have hlater : session.pool.move .acquire = later := congrArg Prod.snd hacquire
    cases checkout with
    | ready connection =>
      have hheld := SqlitePool.mem_held_of_acquire hacquire
      refine .cons trivial ?_
      rw [hlater]
      exact .single hheld
    | waits => exact hlater ▸ .single trivial
    | refused => exact hlater ▸ .single trivial

theorem course_after (event : PoolEvent) :
    session.pool.Course (session.moves event) (session.after event).pool := by
  cases event with
  | elapsed | obstructed => exact .single trivial
  | asked request =>
    cases request with
    | acquire =>
      simp only [after, meet, moves]
      cases hacquire : session.pool.acquire with
      | mk checkout later =>
        have hlater : session.pool.move .acquire = later := congrArg Prod.snd hacquire
        cases checkout <;> exact hlater ▸ .single trivial
    | releaseLast => exact course_giveBack fun _ => List.mem_of_getLast?
    | releaseFirst => exact course_giveBack fun _ => List.mem_of_head?
    | release => exact course_giveBack fun _ => List.mem_of_find?_eq_some
    | pingPool => exact course_pingPool
    | closePool => exact .single trivial
    | pingHeld => exact .of_eq pool_pingHeld
    | execute => exact .of_eq (by rw [after, meet, pool_runOn])
    | executeOn => exact .of_eq (by rw [after, meet, pool_runOn])

theorem course_afterAll (events : List PoolEvent) :
    session.pool.Course (session.movesAll events) (session.afterAll events).pool := by
  induction events generalizing session with
  | nil => exact .nil
  | cons event events ih => exact (course_after event).append ih

theorem close_mem_moves_iff (event : PoolEvent) :
    PoolMove.close ∈ session.moves event ↔ .asked .closePool = event := by
  cases event with
  | elapsed | obstructed => simp [moves]
  | asked request =>
    cases request with
    | pingPool =>
      simp only [moves]
      cases session.pool.acquire.1 <;> simp
    | _ => simp [moves, returning]

theorem close_mem_movesAll_iff (events : List PoolEvent) :
    PoolMove.close ∈ session.movesAll events ↔ .asked .closePool ∈ events := by
  induction events generalizing session with
  | nil => simp [movesAll]
  | cons event events ih =>
    rw [movesAll, List.mem_append, ih, List.mem_cons, close_mem_moves_iff]

theorem closed_afterAll_iff (hopen : session.pool.closed = false) (events : List PoolEvent) :
    (session.afterAll events).pool.closed = true ↔ .asked .closePool ∈ events := by
  rw [(course_afterAll events).closed_iff, close_mem_movesAll_iff, hopen]
  simp

end PoolSession
end SqlPipe
