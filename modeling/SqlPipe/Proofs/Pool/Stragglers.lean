import SqlPipe.Proofs.Pool.Course
import Mathlib.Data.List.Basic

/-!
# Stragglers

A straggler is a connection that is given back, and could still be used, after its pool was closed.
Closing a pool closes what is idle at that moment and nothing that is checked out, and a pool that
takes a connection back does not ask whether it is closed itself.  So the first stragglers stay
open, as many as may be idle, and nobody can ever check them out again.
-/

namespace SqlPipe

namespace SqlitePool

variable {pool later : SqlitePool}

/-- The connections that moves give back to a pool while they may still be used, in order. -/
def stragglers (pool : SqlitePool) : List PoolMove → List SqliteConnection
  | [] => []
  | move :: moves =>
      move.returned?.toList.filter (fun connection => !pool.expired connection) ++
        (pool.move move).stragglers moves

theorem take_take_append (count : Nat) (first second : List SqliteConnection) :
    (first.take count ++ second).take count = (first ++ second).take count := by
  have hleft : count - min count first.length = count - first.length := by omega
  rw [List.take_append, List.take_append, List.take_take, Nat.min_self, List.length_take, hleft]

/-- One move of a closed pool: what is given back joins the idle connections, if there is room. -/
theorem idle_move_of_closed {move : PoolMove} (hclosed : pool.closed = true)
    (hmove : move ≠ .close) (hroom : pool.idle.length ≤ pool.options.maxIdle) :
    (pool.move move).idle.reverse =
      (pool.idle.reverse ++
        move.returned?.toList.filter fun connection => !pool.expired connection).take
          pool.options.maxIdle := by
  have hsame : pool.idle.reverse = pool.idle.reverse.take pool.options.maxIdle := by
    rw [List.take_of_length_le]
    simpa using hroom
  cases move with
  | acquire =>
    rw [SqlitePool.move, acquire_of_closed hclosed]
    simpa [PoolMove.returned?] using hsame
  | release connection =>
    have hreleased := pool.released connection
    simp only [SqlitePool.move, PoolMove.returned?, Option.toList_some]
    generalize pool.release connection = later at hreleased ⊢
    cases hreleased with
    | kept husable hspace =>
      have hfits : (pool.idle.reverse ++ [connection]).length ≤ pool.options.maxIdle := by
        simpa using Nat.succ_le_of_lt hspace
      rw [List.filter_cons_of_pos (by simpa using husable), List.filter_nil,
        List.take_of_length_le hfits, List.reverse_cons]
    | dropped hgone =>
      by_cases hexpired : pool.expired connection = true
      · rw [List.filter_cons_of_neg (by simpa using hexpired), List.filter_nil, List.append_nil]
        exact hsame
      · have hfull := hgone.resolve_left hexpired
        rw [List.take_append_of_le_length (by simpa using hfull)]
        exact hsame
  | close => exact absurd rfl hmove
  | elapse | obstruct => simpa [SqlitePool.move, SqlitePool.elapse, PoolMove.returned?] using hsame

/-- A closed pool keeps the first of its stragglers, as many as may be idle. -/
theorem Course.idle_of_closed {moves : List PoolMove} (hcourse : Course pool moves later)
    (hclosed : pool.closed = true) (hclose : PoolMove.close ∉ moves)
    (hroom : pool.idle.length ≤ pool.options.maxIdle) :
    later.idle.reverse =
      (pool.idle.reverse ++ pool.stragglers moves).take pool.options.maxIdle := by
  induction hcourse with
  | nil => rw [stragglers, List.append_nil, List.take_of_length_le (by simpa using hroom)]
  | @cons pool later move moves _ _ ih =>
    rw [List.mem_cons, not_or] at hclose
    have hstep := idle_move_of_closed hclosed (Ne.symm hclose.1) hroom
    have hnext : (pool.move move).idle.length ≤ (pool.move move).options.maxIdle := by
      rw [options_move, ← List.length_reverse, hstep]
      exact List.length_take_le _ _
    rw [ih ((closed_move pool move).mpr (.inl hclosed)) hclose.2 hnext, hstep, options_move,
      take_take_append, List.append_assoc, stragglers]

end SqlitePool

namespace PoolSession

/-- Closing a pool leaves nothing idle.  Of the connections that are given back afterwards, and may
still be used, the pool keeps the first ones, as many as may be idle; the others are closed.  So
nothing is idle later on exactly if nothing may be, or nothing was given back that could still be
used.  Whatever is kept, nobody gets a connection any more. -/
theorem afterAll_keeps_stragglers (session : PoolSession) (later : List PoolEvent)
    (hlater : .asked .closePool ∉ later) :
    let closed := session.after (.asked .closePool)
    let stragglers := closed.pool.stragglers (closed.movesAll later)
    let pool := (closed.afterAll later).pool
    closed.pool.idle = [] ∧
    pool.idle.reverse = stragglers.take pool.options.maxIdle ∧
    (pool.idle = [] ↔ pool.options.maxIdle = 0 ∨ stragglers = []) ∧
    pool.acquire = (.refused (.connection "SQLite pool is closed"), pool) := by
  intro closed stragglers pool
  have hcourse := closed.course_afterAll later
  have hclose : PoolMove.close ∉ closed.movesAll later :=
    fun hmem => hlater ((close_mem_movesAll_iff later).mp hmem)
  have hidle : pool.idle.reverse = stragglers.take pool.options.maxIdle := by
    rw [hcourse.options_eq]
    exact hcourse.idle_of_closed rfl hclose (Nat.zero_le _)
  have hclosed : pool.closed = true := hcourse.closed_iff.mpr (.inl rfl)
  refine ⟨rfl, hidle, ?_, ?_⟩
  · rw [← List.reverse_eq_nil_iff, hidle, List.take_eq_nil_iff]
  · exact SqlitePool.acquire_of_closed hclosed

/-- The pool has room for one idle connection, and two are given back after it was closed. -/
theorem afterAll_keeps_stragglers_of_two :
    let session := (fresh [] "x.db" (.ofRaw 2 (some 1) 0)).afterAll
      [.asked .acquire, .asked .acquire]
    let closed := session.after (.asked .closePool)
    let later : List PoolEvent := [.asked .releaseLast, .elapsed 5, .asked .releaseLast]
    .asked .closePool ∉ later ∧
    closed.pool.stragglers (closed.movesAll later) = [⟨1, 0⟩, ⟨0, 0⟩] ∧
    (closed.afterAll later).pool.idle.reverse = [⟨1, 0⟩] := by
  intro session closed later
  have hlater : .asked .closePool ∉ later := by decide
  have hstragglers : closed.pool.stragglers (closed.movesAll later) = [⟨1, 0⟩, ⟨0, 0⟩] := by
    decide +kernel
  have hidle := (afterAll_keeps_stragglers session later hlater).2.1
  rw [hstragglers] at hidle
  exact ⟨hlater, hstragglers, hidle⟩

/-- A straggler stays open although its pool is closed, and its transaction keeps the database. -/
theorem exists_idle_after_close :
    let closed := (fresh [] "x.db" (.ofRaw 2 none 0)).afterAll
      [.asked .acquire, .asked .acquire, .asked (.execute "BEGIN IMMEDIATE"), .asked .closePool]
    let later := closed.after (.asked .releaseLast)
    closed.pool.idle = [] ∧ later.pool.closed = true ∧ later.pool.idle = [⟨1, 0⟩] ∧
    (later.databases.execute 0 .shared "CREATE TABLE t (a)").1 = .error Databases.locked := by
  decide +kernel

end PoolSession
end SqlPipe
