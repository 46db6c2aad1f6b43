import SqlPipe.Workers
import Mathlib.Data.List.Nodup
import Mathlib.Data.List.Perm.Subperm
import Mathlib.Logic.Function.Basic
import Mathlib.Logic.Relation

/-!
# Tasks side by side

A crew is a pool of workers together with its tasks, each at a stage of its own.  The tasks go on
beside one another and beside whoever watches the pool.  A step is what nothing interrupts, so the
failure of a task takes three of them: the task writes its failure down, then cancels the pool, and
then gives its place back, and anything may happen in between.

In whatever order the steps come, the pool tells the failure that was written down first.
-/

namespace SqlPipe

namespace WorkerPool

/-- Writes a failure down, unless another one was written down before. -/
def keep (pool : WorkerPool) (failure : Failure) : WorkerPool :=
  { pool with firstFailure := pool.firstFailure.or (some failure) }

def vacate (pool : WorkerPool) (task : ℕ) : WorkerPool :=
  { pool with running := pool.running.erase task }

/-- The end of a failing task is made of three steps, and others can come between them. -/
theorem finish_failure (pool : WorkerPool) (task : ℕ) (failure : Failure) :
    pool.finish task (.failure failure) = ((pool.keep failure).cancel).vacate task := rfl

theorem notice_of_brokenDown {pool : WorkerPool} (hbroken : pool.brokenDown = true) :
    pool.notice =
      ({ pool with brokenDown := false }.keep (.internal "a task broke down")).cancel := by
  rw [notice, if_pos hbroken]
  rfl

end WorkerPool

/-- How far a task has come. -/
inductive Stage
  /-- The task has not been offered, or will be offered again. -/
  | outside
  | refused
  /-- The task has a place and has not begun. -/
  | ready
  | underWay
  /-- The task has written its failure down. -/
  | failing (failure : Failure)
  /-- The task has cancelled the pool as well. -/
  | withdrawing (failure : Failure)
  | ended (ending : TaskEnd)

namespace Stage

/-- The task has a place in the pool. -/
def hasPlace : Stage → Prop
  | ready | underWay | failing _ | withdrawing _ => True
  | outside | refused | ended _ => False

/-- The task has begun and has not ended. -/
def runs : Stage → Prop
  | underWay | failing _ | withdrawing _ => True
  | outside | refused | ready | ended _ => False

/-- The task has failed. -/
def hasFailed : Stage → Prop
  | failing _ | withdrawing _ | ended (.failure _) => True
  | _ => False

def offered : Dispatch → Stage
  | .accepted => ready
  | .waits => outside
  | .refused => refused

theorem hasPlace_of_runs {stage : Stage} (hruns : stage.runs) : stage.hasPlace := by
  cases stage <;> simp_all [runs, hasPlace]

end Stage

/-- What is being done with a pool. -/
inductive Watch
  | dispatching
  | waiting
  /-- Nobody waits any longer, and the result can be read. -/
  | stopped
  deriving DecidableEq

/-- A pool of workers with its tasks. -/
structure Crew where
  pool : WorkerPool
  stage : ℕ → Stage
  watch : Watch
  /-- The failures that were written down, also those that came too late, in order. -/
  recorded : List Failure

namespace Crew

def fresh (size : ℕ) (cancelled : Bool) : Crew where
  pool := .fresh size cancelled
  stage := fun _ => .outside
  watch := .dispatching
  recorded := []

def move (crew : Crew) (task : ℕ) (stage : Stage) : Crew :=
  { crew with stage := Function.update crew.stage task stage }

/-- What can happen next. -/
inductive Step : Crew → Crew → Prop
  | offered {crew : Crew} {task : ℕ} {answer : Dispatch} {pool : WorkerPool}
      (hwatch : crew.watch = .dispatching) (hstage : crew.stage task = .outside)
      (hdispatch : crew.pool.dispatch task = (answer, pool)) :
      Step crew { crew.move task (.offered answer) with pool }
  | began {crew : Crew} {task : ℕ} (hstage : crew.stage task = .ready) :
      Step crew (crew.move task .underWay)
  | succeeded {crew : Crew} {task : ℕ} (hstage : crew.stage task = .underWay) :
      Step crew { crew.move task (.ended .success) with
        pool := crew.pool.finish task .success }
  | brokeDown {crew : Crew} {task : ℕ} (hstage : crew.stage task = .underWay) :
      Step crew { crew.move task (.ended .breakdown) with
        pool := crew.pool.finish task .breakdown }
  | failed {crew : Crew} {task : ℕ} (failure : Failure)
      (hstage : crew.stage task = .underWay) :
      Step crew { crew.move task (.failing failure) with
        pool := crew.pool.keep failure
        recorded := crew.recorded ++ [failure] }
  | withdrew {crew : Crew} {task : ℕ} {failure : Failure}
      (hstage : crew.stage task = .failing failure) :
      Step crew { crew.move task (.withdrawing failure) with pool := crew.pool.cancel }
  | vacated {crew : Crew} {task : ℕ} {failure : Failure}
      (hstage : crew.stage task = .withdrawing failure) :
      Step crew { crew.move task (.ended (.failure failure)) with
        pool := crew.pool.vacate task }
  /-- Cancellation is requested from outside. -/
  | cancelled {crew : Crew} : Step crew { crew with pool := crew.pool.cancel }
  | awaited {crew : Crew} (hwatch : crew.watch = .dispatching) :
      Step crew { crew with watch := .waiting }
  | noticed {crew : Crew} (hwatch : crew.watch = .waiting)
      (hbroken : crew.pool.brokenDown = true) :
      Step crew { crew with
        pool := crew.pool.notice
        recorded := crew.recorded ++ [.internal "a task broke down"] }
  | gaveUp {crew : Crew} (hwatch : crew.watch = .waiting)
      (hcancelled : crew.pool.cancelled = true) : Step crew { crew with watch := .stopped }
  | ranOut {crew : Crew} (hwatch : crew.watch = .waiting) (hrunning : crew.pool.running = [])
      (hbroken : crew.pool.brokenDown = false) : Step crew { crew with watch := .stopped }

/-- What can become of a crew. -/
abbrev LeadsTo : Crew → Crew → Prop := Relation.ReflTransGen Step

/-! ## Places -/

/-- The tasks with a place are those that the pool counts, and there are not too many of them. -/
structure Housed (size limit : ℕ) (running : List ℕ) (stage : ℕ → Stage) : Prop where
  limit_eq : limit = max size 1
  room : running.length ≤ limit
  nodup : running.Nodup
  places : ∀ task, task ∈ running ↔ (stage task).hasPlace

variable {size limit : ℕ} {running : List ℕ} {stage : ℕ → Stage}

theorem Housed.stay
    (hhoused : Housed size limit running stage) {task : ℕ} {next : Stage}
    (hnext : next.hasPlace ↔ (stage task).hasPlace) :
    Housed size limit running (Function.update stage task next) where
  limit_eq := hhoused.limit_eq
  room := hhoused.room
  nodup := hhoused.nodup
  places other := by
    rw [hhoused.places]
    by_cases hother : other = task
    · rw [hother, Function.update_self, hnext]
    · rw [Function.update_of_ne hother]

theorem Housed.enter
    (hhoused : Housed size limit running stage) {task : ℕ} {next : Stage}
    (hroom : running.length < limit) (hstage : ¬(stage task).hasPlace) (hnext : next.hasPlace) :
    Housed size limit (running ++ [task]) (Function.update stage task next) where
  limit_eq := hhoused.limit_eq
  room := by
    rw [List.length_append, List.length_singleton]
    exact hroom
  nodup := by
    have habsent : task ∉ running := fun hmem => hstage ((hhoused.places task).mp hmem)
    simpa [List.nodup_append, hhoused.nodup] using
      fun other hmem => ne_of_mem_of_not_mem hmem habsent
  places other := by
    rw [List.mem_append, List.mem_singleton, hhoused.places]
    by_cases hother : other = task
    · simp [hother, hnext]
    · rw [Function.update_of_ne hother]
      simp [hother]

theorem Housed.leave
    (hhoused : Housed size limit running stage) {task : ℕ} {next : Stage}
    (hnext : ¬next.hasPlace) :
    Housed size limit (running.erase task) (Function.update stage task next) where
  limit_eq := hhoused.limit_eq
  room := Nat.le_trans List.length_erase_le hhoused.room
  nodup := hhoused.nodup.erase task
  places other := by
    rw [hhoused.nodup.mem_erase_iff, hhoused.places]
    by_cases hother : other = task
    · simp [hother, hnext]
    · rw [Function.update_of_ne hother]
      simp [hother]

/-! ## Failures -/

/-- What the pool knows of failures, breakdowns and cancellation is what its tasks have done. -/
structure Told (first : Option Failure) (brokenDown cancelled : Bool) (stage : ℕ → Stage)
    (recorded : List Failure) : Prop where
  first_eq : first = recorded.head?
  failures : ∀ task, (stage task).hasFailed → recorded ≠ []
  breakdowns : ∀ task, stage task = .ended .breakdown → brokenDown = true ∨ recorded ≠ []
  refusals : ∀ task, stage task = .refused → cancelled = true
  causes : recorded ≠ [] → cancelled = true ∨ ∃ task failure, stage task = .failing failure

variable {first : Option Failure} {brokenDown cancelled : Bool} {recorded : List Failure}

/-- A task may move on when the pool knows of it what has to be known at its new stage. -/
theorem Told.move
    (htold : Told first brokenDown cancelled stage recorded) {task : ℕ} {next : Stage}
    (hfailed : next.hasFailed → recorded ≠ [])
    (hended : next = .ended .breakdown → brokenDown = true)
    (hrefused : next = .refused → cancelled = true)
    (hfailing : ∀ failure, stage task = .failing failure → cancelled = true) :
    Told first brokenDown cancelled (Function.update stage task next) recorded where
  first_eq := htold.first_eq
  failures other hother := by
    by_cases hsame : other = task
    · rw [hsame, Function.update_self] at hother
      exact hfailed hother
    · rw [Function.update_of_ne hsame] at hother
      exact htold.failures other hother
  breakdowns other hother := by
    by_cases hsame : other = task
    · rw [hsame, Function.update_self] at hother
      exact .inl (hended hother)
    · rw [Function.update_of_ne hsame] at hother
      exact htold.breakdowns other hother
  refusals other hother := by
    by_cases hsame : other = task
    · rw [hsame, Function.update_self] at hother
      exact hrefused hother
    · rw [Function.update_of_ne hsame] at hother
      exact htold.refusals other hother
  causes hrecorded := by
    rcases htold.causes hrecorded with hcancelled | ⟨other, failure, hother⟩
    · exact .inl hcancelled
    · by_cases hsame : other = task
      · exact .inl (hfailing failure (hsame ▸ hother))
      · exact .inr ⟨other, failure, by rw [Function.update_of_ne hsame, hother]⟩

theorem Told.cancel (htold : Told first brokenDown cancelled stage recorded) :
    Told first brokenDown true stage recorded where
  first_eq := htold.first_eq
  failures := htold.failures
  breakdowns := htold.breakdowns
  refusals _ _ := rfl
  causes _ := .inl rfl

theorem Told.breakDown
    (htold : Told first brokenDown cancelled stage recorded) {broken : Bool}
    (hbroken : broken = true ∨ recorded ≠ []) :
    Told first broken cancelled stage recorded where
  first_eq := htold.first_eq
  failures := htold.failures
  breakdowns _ _ := hbroken
  refusals := htold.refusals
  causes := htold.causes

/-- A failure that is written down comes behind those that were written down before. -/
theorem Told.keep
    (htold : Told first brokenDown cancelled stage recorded) (failure : Failure)
    (hcause : cancelled = true ∨ ∃ task failure, stage task = .failing failure) :
    Told (first.or (some failure)) brokenDown cancelled stage (recorded ++ [failure]) where
  first_eq := by
    rw [htold.first_eq]
    cases recorded <;> rfl
  failures _ _ := by simp
  breakdowns _ _ := .inr (by simp)
  refusals := htold.refusals
  causes _ := hcause

/-- A task that fails writes its failure down before the pool is cancelled. -/
theorem Told.fail
    (htold : Told first brokenDown cancelled stage recorded) {task : ℕ} (failure : Failure)
    (hstage : stage task = .underWay) :
    Told (first.or (some failure)) brokenDown cancelled
      (Function.update stage task (.failing failure)) (recorded ++ [failure]) where
  first_eq := by
    rw [htold.first_eq]
    cases recorded <;> rfl
  failures _ _ := by simp
  breakdowns _ _ := .inr (by simp)
  refusals other hother := by
    have hne : other ≠ task := by
      rintro rfl
      rw [Function.update_self] at hother
      cases hother
    rw [Function.update_of_ne hne] at hother
    exact htold.refusals other hother
  causes _ := .inr ⟨task, failure, Function.update_self task _ stage⟩

/-! ## What every step keeps -/

/-- The pool and its tasks agree, and nobody stops waiting without a reason. -/
structure Sound (size : ℕ) (crew : Crew) : Prop where
  housed : Housed size crew.pool.limit crew.pool.running crew.stage
  told : Told crew.pool.firstFailure crew.pool.brokenDown crew.pool.cancelled crew.stage
    crew.recorded
  halted : crew.watch = .stopped →
    crew.pool.cancelled = true ∨ crew.pool.running = [] ∧ crew.pool.brokenDown = false

theorem sound_fresh (size : ℕ) (cancelled : Bool) : (fresh size cancelled).Sound size where
  housed := ⟨rfl, Nat.zero_le _, List.nodup_nil, fun task => by
    simp [fresh, WorkerPool.fresh, Stage.hasPlace]⟩
  told := ⟨rfl, fun _ hfailed => hfailed.elim, nofun, nofun, fun hrecorded => absurd rfl hrecorded⟩
  halted := nofun

variable {crew later : Crew} {task : ℕ}

/-- While a task has a place, only a cancellation stops the waiting. -/
theorem Sound.cancelled_of_hasPlace
    (hsound : crew.Sound size) (hplace : (crew.stage task).hasPlace)
    (hwatch : crew.watch = .stopped) : crew.pool.cancelled = true := by
  rcases hsound.halted hwatch with hcancelled | ⟨hrunning, -⟩
  · exact hcancelled
  · have hmem := (hsound.housed.places task).mpr hplace
    rw [hrunning] at hmem
    cases hmem

theorem Sound.offered
    (hsound : crew.Sound size) {answer : Dispatch} {pool : WorkerPool}
    (hwatch : crew.watch = .dispatching) (hstage : crew.stage task = .outside)
    (hdispatch : crew.pool.dispatch task = (answer, pool)) :
    Sound size { crew.move task (.offered answer) with pool } := by
  have hnotStopped : crew.watch ≠ .stopped := by rw [hwatch]; decide
  have hfailing (failure : Failure) (h : crew.stage task = .failing failure) :
      crew.pool.cancelled = true := by rw [hstage] at h; cases h
  have hnoPlace : ¬(crew.stage task).hasPlace := by rw [hstage]; exact not_false
  unfold WorkerPool.dispatch at hdispatch
  split at hdispatch
  next hcancelled =>
    cases hdispatch
    refine ⟨hsound.housed.stay (iff_of_false not_false hnoPlace), ?_,
      fun hstopped => absurd hstopped hnotStopped⟩
    exact hsound.told.move False.elim nofun (fun _ => hcancelled) hfailing
  split at hdispatch
  next hfull =>
    cases hdispatch
    refine ⟨hsound.housed.stay (iff_of_false not_false hnoPlace), ?_,
      fun hstopped => absurd hstopped hnotStopped⟩
    exact hsound.told.move False.elim nofun nofun hfailing
  next hroom =>
    cases hdispatch
    refine ⟨hsound.housed.enter (Nat.lt_of_not_le hroom) hnoPlace trivial, ?_,
      fun hstopped => absurd hstopped hnotStopped⟩
    exact hsound.told.move False.elim nofun nofun hfailing

theorem Sound.step (hsound : crew.Sound size) (hstep : Step crew later) : later.Sound size := by
  cases hstep with
  | offered hwatch hstage hdispatch => exact hsound.offered hwatch hstage hdispatch
  | @began task hstage =>
      have hplace : (crew.stage task).hasPlace := by rw [hstage]; trivial
      refine ⟨hsound.housed.stay (iff_of_true trivial hplace), ?_, hsound.halted⟩
      exact hsound.told.move False.elim nofun nofun (by simp [hstage])
  | @succeeded task hstage =>
      have hplace : (crew.stage task).hasPlace := by rw [hstage]; trivial
      refine ⟨hsound.housed.leave not_false, ?_, fun hwatch => .inl ?_⟩
      · exact hsound.told.move False.elim nofun nofun (by simp [hstage])
      · exact hsound.cancelled_of_hasPlace hplace hwatch
  | @brokeDown task hstage =>
      have hplace : (crew.stage task).hasPlace := by rw [hstage]; trivial
      refine ⟨hsound.housed.leave not_false, ?_, fun hwatch => .inl ?_⟩
      · exact (hsound.told.breakDown (.inl rfl)).move False.elim (fun _ => rfl) nofun
          (by simp [hstage])
      · exact hsound.cancelled_of_hasPlace hplace hwatch
  | @failed task failure hstage =>
      have hplace : (crew.stage task).hasPlace := by rw [hstage]; trivial
      refine ⟨hsound.housed.stay (iff_of_true trivial hplace), ?_, hsound.halted⟩
      exact hsound.told.fail failure hstage
  | @withdrew task failure hstage =>
      have hplace : (crew.stage task).hasPlace := by rw [hstage]; trivial
      have hfailed : (crew.stage task).hasFailed := by rw [hstage]; trivial
      refine ⟨hsound.housed.stay (iff_of_true trivial hplace), ?_, fun _ => .inl rfl⟩
      exact hsound.told.cancel.move (fun _ => hsound.told.failures task hfailed) nofun nofun
        fun _ _ => rfl
  | @vacated task failure hstage =>
      have hplace : (crew.stage task).hasPlace := by rw [hstage]; trivial
      have hfailed : (crew.stage task).hasFailed := by rw [hstage]; trivial
      refine ⟨hsound.housed.leave not_false, ?_, fun hwatch => .inl ?_⟩
      · exact hsound.told.move (fun _ => hsound.told.failures task hfailed) nofun nofun
          (by simp [hstage])
      · exact hsound.cancelled_of_hasPlace hplace hwatch
  | cancelled => exact ⟨hsound.housed, hsound.told.cancel, fun _ => .inl rfl⟩
  | awaited hwatch => exact ⟨hsound.housed, hsound.told, nofun⟩
  | noticed hwatch hbroken =>
      have hkept := hsound.told.cancel.keep (.internal "a task broke down") (.inl rfl)
      rw [WorkerPool.notice_of_brokenDown hbroken]
      exact ⟨hsound.housed, hkept.breakDown (.inr (by simp)), fun _ => .inl rfl⟩
  | gaveUp hwatch hcancelled => exact ⟨hsound.housed, hsound.told, fun _ => .inl hcancelled⟩
  | ranOut hwatch hrunning hbroken =>
      exact ⟨hsound.housed, hsound.told, fun _ => .inr ⟨hrunning, hbroken⟩⟩

theorem sound_of_leadsTo (cancelled : Bool) (hleads : LeadsTo (fresh size cancelled) crew) :
    crew.Sound size := by
  induction hleads with
  | refl => exact sound_fresh size cancelled
  | tail _ hstep ih => exact ih.step hstep

/-! ## Refusals -/

/-- A task that was refused does not run later either. -/
theorem refused_of_step
    (hstep : Step crew later) (hrefused : crew.stage task = .refused) :
    later.stage task = .refused := by
  have hmove {other : ℕ} {stage next : Stage} (hstage : crew.stage other = stage)
      (hother : stage ≠ .refused) : (crew.move other next).stage task = .refused := by
    have hne : task ≠ other := by
      rintro rfl
      exact hother (hstage.symm.trans hrefused)
    exact (Function.update_of_ne hne next crew.stage).trans hrefused
  cases hstep with
  | offered hwatch hstage hdispatch => exact hmove hstage nofun
  | began hstage => exact hmove hstage nofun
  | succeeded hstage => exact hmove hstage nofun
  | brokeDown hstage => exact hmove hstage nofun
  | failed failure hstage => exact hmove hstage nofun
  | withdrew hstage => exact hmove hstage nofun
  | vacated hstage => exact hmove hstage nofun
  | cancelled => exact hrefused
  | awaited hwatch => exact hrefused
  | noticed hwatch hbroken => exact hrefused
  | gaveUp hwatch hcancelled => exact hrefused
  | ranOut hwatch hrunning hbroken => exact hrefused

theorem refused_of_leadsTo
    (hleads : LeadsTo crew later) (hrefused : crew.stage task = .refused) :
    later.stage task = .refused := by
  induction hleads with
  | refl => exact hrefused
  | tail _ hstep ih => exact refused_of_step hstep ih

/-! ## Results -/

/-- What `WorkerPool.wait?` does in one go, steps of a crew do as well. -/
theorem exists_stopped_of_wait?
    {outcome : Except Failure Unit} {pool : WorkerPool} (hwatch : crew.watch = .waiting)
    (hwait : crew.pool.wait? = (some outcome, pool)) :
    ∃ later, LeadsTo crew later ∧ later.watch = .stopped ∧ later.pool = pool ∧
      pool.result = outcome := by
  obtain ⟨noticed, hnoticed, hstill, hpool, hbroken⟩ : ∃ noticed, LeadsTo crew noticed ∧
      noticed.watch = .waiting ∧ noticed.pool = crew.pool.notice ∧
        noticed.pool.brokenDown = false := by
    by_cases hbroken : crew.pool.brokenDown = true
    · refine ⟨_, .single (.noticed hwatch hbroken), hwatch, rfl, ?_⟩
      rw [WorkerPool.notice_of_brokenDown hbroken]
      rfl
    · exact ⟨crew, .refl, hwatch, by rw [WorkerPool.notice, if_neg hbroken],
        Bool.eq_false_iff.mpr hbroken⟩
  unfold WorkerPool.wait? at hwait
  rw [← hpool] at hwait
  dsimp only at hwait
  split at hwait
  next hends =>
    cases hwait
    rcases Bool.or_eq_true_iff.mp hends with hcancelled | hempty
    · exact ⟨_, hnoticed.tail (.gaveUp hstill hcancelled), rfl, rfl, rfl⟩
    · exact ⟨_, hnoticed.tail (.ranOut hstill (List.isEmpty_iff.mp hempty) hbroken), rfl, rfl, rfl⟩
  next => cases hwait

theorem Sound.length_le
    (hsound : crew.Sound size) {tasks : List ℕ} (hdistinct : tasks.Nodup)
    (hruns : ∀ task ∈ tasks, (crew.stage task).runs) : tasks.length ≤ max size 1 := by
  have hsubset : tasks ⊆ crew.pool.running := fun task hmem =>
    (hsound.housed.places task).mpr (Stage.hasPlace_of_runs (hruns task hmem))
  have hlength := (hdistinct.subperm hsubset).length_le
  have hroom := hsound.housed.room
  rw [hsound.housed.limit_eq] at hroom
  exact Nat.le_trans hlength hroom

theorem Sound.result_of_recorded
    (hsound : crew.Sound size) {failure : Failure} {others : List Failure}
    (hrecorded : crew.recorded = failure :: others) : crew.pool.result = .error failure := by
  have hfirst := hsound.told.first_eq
  rw [hrecorded] at hfirst
  rw [WorkerPool.result, hfirst]
  rfl

theorem Sound.result_of_cancelled
    (hsound : crew.Sound size) (hrecorded : crew.recorded = [])
    (hcancelled : crew.pool.cancelled = true) : crew.pool.result = .error .cancelled := by
  have hfirst := hsound.told.first_eq
  rw [hrecorded] at hfirst
  rw [WorkerPool.result, hfirst]
  exact if_pos hcancelled

theorem Sound.result_eq_ok_iff
    (hsound : crew.Sound size) (hwatch : crew.watch = .stopped) :
    crew.pool.result = .ok () ↔ crew.pool.cancelled = false ∧
      ∀ task, crew.stage task = .outside ∨ crew.stage task = .ended .success := by
  obtain ⟨hhoused, htold, hhalted⟩ := hsound
  constructor
  · intro hresult
    have hrecorded : crew.recorded = [] := by
      cases hrecorded : crew.recorded with
      | nil => rfl
      | cons failure others =>
          rw [Sound.result_of_recorded ⟨hhoused, htold, hhalted⟩ hrecorded] at hresult
          cases hresult
    have hcancelled : crew.pool.cancelled = false := by
      rw [← Bool.not_eq_true]
      intro hcancelled
      rw [Sound.result_of_cancelled ⟨hhoused, htold, hhalted⟩ hrecorded hcancelled] at hresult
      cases hresult
    -- what is left is that waiting has stopped because nothing ran any more
    obtain ⟨hrunning, hbroken⟩ := (hhalted hwatch).resolve_left (by simp [hcancelled])
    refine ⟨hcancelled, fun task => ?_⟩
    have hplace := hhoused.places task
    have hfailed := htold.failures task
    have hended := htold.breakdowns task
    have hrefused := htold.refusals task
    simp only [hrunning, List.not_mem_nil, false_iff] at hplace
    cases hstage : crew.stage task with
    | outside => exact .inl rfl
    | refused => exact absurd (hrefused hstage) (by simp [hcancelled])
    | ready | underWay | failing | withdrawing =>
        rw [hstage] at hplace
        exact absurd trivial hplace
    | ended ending =>
        cases ending with
        | success => exact .inr rfl
        | failure failure => exact absurd hrecorded (hfailed (by rw [hstage]; trivial))
        | breakdown => exact absurd hrecorded (by simpa [hbroken] using hended hstage)
  · rintro ⟨hcancelled, htasks⟩
    have hrecorded : crew.recorded = [] := by
      by_contra hrecorded
      rcases htold.causes hrecorded with htrue | ⟨task, failure, hfailing⟩
      · rw [hcancelled] at htrue
        cases htrue
      · rcases htasks task with hstage | hstage <;> rw [hfailing] at hstage <;> cases hstage
    have hfirst := htold.first_eq
    rw [hrecorded] at hfirst
    rw [WorkerPool.result, hfirst]
    exact if_neg (by simp [hcancelled])

/-- However the steps of tasks, dispatching, waiting and cancellation are mixed, no more tasks run
than there is room for, a cancelled pool takes no task, and what a pool tells at the end is the
failure that was written down first; without one, it is a cancellation if there was one, and a
success exactly if every task that was offered has succeeded. -/
theorem first_failure_wins
    (size : ℕ) (cancelled : Bool) (hleads : LeadsTo (fresh size cancelled) crew) :
    (∀ tasks : List ℕ, tasks.Nodup → (∀ task ∈ tasks, (crew.stage task).runs) →
      tasks.length ≤ max size 1) ∧
    (crew.pool.cancelled = true → ∀ task, crew.pool.dispatch task = (.refused, crew.pool)) ∧
    (∀ task later, crew.stage task = .refused → LeadsTo crew later →
      later.stage task = .refused) ∧
    (crew.watch = .waiting → ∀ outcome pool, crew.pool.wait? = (some outcome, pool) →
      ∃ later, LeadsTo crew later ∧ later.watch = .stopped ∧ later.pool = pool ∧
        pool.result = outcome) ∧
    (crew.watch = .stopped →
      (crew.pool.result = .ok () ↔ crew.pool.cancelled = false ∧
        ∀ task, crew.stage task = .outside ∨ crew.stage task = .ended .success) ∧
      (∀ failure others, crew.recorded = failure :: others →
        crew.pool.result = .error failure) ∧
      (crew.recorded = [] → crew.pool.cancelled = true →
        crew.pool.result = .error .cancelled)) := by
  have hsound := sound_of_leadsTo cancelled hleads
  refine ⟨fun _ => hsound.length_le, ?_, ?_, ?_, fun hwatch => ⟨?_, ?_, ?_⟩⟩
  · intro hcancelled task
    rw [WorkerPool.dispatch, if_pos hcancelled]
  · intro task later hrefused hlater
    exact refused_of_leadsTo hlater hrefused
  · intro hwatch outcome pool hwait
    exact exists_stopped_of_wait? hwatch hwait
  · exact hsound.result_eq_ok_iff hwatch
  · intro failure others hrecorded
    exact hsound.result_of_recorded hrecorded
  · intro hrecorded hcancelled
    exact hsound.result_of_cancelled hrecorded hcancelled

/-- The task that cancels the pool is not the one whose failure was written down first. -/
theorem first_failure_wins_over_cancelling_task :
    ∃ crew : Crew, LeadsTo (fresh 2 false) crew ∧ crew.watch = .stopped ∧
      crew.recorded = [.database "first", .database "second"] ∧
      crew.pool.result = .error (.database "first") := by
  have hboth : LeadsTo (fresh 2 false) _ :=
    (((Relation.ReflTransGen.refl.tail (@Step.offered _ 0 _ _ rfl rfl rfl)).tail
      (@Step.offered _ 1 _ _ rfl rfl rfl)).tail (@Step.began _ 0 rfl)).tail (@Step.began _ 1 rfl)
  have hfailed := (hboth.tail (@Step.failed _ 1 (.database "first") rfl)).tail
    (@Step.failed _ 0 (.database "second") rfl)
  have hstopped := ((hfailed.tail (@Step.withdrew _ 0 _ rfl)).tail (.awaited rfl)).tail
    (.gaveUp rfl rfl)
  refine ⟨_, hstopped, rfl, rfl, ?_⟩
  exact ((first_failure_wins 2 false hstopped).2.2.2.2 rfl).2.1 _ _ rfl

end Crew

end SqlPipe
