import SqlPipe.Proofs.Engine.Custody
import SqlPipe.Proofs.Engine.Success

/-!
# The depth of a transaction

An engine counts the ends that will close a transaction.  In a run in which nothing fails the count
follows from the roles of the statements alone: what opens raises it, what closes lowers it, and
nothing else touches it.  A sentry is held as long as the count is positive.
-/

namespace SqlPipe

def Role.turn : Role → ℕ → ℕ
  | .barrier (.transaction .opening), depth => depth + 1
  | .barrier (.transaction .closing), depth => depth - 1
  | _, depth => depth

namespace Sink

theorem depth_of_sentry {sink later : Sink} (hsentry : later.sentry = sink.sentry) :
    later.depth = sink.depth := by
  rw [depth, hsentry, depth]

theorem Sound.inTransaction_iff {limit : ℕ} {sink : Sink} (hsound : sink.Sound limit) :
    sink.inTransaction = true ↔ 0 < sink.depth := by
  cases hsentry : sink.sentry with
  | none => simp [inTransaction, depth, hsentry]
  | some sentry =>
      simpa [inTransaction, depth, hsentry] using hsound.depth_pos sentry hsentry

end Sink

namespace Engine

variable {σ : Type} {destination : Destination σ} {engine later : Engine σ}

theorem depth_begin
    {text : String} (hbegin : engine.begin destination text = (.ok (), later)) :
    later.sink.depth = engine.sink.depth + 1 := by
  unfold Engine.begin at hbegin
  split at hbegin
  next sentry hsentry =>
    obtain ⟨-, hlater, -, -⟩ := beginOn_eq_ok hbegin
    simp [Sink.depth, hlater, hsentry]
  next hsentry =>
    split at hbegin
    next connection line hacquire =>
      obtain ⟨-, hlater, -, -⟩ := beginOn_eq_ok hbegin
      simp [Sink.depth, hlater, hsentry]
    next => cases (Prod.mk.inj hbegin).1

theorem sentry_replay (engine : Engine σ) (deferred : List String) :
    (engine.replay destination deferred).2.sink.sentry = engine.sink.sentry := by
  unfold Engine.replay
  split <;> rfl

theorem sentry_counted (done : Outcome × Engine σ) :
    (counted done).2.sink.sentry = done.2.sink.sentry := by
  apply andThen_snd (fun later : Engine σ => later.sink.sentry = done.2.sink.sentry) rfl
  intro state hstate
  rw [hstate]
  rfl

theorem depth_endOn
    {sentry : Sentry} {text : String}
    (hend : engine.endOn destination sentry text = (.ok (), later)) :
    later.sink.depth = sentry.depth - 1 := by
  unfold Engine.endOn at hend
  generalize engine.runOn destination sentry.connection (.statement text) = done at hend
  dsimp only at hend
  split at hend
  next hdepth =>
    obtain ⟨state, hstate, rfl⟩ := counted_eq_ok.mp hend
    obtain ⟨-, rfl⟩ := Prod.mk.inj hstate
    rfl
  next hdepth =>
    have hzero : sentry.depth - 1 = 0 := by omega
    obtain ⟨-, rfl⟩ := Prod.mk.inj hend
    have hcounted (cleared : Engine σ) :
        (counted (done.1, cleared.unbind)).2.sink.sentry = none := sentry_counted _
    rw [hzero, Sink.depth]
    have hfree : (andThen (counted (done.1, unbind { done.2 with sink.deferred := [] }))
        fun state => state.replay destination done.2.sink.deferred).2.sink.sentry = none := by
      apply andThen_snd (fun state : Engine σ => state.sink.sentry = none) (hcounted _)
      intro state hstate
      have hsame := hcounted { done.2 with sink.deferred := [] }
      rw [hstate] at hsame
      exact (sentry_replay state _).trans hsame
    exact congrArg (fun sentry => (Option.map Sentry.depth sentry).getD 0) hfree

theorem depth_finish
    {text : String} (hfinish : engine.finish destination text = (.ok (), later)) :
    later.sink.depth = engine.sink.depth - 1 := by
  rcases finish_eq_ok hfinish with ⟨sentry, hsentry, hend⟩ | ⟨hnone, -, hsame⟩
  · rw [depth_endOn hend, Sink.depth, hsentry]
    rfl
  · simp [Sink.depth, hsame.sentry, hnone]

variable {arrived : List Insert}

theorem Consistent.depth_exec
    (hconsistent : engine.Consistent destination arrived) (hmany : 2 ≤ destination.maxOpen)
    {text : String} (hexec : engine.exec destination text = (.ok (), later)) :
    later.sink.depth = (Classify.roleOf destination.dialect text).turn engine.sink.depth := by
  cases hrole : Classify.roleOf destination.dialect text with
  | refused failure =>
      have hfailed := exec_refused engine hrole
      rw [hexec] at hfailed
      exact absurd rfl hfailed
  | skipped =>
      obtain ⟨-, hsame⟩ := exec_skipped_eq_ok hrole hexec
      exact Sink.depth_of_sentry hsame.sentry
  | rows insert =>
      obtain ⟨hsentry, -⟩ := exec_rows_eq_ok hmany hrole hexec
      exact Sink.depth_of_sentry hsentry
  | barrier statementClass =>
      obtain ⟨flushed, hsettled, -, hflushed, hdeliver⟩ :=
        exec_barrier_eq_ok hconsistent.settled hmany hrole hexec
      have hdepth : flushed.sink.depth = engine.sink.depth :=
        Sink.depth_of_sentry hflushed.sentry
      rw [← hdepth]
      unfold deliver at hdeliver
      split at hdeliver
      · obtain ⟨-, rfl⟩ := Prod.mk.inj hdeliver
        rfl
      · exact depth_begin hdeliver
      · exact depth_finish hdeliver
      · obtain ⟨-, hsentry, -⟩ :=
          broadcast_eq_ok hsettled hmany hflushed.buffers hdeliver
        exact Sink.depth_of_sentry hsentry
      all_goals exact Sink.depth_of_sentry (runOnce_eq_ok hdeliver).2.sentry

theorem Consistent.depth_run
    (hconsistent : engine.Consistent destination arrived) (hmany : 2 ≤ destination.maxOpen)
    {texts : List String} (hsucceeds : engine.Succeeds destination (texts.map .exec)) :
    (engine.run destination (texts.map .exec)).sink.depth =
      texts.foldl (fun depth text => (Classify.roleOf destination.dialect text).turn depth)
        engine.sink.depth := by
  induction texts generalizing engine arrived with
  | nil => rfl
  | cons text texts ih =>
      obtain ⟨hfirst, hothers⟩ := hsucceeds
      rw [List.foldl_cons, ← hconsistent.depth_exec hmany (Prod.ext hfirst rfl)]
      exact ih (hconsistent.answer (.exec text)) hothers

end Engine

end SqlPipe
