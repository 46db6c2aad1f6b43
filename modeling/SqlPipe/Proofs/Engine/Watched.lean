import SqlPipe.Proofs.Engine.Runs
import SqlPipe.Proofs.Line.Watched

/-!
# Engines under watch

An engine whose destination is watched does what it would do without: it sends the same statements
on the same connections, reports the same progress and keeps the same rows.  Each operation of the
engine is compared with itself on the line without the tally, and calls are then compared one by
one.
-/

namespace SqlPipe

variable {σ : Type}

def Call.watched : Call σ → Call (σ × Tally)
  | .exec text => .exec text
  | .flush => .flush
  | .close => .close
  | .meanwhile change => .meanwhile fun (world, tally) => (change world, tally)

namespace Engine

def unwatched (engine : Engine (σ × Tally)) : Engine σ := ⟨engine.sink, engine.line.unwatched⟩

def forget (done : Outcome × Engine (σ × Tally)) : Outcome × Engine σ :=
  (done.1, done.2.unwatched)

theorem sink_unwatched (engine : Engine (σ × Tally)) : engine.unwatched.sink = engine.sink := rfl

theorem line_unwatched (engine : Engine (σ × Tally)) :
    engine.unwatched.line = engine.line.unwatched := rfl

theorem forget_counted (done : Outcome × Engine (σ × Tally)) :
    forget (counted done) = counted (forget done) :=
  map_andThen fun _ => rfl

variable (destination : Destination σ) (engine : Engine (σ × Tally))

theorem forget_after (done : Outcome × Line (σ × Tally)) :
    forget (engine.after done) = engine.unwatched.after (Line.forget done) := rfl

theorem forget_runOn (connection : Connection) (message : Message) :
    forget (engine.runOn destination.watched connection message) =
      engine.unwatched.runOn destination connection message := by
  rw [runOn, forget_after, Line.forget_run]
  rfl

theorem forget_sentTo (wanted : ℕ) (texts : List String) :
    forget (engine.after (engine.line.runOnMany destination.watched texts wanted)) =
      engine.unwatched.after (engine.unwatched.line.runOnMany destination texts wanted) := by
  rw [forget_after, Line.forget_runOnMany]
  rfl

/-! ## Flushing -/

theorem forget_flushOnSentry (connection : Connection) (batches : List Insert) :
    forget (engine.flushOnSentry destination.watched connection batches) =
      engine.unwatched.flushOnSentry destination connection batches := by
  induction batches generalizing engine with
  | nil => rfl
  | cons batch others ih =>
      rw [flushOnSentry, flushOnSentry, ← forget_runOn]
      exact map_andThen fun engine => ih (engine.countBatches 1)

theorem forget_flush :
    forget (engine.flush destination.watched) = engine.unwatched.flush destination := by
  rw [flush, flush, sink_unwatched]
  dsimp only
  split
  · rfl
  · cases engine.sink.sentry with
    | some sentry => exact forget_flushOnSentry destination engine.emptied _ _
    | none =>
        have hbatches : Line.forget
            (engine.emptied.line.runBatches destination.watched engine.sink.buffers) =
              engine.unwatched.emptied.line.runBatches destination engine.sink.buffers :=
          Line.forget_runBatches destination engine.emptied.line _
        dsimp only
        rw [← hbatches]
        exact map_andThen fun _ => rfl

/-! ## Routing -/

theorem forget_buffer (insert : Insert) :
    forget (engine.buffer destination.watched insert) =
      engine.unwatched.buffer destination insert := by
  unfold buffer
  rw [apply_ite forget, forget_flush]
  rfl

theorem forget_runOnce (text : String) :
    forget (engine.runOnce destination.watched text) =
      engine.unwatched.runOnce destination text := by
  rw [runOnce, runOnce, forget_counted, sink_unwatched]
  congr 1
  cases engine.sink.sentry with
  | some sentry => exact forget_runOn destination engine _ _
  | none =>
      dsimp only
      rw [forget_after, Line.forget_runOnce]
      rfl

theorem forget_beginOn (sentry : Sentry) (text : String) :
    forget (engine.beginOn destination.watched sentry text) =
      engine.unwatched.beginOn destination sentry text := by
  rw [beginOn, beginOn, ← forget_runOn]
  rcases engine.runOn destination.watched sentry.connection (.statement text) with
    ⟨_ | _, engine⟩
  · exact apply_ite _ _ _ _
  · rfl

theorem forget_begin (text : String) :
    forget (engine.begin destination.watched text) = engine.unwatched.begin destination text := by
  rw [begin, begin, sink_unwatched]
  cases engine.sink.sentry with
  | some sentry => exact forget_beginOn destination engine sentry text
  | none =>
      have hacquire := Line.forget_acquire destination engine.line
      rw [line_unwatched, ← hacquire]
      rcases engine.line.acquire destination.watched with ⟨_ | connection, line⟩
      · rfl
      · exact forget_beginOn destination (({ engine with line } : Engine _).bindTo connection) _ _

theorem forget_replay (deferred : List String) :
    forget (engine.replay destination.watched deferred) =
      engine.unwatched.replay destination deferred := by
  unfold replay
  split
  · rfl
  · exact forget_sentTo destination (engine.report _ _) _ _

theorem forget_replayed (done : Outcome × Engine (σ × Tally)) (deferred : List String) :
    forget (andThen (counted done) (·.replay destination.watched deferred)) =
      andThen (counted (forget done)) (·.replay destination deferred) := by
  rw [← forget_counted]
  exact map_andThen fun engine => forget_replay destination engine deferred

theorem forget_endOn (sentry : Sentry) (text : String) :
    forget (engine.endOn destination.watched sentry text) =
      engine.unwatched.endOn destination sentry text := by
  rw [endOn, endOn, ← forget_runOn]
  rcases engine.runOn destination.watched sentry.connection (.statement text) with
    ⟨outcome, engine⟩
  dsimp only
  split
  · exact forget_counted _
  · exact congrArg (Prod.map id (·.release destination sentry.connection))
      (forget_replayed destination _ _)

theorem forget_finish (text : String) :
    forget (engine.finish destination.watched text) =
      engine.unwatched.finish destination text := by
  rw [finish, finish, sink_unwatched]
  cases engine.sink.sentry with
  | some sentry => exact forget_endOn destination engine sentry text
  | none => exact forget_runOnce destination (engine.report _ _) text

theorem forget_broadcast (text : String) :
    forget (engine.broadcast destination.watched text) =
      engine.unwatched.broadcast destination text := by
  rw [broadcast, broadcast, forget_counted, sink_unwatched]
  congr 1
  cases engine.sink.sentry with
  | some sentry =>
      dsimp only
      rw [← forget_runOn]
      exact map_andThen fun _ => rfl
  | none => exact forget_sentTo destination engine _ _

theorem forget_runPinned (text : String) :
    forget (engine.runPinned destination.watched text) =
      engine.unwatched.runPinned destination text := by
  rw [runPinned, runPinned, sink_unwatched]
  cases engine.sink.pinned with
  | some connection =>
      dsimp only
      rw [forget_counted, forget_runOn]
  | none =>
      have hacquire := Line.forget_acquire destination engine.line
      rw [line_unwatched, ← hacquire]
      rcases engine.line.acquire destination.watched with ⟨_ | connection, line⟩
      · rfl
      · dsimp only [Line.forget]
        rw [forget_counted, forget_runOn]
        rfl

theorem forget_deliver (statementClass : StatementClass) (text : String) :
    forget (engine.deliver destination.watched statementClass text) =
      engine.unwatched.deliver destination statementClass text := by
  unfold deliver
  split
  · rfl
  · exact forget_begin destination engine text
  · exact forget_finish destination engine text
  · exact forget_broadcast destination engine text
  all_goals exact forget_runOnce destination engine text

theorem forget_flushed (statementClass : StatementClass) (text : String) :
    forget (engine.flushed destination.watched
        (·.deliver destination.watched statementClass text)) =
      engine.unwatched.flushed destination (·.deliver destination statementClass text) := by
  rw [flushed, flushed, ← forget_flush]
  exact map_andThen fun engine => forget_deliver destination engine statementClass text

theorem unwatched_reportAll (events : List Event) :
    (engine.reportAll events).unwatched = engine.unwatched.reportAll events := by
  induction events generalizing engine with
  | nil => rfl
  | cons event events ih => exact ih _

theorem forget_exec (text : String) :
    forget (engine.exec destination.watched text) = engine.unwatched.exec destination text := by
  rw [exec_eq, exec_eq, ← unwatched_reportAll, Destination.dialect_watched]
  dsimp only
  split
  · rfl
  · rfl
  · rw [apply_ite forget, forget_runPinned, forget_buffer]
    rfl
  · rw [apply_ite forget, forget_runPinned, forget_flushed]
    rfl

/-! ## Runs -/

theorem unwatched_abandonTransaction :
    (engine.abandonTransaction destination.watched).unwatched =
      engine.unwatched.abandonTransaction destination := by
  rw [abandonTransaction, abandonTransaction, sink_unwatched]
  cases engine.sink.sentry <;> rfl

theorem unwatched_unpin :
    (engine.unpin destination.watched).unwatched = engine.unwatched.unpin destination := by
  rw [unpin, unpin, sink_unwatched]
  cases engine.sink.pinned <;> rfl

theorem forget_close :
    forget (engine.close destination.watched) = engine.unwatched.close destination := by
  rw [close, close, ← forget_flush]
  rcases engine.flush destination.watched with ⟨outcome, engine⟩
  have hunpin := unwatched_unpin destination
    { engine.abandonTransaction destination.watched with sink.deferred := [] }
  have habandon := unwatched_abandonTransaction destination engine
  simp only [forget]
  rw [← habandon]
  exact congrArg
    (fun bare : Engine σ => (outcome, { bare with line := bare.line.close destination })) hunpin

/-- An engine answers as it would if its destination were not watched. -/
theorem forget_answer (call : Call σ) :
    forget (engine.answer destination.watched call.watched) =
      engine.unwatched.answer destination call := by
  cases call with
  | exec text => exact forget_exec destination engine text
  | flush => exact forget_flush destination engine
  | close => exact forget_close destination engine
  | meanwhile change => rfl

/-- A watched run does what the run does that nobody watches. -/
theorem unwatched_run (calls : List (Call σ)) :
    (engine.run destination.watched (calls.map Call.watched)).unwatched =
      engine.unwatched.run destination calls := by
  induction calls generalizing engine with
  | nil => rfl
  | cons call calls ih =>
      have hanswer := forget_answer destination engine call
      have hlater : engine.unwatched.run destination (call :: calls) =
          (engine.unwatched.answer destination call).2.run destination calls := rfl
      rw [hlater, ← hanswer]
      exact ih _

end Engine

end SqlPipe
