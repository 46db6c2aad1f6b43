import SqlPipe.Proofs.Engine.Cancellation
import SqlPipe.Proofs.Engine.Trials
import SqlPipe.Proofs.Journal.Merging
import SqlPipe.Workers.Shift

/-!
# Flushes

Whatever becomes of a flush, the buffers are empty behind it.  In a transaction the batches are sent
on its connection, in the order of the buffers, up to the first that fails.  Without a transaction
they are tasks of a pool of workers.  Fewer targets wait than the pool has places, one more at most
with the insert that causes the flush, so no dispatch has to wait: all batches are dispatched before
any of them can fail, and a failure keeps none of them from being sent.
-/

namespace SqlPipe

/-! ## Room for all tasks -/

/-- Where there is room for a task, it is accepted at once, and nothing else happens. -/
theorem Shift.dispatch_of_room
    {shift : Shift} (hlive : shift.pool.cancelled = false)
    (hroom : shift.pool.running.length < shift.pool.limit) (number : ℕ) (task : Task) :
    ∃ later, shift.dispatch number task = (true, later) ∧ later.now = shift.now ∧
      later.marks = shift.marks ∧ later.pool.cancelled = false ∧
      later.pool.limit = shift.pool.limit ∧
      later.pool.running.length = shift.pool.running.length + 1 := by
  have hpool : shift.pool.dispatch number =
      (.accepted, { shift.pool with running := shift.pool.running ++ [number] }) := by
    unfold WorkerPool.dispatch
    rw [if_neg (by simp [hlive]), if_neg (by omega)]
  refine ⟨{ shift with
    pool := { shift.pool with running := shift.pool.running ++ [number] }
    ready := shift.ready ++ [(number, task)] }, ?_, rfl, rfl, hlive, rfl, ?_⟩
  · rw [dispatch, dispatchWithin, hpool]
  · rw [List.length_append, List.length_singleton]

/-- Where there is room for all tasks, they are all accepted at once, and none begins meanwhile. -/
theorem Shift.dispatchAll_of_room
    {shift : Shift} {tasks : List Task} (hlive : shift.pool.cancelled = false)
    (hroom : shift.pool.running.length + tasks.length ≤ shift.pool.limit) (number : ℕ) :
    (shift.dispatchAll number tasks).1 = tasks.map (fun _ => (shift.now, true)) ∧
      (shift.dispatchAll number tasks).2.marks = shift.marks := by
  induction tasks generalizing shift number with
  | nil => exact ⟨rfl, rfl⟩
  | cons task tasks ih =>
      rw [List.length_cons] at hroom
      obtain ⟨later, hfirst, hnow, hmarks, hlater, hlimit, hrunning⟩ :=
        shift.dispatch_of_room hlive (by omega) number task
      obtain ⟨hanswers, hothers⟩ := ih hlater (by omega) (number + 1)
      rw [dispatchAll, hfirst]
      refine ⟨?_, hothers.trans hmarks⟩
      rw [List.map_cons, ← hnow, ← hanswers]

namespace Engine

variable {σ : Type} {destination : Destination σ} {engine : Engine σ}

/-! ## Flushing in a transaction -/

/-- Batches were sent on a connection in order, up to the first that failed. -/
structure InTurn (destination : Destination σ) (connection : Connection) (batches : List Insert)
    (line : Line σ) (trials : List Trial) (result : Outcome) (later : Line σ) : Prop where
  tried : line.Tried destination trials later
  failed : result = Trial.failed destination.dialect trials
  /-- Nothing but the batches was tried, and none was left out. -/
  sent : ∃ sent unsent, batches = sent ++ unsent ∧
    trials.map Trial.execution? = sent.map (fun batch => some (connection, .batch batch)) ∧
    (result = .ok () → unsent = []) ∧
    ∀ failure, result = .error failure →
      ∃ batch reason, sent.getLast? = some batch ∧ failure = .execution batch.toSql reason
  /-- The last one alone may have failed. -/
  others : ∀ trial ∈ trials.dropLast, trial.outcome destination.dialect = .ok ()

theorem ofExecution_eq (text : String) (failure : Failure) :
    ∃ reason, Failure.ofExecution text failure = .execution text reason := by
  cases failure <;> exact ⟨_, rfl⟩

theorem verdict_eq_error
    {dialect : Dialect} {text : String} {answer : Outcome} {failure : Failure}
    (hverdict : dialect.verdict text answer = .error failure) :
    ∃ reason, failure = .execution text reason := by
  unfold Dialect.verdict at hverdict
  split at hverdict
  next => cases hverdict
  next cause =>
    split at hverdict
    next => cases hverdict
    next =>
      obtain ⟨reason, hreason⟩ := ofExecution_eq text cause
      rw [hreason] at hverdict
      exact ⟨reason, (Except.error.inj hverdict).symm⟩

namespace InTurn

variable {connection : Connection} {batch : Insert} {batches : List Insert} {answer : Outcome}
  {line next later : Line σ}

theorem nil (destination : Destination σ) (connection : Connection) (line : Line σ) :
    InTurn destination connection [] line [] (.ok ()) line where
  tried := Line.tried_nil rfl rfl
  failed := rfl
  sent := ⟨[], [], rfl, rfl, fun _ => rfl, fun _ hfailed => nomatch hfailed⟩
  others _ hmem := absurd hmem List.not_mem_nil

/-- The batches behind one that fails are left out. -/
theorem of_failed
    {failure : Failure}
    (htried : line.Tried destination [.execution connection (.batch batch) answer] later)
    (houtcome : destination.dialect.verdict batch.toSql answer = .error failure)
    (batches : List Insert) :
    InTurn destination connection (batch :: batches) line
      [.execution connection (.batch batch) answer] (.error failure) later where
  tried := htried
  failed := by
    have htrial : Trial.outcome destination.dialect
        (.execution connection (.batch batch) answer) = .error failure := houtcome
    simp [Trial.failed, firstFailure, htrial]
  sent := by
    obtain ⟨reason, hreason⟩ := verdict_eq_error houtcome
    refine ⟨[batch], batches, rfl, rfl, ?_, ?_⟩
    · rintro ⟨⟩
    · rintro _ ⟨⟩
      exact ⟨batch, reason, rfl, hreason⟩
  others _ hmem := absurd hmem List.not_mem_nil

theorem cons
    {trials : List Trial} {result : Outcome}
    (htried : line.Tried destination [.execution connection (.batch batch) answer] next)
    (houtcome : destination.dialect.verdict batch.toSql answer = .ok ())
    (hothers : InTurn destination connection batches next trials result later) :
    InTurn destination connection (batch :: batches) line
      (.execution connection (.batch batch) answer :: trials) result later := by
  have htrial : Trial.outcome destination.dialect
      (.execution connection (.batch batch) answer) = .ok () := houtcome
  obtain ⟨sent, unsent, hsplit, hexecutions, hall, hlast⟩ := hothers.sent
  refine ⟨htried.append hothers.tried, ?_, ⟨batch :: sent, unsent, ?_, ?_, hall, ?_⟩, ?_⟩
  · rw [hothers.failed, Trial.failed, Trial.failed, List.map_cons, htrial]
    rfl
  · rw [hsplit, List.cons_append]
  · simp [hexecutions, Trial.execution?]
  · intro failure hfailed
    obtain ⟨other, reason, hother, hreason⟩ := hlast failure hfailed
    exact ⟨other, reason, by simp [List.getLast?_cons, hother], hreason⟩
  · intro trial hmem
    by_cases hnone : trials = []
    · simp [hnone] at hmem
    · rw [List.dropLast_cons_of_ne_nil hnone] at hmem
      rcases List.mem_cons.mp hmem with rfl | hmem
      · exact htrial
      · exact hothers.others trial hmem

end InTurn

theorem exists_inTurn
    (destination : Destination σ) (engine : Engine σ) (connection : Connection)
    (batches : List Insert) :
    let done := engine.flushOnSentry destination connection batches
    ∃ trials,
      InTurn destination connection batches engine.line trials done.1 done.2.line ∧
      done.2.sink =
        (engine.countBatches (trials.countP (·.outcome destination.dialect = .ok ()))).sink := by
  induction batches generalizing engine with
  | nil => exact ⟨[], .nil destination connection engine.line, rfl⟩
  | cons batch batches ih =>
      obtain ⟨answer, htried, houtcome⟩ :=
        Line.tried_run destination engine.line connection (.batch batch)
      have htrial : destination.dialect.verdict batch.toSql answer =
          (engine.runOn destination connection (.batch batch)).1 := houtcome.symm
      simp only [flushOnSentry]
      cases hdone : engine.runOn destination connection (.batch batch) with
      | mk outcome next =>
          rw [hdone] at htrial
          have hline : (engine.line.run destination connection (.batch batch)).2 = next.line :=
            congrArg (fun done => done.2.line) hdone
          rw [hline] at htried
          have hsink : next.sink = engine.sink := congrArg (fun done => done.2.sink) hdone.symm
          cases outcome with
          | error failure =>
              refine ⟨_, .of_failed htried htrial batches, ?_⟩
              simp [andThen, Trial.outcome, Message.text, htrial, hsink, countBatches]
          | ok =>
              obtain ⟨trials, hothers, hcounted⟩ := ih (next.countBatches 1)
              refine ⟨_, .cons htried htrial hothers, hcounted.trans ?_⟩
              simp [countBatches, hsink, Trial.outcome, Message.text, htrial, Nat.add_assoc,
                Nat.add_comm]

/-- In a transaction the batches are sent in turn on its connection. -/
theorem exists_inTurn_flush
    (destination : Destination σ) (hfull : engine.sink.buffers ≠ []) {sentry : Sentry}
    (hsentry : engine.sink.sentry = some sentry) :
    let done := engine.flush destination
    ∃ trials,
      InTurn destination sentry.connection engine.sink.buffers engine.line trials done.1
        done.2.line ∧
      done.2.sink = (engine.emptied.countBatches
        (trials.countP (·.outcome destination.dialect = .ok ()))).sink := by
  obtain ⟨trials, hturn, hsink⟩ :=
    exists_inTurn destination engine.emptied sentry.connection engine.sink.buffers
  have hemptied : engine.line.Tried destination [] engine.emptied.line :=
    Line.tried_nil rfl (messages_emptied engine)
  rw [flush_of_sentry hfull hsentry]
  exact ⟨trials, ⟨hemptied.append hturn.tried, hturn.failed, hturn.sent, hturn.others⟩, hsink⟩

/-! ## Flushing without a transaction -/

theorem flush_of_free
    (hfull : engine.sink.buffers ≠ []) (hsentry : engine.sink.sentry = none) :
    engine.flush destination =
      andThen (engine.emptied.after
        (engine.emptied.line.runBatches destination engine.sink.buffers)) fun later =>
          (.ok (), later.countBatches engine.sink.buffers.length) := by
  unfold flush
  rw [if_neg (by simpa using hfull)]
  dsimp only
  rw [hsentry]

theorem flush_of_free_parts
    (destination : Destination σ) (hfull : engine.sink.buffers ≠ [])
    (hsentry : engine.sink.sentry = none) :
    let flush := engine.flush destination
    let done := engine.emptied.line.runBatches destination engine.sink.buffers
    flush.1 = done.1 ∧ flush.2.line = done.2 ∧
      flush.2.sink = (engine.emptied.countBatches
        (if flush.1 = .ok () then engine.sink.buffers.length else 0)).sink := by
  rw [flush_of_free hfull hsentry]
  cases hdone : engine.emptied.line.runBatches destination engine.sink.buffers with
  | mk outcome line => cases outcome <;> exact ⟨rfl, rfl, rfl⟩

/-- Outside of transactions all batches are dispatched, unless cancellation is requested. -/
theorem exists_dispatched
    (hfull : engine.sink.buffers ≠ []) (hsentry : engine.sink.sentry = none)
    (hbefore : engine.line.cancelled destination = false)
    (hbehind : (engine.flush destination).2.line.cancelled destination = false) :
    ∃ trials,
      engine.line.Dispatched destination engine.sink.buffers trials
        (engine.flush destination).2.line ∧
      (engine.flush destination).1 = Trial.failed destination.dialect trials := by
  obtain ⟨houtcome, hline, -⟩ := flush_of_free_parts destination hfull hsentry
  rw [houtcome, hline]
  rw [hline] at hbehind
  have hlive : engine.emptied.line.cancelled destination = false := hbefore
  obtain ⟨trials, hdispatched, hfailed⟩ := Line.dispatched_runBatches hlive hbehind
  have hemptied : engine.line.Tried destination [] engine.emptied.line :=
    Line.tried_nil rfl (messages_emptied engine)
  exact ⟨trials, ⟨hemptied.append hdispatched.tried, hdispatched.checkouts,
    hdispatched.executions⟩, hfailed⟩

/-! ## All flushes -/

/-- A flush counts itself and the batches that it has executed, and empties the buffers. -/
theorem exists_sink_flush (destination : Destination σ) (hfull : engine.sink.buffers ≠ []) :
    ∃ n, (engine.flush destination).2.sink = (engine.emptied.countBatches n).sink := by
  cases hsentry : engine.sink.sentry with
  | none => exact ⟨_, (flush_of_free_parts destination hfull hsentry).2.2⟩
  | some sentry =>
      obtain ⟨trials, -, hsink⟩ := exists_inTurn_flush destination hfull hsentry
      exact ⟨_, hsink⟩

theorem Consistent.collected
    {arrived : List Insert} (hconsistent : engine.Consistent destination arrived) :
    ∃ waiting, waiting <:+ arrived ∧ engine.sink.buffers = Sink.collected waiting := by
  obtain ⟨outgoing, turn, htold⟩ := hconsistent.told
  have hsuffix := engine.line.journal.flushedLast_unflushed_suffix
  have hbuffers := engine.line.journal.waiting_eq_collected
  rw [htold] at hsuffix hbuffers
  exact ⟨engine.line.journal.unflushed, (List.suffix_append _ _).trans hsuffix, hbuffers⟩

/-- A flush can be asked for between two calls, and rows that arrive can cause one.  Either way its
batches have room in the pool. -/
theorem length_arriving_le
    {arrived : List Insert} (hconsistent : engine.Consistent destination arrived)
    (arriving : Option Insert) :
    (arriving.elim engine.sink engine.sink.addInsert).buffers.length ≤
      max destination.maxOpen 1 := by
  have hlength : engine.sink.buffers.length + 1 ≤ max destination.maxOpen 1 := by
    by_cases hmany : 2 ≤ destination.maxOpen
    · have hfew := (hconsistent.sound.many hmany).2
      omega
    · have hnone := (hconsistent.sound.single (by omega)).1
      rw [hnone, List.length_nil]
      exact Nat.le_max_right _ 1
  cases arriving with
  | none => exact (Nat.le_succ _).trans hlength
  | some insert => exact (Sink.length_addRows_le insert engine.sink.buffers).trans hlength

theorem collected_arriving
    {arrived : List Insert} (hconsistent : engine.Consistent destination arrived)
    (arriving : Option Insert) :
    ∃ waiting, waiting <:+ arrived ++ arriving.toList ∧
      (arriving.elim engine.sink engine.sink.addInsert).buffers = Sink.collected waiting := by
  obtain ⟨waiting, hsuffix, hbuffers⟩ := hconsistent.collected
  cases arriving with
  | none => exact ⟨waiting, by simpa using hsuffix, hbuffers⟩
  | some insert =>
      obtain ⟨before, rfl⟩ := hsuffix
      refine ⟨waiting ++ [insert], ⟨before, by simp⟩, ?_⟩
      rw [Sink.collected_concat, ← hbuffers]
      rfl

/-- A destination that refuses the second checkout and on which rows for one table fail. -/
def failingWorld : Rehearsal :=
  .fresh [2] [⟨"`a`", none, none, some (.database "disk full"), false⟩] []

end Engine

end SqlPipe
