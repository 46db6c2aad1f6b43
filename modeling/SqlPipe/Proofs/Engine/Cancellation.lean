import SqlPipe.Engine.Rehearsal
import SqlPipe.Proofs.Engine.Quiet
import SqlPipe.Proofs.Engine.Runs
import SqlPipe.Proofs.Engine.Solo

/-!
# Cancellation

Only a flush sends batches.  Without a transaction it asks first whether cancellation was requested,
and then sends nothing; the rows that waited are lost.  On the connection of an open transaction it
does not ask, so there it goes on as if nothing had been requested.  Since only a flush sends
batches, every batch that is sent after a cancellation is sent inside a transaction.
-/

namespace SqlPipe

/-! ## Batches inside transactions -/

namespace Journal

variable {earlier journal later : Journal}

/-- Behind an earlier journal, batches were sent on the connection of an open transaction only. -/
inductive BatchesInside (earlier : Journal) : Journal → Prop
  | here : BatchesInside earlier earlier
  | note {journal : Journal} {action : Action} (hinside : BatchesInside earlier journal)
      (haction : ∀ connection batch, action = .sent connection (.batch batch) →
        journal.ledger.sentry = some connection) : BatchesInside earlier (action :: journal)

theorem BatchesInside.trans
    (hinside : BatchesInside earlier journal) (hlater : BatchesInside journal later) :
    BatchesInside earlier later := by
  induction hlater with
  | here => exact hinside
  | note _ haction ih => exact ih.note haction

theorem QuietSince.batchesInside (hquiet : QuietSince earlier journal) :
    BatchesInside earlier journal := by
  induction hquiet with
  | here => exact .here
  | note _ haction ih =>
      refine ih.note fun connection batch hsent => ?_
      rw [hsent] at haction
      exact haction.elim

/-- At every place behind the earlier journal where a batch was sent, a transaction was open on its
connection. -/
theorem BatchesInside.sentry_eq
    (hinside : BatchesInside earlier journal) {above below : Journal} {connection : Connection}
    {batch : Insert} (hjournal : journal = above ++ .sent connection (.batch batch) :: below)
    (hbehind : earlier <:+ below) : below.ledger.sentry = some connection := by
  induction hinside generalizing above with
  | here =>
      -- Nothing stands behind the earlier journal yet, so there is no room for the batch.
      have hlength := hbehind.length_le
      rw [hjournal, List.length_append, List.length_cons] at hlength
      omega
  | @note journal action hinside haction ih =>
      cases above with
      | nil =>
          obtain ⟨rfl, rfl⟩ := List.cons_eq_cons.mp hjournal
          exact haction connection batch rfl
      | cons _ above =>
          obtain ⟨-, rfl⟩ := List.cons_eq_cons.mp hjournal
          exact ih rfl

end Journal

/-! ## Cancellation for good -/

/-- Once cancellation was requested, nothing that is done to the destination takes it back. -/
structure Destination.CancelsForGood {σ : Type} (destination : Destination σ) : Prop where
  acquire : ∀ world, destination.cancelled world = true →
    destination.cancelled (destination.acquire world).2 = true
  execute : ∀ connection text world, destination.cancelled world = true →
    destination.cancelled (destination.execute connection text world).2 = true
  release : ∀ connection world, destination.cancelled world = true →
    destination.cancelled (destination.release connection world) = true
  close : ∀ world, destination.cancelled world = true →
    destination.cancelled (destination.close world) = true

/-- The call does not take a cancellation back. -/
def Call.KeepsCancelled {σ : Type} (destination : Destination σ) : Call σ → Prop
  | .exec _ | .flush | .close => True
  | .meanwhile change => ∀ world, destination.cancelled world = true →
      destination.cancelled (change world) = true

namespace Line

variable {σ : Type} {destination : Destination σ} {line later : Line σ}

theorem Step.cancelled
    (hgood : destination.CancelsForGood) (hstep : Step destination line later)
    (hcancelled : line.cancelled destination = true) : later.cancelled destination = true := by
  cases hstep with
  | acquired hacquire =>
      have hworld := hgood.acquire line.world hcancelled
      rwa [hacquire] at hworld
  | refused hacquire =>
      have hworld := hgood.acquire line.world hcancelled
      rwa [hacquire] at hworld
  | sent => exact hgood.execute _ _ _ hcancelled
  | released => exact hgood.release _ _ hcancelled
  | inner => exact hcancelled

theorem cancelled_of_steps
    (hgood : destination.CancelsForGood)
    (hsteps : Relation.ReflTransGen (Step destination) line later)
    (hcancelled : line.cancelled destination = true) : later.cancelled destination = true := by
  induction hsteps with
  | refl => exact hcancelled
  | tail _ hstep ih => exact hstep.cancelled hgood ih

/-! ## Batches of a transaction -/

theorem journal_judge
    (dialect : Dialect) (text : String) (line : Line σ) (outcome : Outcome) :
    (judge dialect text line outcome).2.journal = line.journal ∨
      ∃ event, (judge dialect text line outcome).2.journal = .reported event :: line.journal := by
  unfold judge
  split
  · exact .inr ⟨_, rfl⟩
  · split
    · exact .inr ⟨_, rfl⟩
    · exact .inl rfl

/-- A batch that is run on the connection of an open transaction is sent inside it, and leaves it
open. -/
theorem batchesInside_run
    {connection : Connection} (hsentry : line.journal.ledger.sentry = some connection)
    (batch : Insert) :
    let later := (line.run destination connection (.batch batch)).2
    line.journal.BatchesInside later.journal ∧ later.journal.ledger.sentry = some connection := by
  have hstarted : Journal.BatchesInside line.journal (.started connection :: line.journal) :=
    .note .here nofun
  have hsent : Journal.BatchesInside line.journal
      (.sent connection (.batch batch) :: .started connection :: line.journal) := by
    refine hstarted.note ?_
    rintro _ _ ⟨⟩
    exact hsentry
  rcases journal_judge destination.dialect (Message.batch batch).text
      ({ line.start connection with
        world := (destination.execute connection (Message.batch batch).text line.world).2 }.note
          (.sent connection (.batch batch)))
      (destination.execute connection (Message.batch batch).text line.world).1 with
    hjournal | ⟨event, hjournal⟩
  · exact ⟨hjournal ▸ hsent, hjournal ▸ hsentry⟩
  · exact ⟨hjournal ▸ hsent.note nofun, hjournal ▸ hsentry⟩

theorem runBatches_of_cancelled
    (hcancelled : line.cancelled destination = true) (batches : List Insert) :
    line.runBatches destination batches = (.error .cancelled, line) :=
  if_pos hcancelled

end Line

namespace Engine

variable {σ : Type} {destination : Destination σ} {engine : Engine σ}

/-! ## Flushing after a cancellation -/

/-- The journal tells of the transaction that the sink has open. -/
def TellsSentry (engine : Engine σ) : Prop :=
  engine.line.journal.ledger.sentry = engine.sink.sentry.map Sentry.connection

theorem Consistent.tellsSentry
    {arrived : List Insert} (hconsistent : engine.Consistent destination arrived) :
    engine.TellsSentry := by
  obtain ⟨outgoing, turn, htold⟩ := hconsistent.told
  exact congrArg Ledger.sentry htold

theorem flush_of_cancelled
    (hcancelled : engine.line.cancelled destination = true) (hfull : engine.sink.buffers ≠ [])
    (hsentry : engine.sink.sentry = none) :
    engine.flush destination = (.error .cancelled, engine.emptied) := by
  have hemptied : engine.emptied.line.cancelled destination = true := hcancelled
  have hbatches := Line.runBatches_of_cancelled hemptied engine.sink.buffers
  unfold flush
  rw [if_neg (by simpa using hfull)]
  dsimp only
  rw [hsentry]
  dsimp only
  rw [hbatches]
  rfl

theorem flush_of_sentry
    (hfull : engine.sink.buffers ≠ []) {sentry : Sentry}
    (hsentry : engine.sink.sentry = some sentry) :
    engine.flush destination =
      engine.emptied.flushOnSentry destination sentry.connection engine.sink.buffers := by
  unfold flush
  rw [if_neg (by simpa using hfull)]
  dsimp only
  rw [hsentry]

theorem ofExecution_ne_cancelled (text : String) (failure : Failure) :
    Failure.ofExecution text failure ≠ .cancelled := by
  cases failure <;> nofun

theorem outcome_runOn_ne_cancelled
    (destination : Destination σ) (engine : Engine σ) (connection : Connection)
    (message : Message) :
    (engine.runOn destination connection message).1 ≠ .error .cancelled := by
  rw [outcome_runOn]
  unfold Dialect.verdict
  split
  · simp
  · split
    · simp
    · exact fun hsame => ofExecution_ne_cancelled _ _ (Except.error.inj hsame)

/-- On the connection of a transaction batches are sent in order, up to the first failure, which is
one of execution.  At least one batch is sent where any waits. -/
theorem flushOnSentry_sends
    (destination : Destination σ) (engine : Engine σ) (connection : Connection)
    (batches : List Insert) :
    let done := engine.flushOnSentry destination connection batches
    done.1 ≠ .error .cancelled ∧
      ∃ sent unsent, batches = sent ++ unsent ∧ (batches ≠ [] → sent ≠ []) ∧
        done.2.messages = engine.messages ++ sent.map (fun batch => (connection, .batch batch)) ∧
        (done.1 = .ok () → unsent = []) := by
  induction batches generalizing engine with
  | nil => exact ⟨by simp [flushOnSentry], [], [], rfl, fun hfull => absurd rfl hfull,
      by simp [flushOnSentry], fun _ => rfl⟩
  | cons batch others ih =>
      have hmessages := messages_runOn destination engine connection (.batch batch)
      have hreal := outcome_runOn_ne_cancelled destination engine connection (.batch batch)
      simp only [flushOnSentry]
      cases hdone : engine.runOn destination connection (.batch batch) with
      | mk outcome next =>
          rw [hdone] at hmessages hreal
          cases outcome with
          | error failure =>
              -- The batch that failed was sent as well.
              exact ⟨hreal, [batch], others, rfl, fun _ => List.cons_ne_nil _ _, hmessages,
                by simp [andThen]⟩
          | ok =>
              obtain ⟨hothers, sent, unsent, hsplit, -, hsent, hall⟩ := ih (next.countBatches 1)
              have hnext : (next.countBatches 1).messages =
                  engine.messages ++ [(connection, .batch batch)] := hmessages
              refine ⟨hothers, batch :: sent, unsent, by rw [hsplit]; rfl,
                fun _ => List.cons_ne_nil _ _, hsent.trans ?_, hall⟩
              rw [hnext, List.append_assoc]
              rfl

theorem batchesInside_flushOnSentry
    {connection : Connection} (hsentry : engine.line.journal.ledger.sentry = some connection)
    (batches : List Insert) :
    engine.line.journal.BatchesInside
      (engine.flushOnSentry destination connection batches).2.line.journal := by
  induction batches generalizing engine with
  | nil => exact .here
  | cons batch others ih =>
      obtain ⟨hinside, hopen⟩ : engine.line.journal.BatchesInside
            (engine.runOn destination connection (.batch batch)).2.line.journal ∧
          (engine.runOn destination connection (.batch batch)).2.line.journal.ledger.sentry =
            some connection := Line.batchesInside_run hsentry batch
      simp only [flushOnSentry]
      apply andThen_snd (fun later : Engine σ =>
        engine.line.journal.BatchesInside later.line.journal) hinside
      intro later hlater
      rw [hlater] at hinside hopen
      have hcounted : (later.countBatches 1).line.journal.ledger.sentry = some connection := hopen
      exact hinside.trans (ih hcounted)

theorem batchesInside_flush
    (hcancelled : engine.line.cancelled destination = true) (htells : engine.TellsSentry) :
    engine.line.journal.BatchesInside (engine.flush destination).2.line.journal := by
  have hemptied : engine.line.journal.BatchesInside engine.emptied.line.journal :=
    .note (.note .here nofun) nofun
  by_cases hfull : engine.sink.buffers = []
  · have hnothing : engine.flush destination = (.ok (), engine) :=
      if_pos (List.isEmpty_iff.mpr hfull)
    rw [hnothing]
    exact .here
  · cases hsentry : engine.sink.sentry with
    | none =>
        rw [flush_of_cancelled hcancelled hfull hsentry]
        exact hemptied
    | some sentry =>
        have hopen : engine.emptied.line.journal.ledger.sentry = some sentry.connection := by
          have htold : engine.line.journal.ledger.sentry = some sentry.connection := by
            rw [htells, hsentry]
            rfl
          exact htold
        rw [flush_of_sentry hfull hsentry]
        exact hemptied.trans (batchesInside_flushOnSentry hopen _)

/-! ## Calls after a cancellation -/

theorem TellsSentry.reportAll (htells : engine.TellsSentry) (events : List Event) :
    (engine.reportAll events).TellsSentry := by
  induction events generalizing engine with
  | nil => exact htells
  | cons event others ih =>
      have hreported : (engine.report event.level event.message).TellsSentry := htells
      exact ih hreported

theorem batchesInside_buffer
    (hcancelled : engine.line.cancelled destination = true) (htells : engine.TellsSentry)
    (insert : Insert) :
    engine.line.journal.BatchesInside (engine.buffer destination insert).2.line.journal := by
  have hadded : engine.line.journal.BatchesInside
      (note { engine with sink := engine.sink.addInsert insert } (.buffered insert)).line.journal :=
    .note .here nofun
  have hflush : Journal.BatchesInside
      (note { engine with sink := engine.sink.addInsert insert } (.buffered insert)).line.journal
      (flush destination
        (note { engine with sink := engine.sink.addInsert insert }
          (.buffered insert))).2.line.journal :=
    batchesInside_flush hcancelled htells
  unfold buffer
  dsimp only
  split
  · exact hadded.trans hflush
  · exact hadded

theorem batchesInside_exec
    (hcancelled : engine.line.cancelled destination = true) (htells : engine.TellsSentry)
    (text : String) :
    engine.line.journal.BatchesInside (engine.exec destination text).2.line.journal := by
  have hreported :=
    (quietTo_reportAll engine (Classify.parse destination.dialect text).2).batchesInside
  have hcancelled' : (engine.reportAll
      (Classify.parse destination.dialect text).2).line.cancelled destination = true := by
    rw [Line.cancelled, world_reportAll]
    exact hcancelled
  have htells' := htells.reportAll (Classify.parse destination.dialect text).2
  rw [exec_eq]
  dsimp only
  -- What the classifier reports changes neither the cancellation nor what the journal tells.
  generalize engine.reportAll (Classify.parse destination.dialect text).2 = reported at *
  refine hreported.trans ?_
  cases Classify.roleOf destination.dialect text with
  | refused failure => exact .here
  | skipped => exact .note .here nofun
  | rows insert =>
      dsimp only
      split
      · exact (quietTo_runPinned destination reported text).batchesInside
      · exact batchesInside_buffer hcancelled' htells' insert
  | barrier statementClass =>
      dsimp only
      split
      · exact (quietTo_runPinned destination reported text).batchesInside
      · have hflush : reported.line.journal.BatchesInside
            (reported.flush destination).2.line.journal := batchesInside_flush hcancelled' htells'
        apply andThen_snd (fun later : Engine σ =>
          reported.line.journal.BatchesInside later.line.journal) hflush
        intro later hlater
        rw [hlater] at hflush
        exact hflush.trans
          (quietTo_deliver destination later statementClass text).batchesInside

theorem batchesInside_close
    (hcancelled : engine.line.cancelled destination = true) (htells : engine.TellsSentry) :
    engine.line.journal.BatchesInside (engine.close destination).2.line.journal := by
  have hflush := batchesInside_flush hcancelled htells
  unfold close
  cases hdone : engine.flush destination with
  | mk outcome flushed =>
      rw [hdone] at hflush
      have habandoned := quietTo_abandonTransaction destination flushed
      have hunpinned := quietTo_unpin destination
        { flushed.abandonTransaction destination with sink.deferred := [] }
      exact (hflush.trans (habandoned.trans hunpinned).batchesInside).note nofun

theorem batchesInside_answer
    (hcancelled : engine.line.cancelled destination = true) (htells : engine.TellsSentry)
    (call : Call σ) :
    engine.line.journal.BatchesInside (engine.answer destination call).2.line.journal := by
  cases call with
  | exec text => exact batchesInside_exec hcancelled htells text
  | flush => exact batchesInside_flush hcancelled htells
  | close => exact batchesInside_close hcancelled htells
  | meanwhile change => exact .here

theorem Consistent.cancelled_answer
    {arrived : List Insert} (hconsistent : engine.Consistent destination arrived)
    (hgood : destination.CancelsForGood) (hcancelled : engine.line.cancelled destination = true)
    {call : Call σ} (hkeeps : call.KeepsCancelled destination) :
    (engine.answer destination call).2.line.cancelled destination = true := by
  have hsettled := hconsistent.settled
  cases call with
  | exec text => exact Line.cancelled_of_steps hgood (hsettled.exec text).steps hcancelled
  | flush => exact Line.cancelled_of_steps hgood hsettled.flush.steps hcancelled
  | close =>
      obtain ⟨bare, hbare, hclose⟩ := hsettled.close_eq
      obtain ⟨outgoing, turn, hleads⟩ := hbare.reached
      have hbefore := Line.cancelled_of_steps hgood hleads.steps hcancelled
      have hanswer : (engine.answer destination .close).2 =
          { bare with line := bare.line.close destination } := hclose
      rw [hanswer]
      exact hgood.close _ hbefore
  | meanwhile change => exact hkeeps _ hcancelled

theorem Consistent.batchesInside_run
    {arrived : List Insert} (hconsistent : engine.Consistent destination arrived)
    (hgood : destination.CancelsForGood) (hcancelled : engine.line.cancelled destination = true)
    {calls : List (Call σ)} (hkeep : ∀ call ∈ calls, call.KeepsCancelled destination) :
    engine.line.journal.BatchesInside (engine.run destination calls).line.journal := by
  induction calls generalizing engine arrived with
  | nil => exact .here
  | cons call calls ih =>
      obtain ⟨hcall, hcalls⟩ := List.forall_mem_cons.mp hkeep
      have hanswer := batchesInside_answer hcancelled hconsistent.tellsSentry call
      exact hanswer.trans
        (ih (hconsistent.answer call) (hconsistent.cancelled_answer hgood hcancelled hcall) hcalls)

theorem close_sends_flush (destination : Destination σ) (engine : Engine σ) :
    (engine.close destination).1 = (engine.flush destination).1 ∧
      (engine.close destination).2.messages = (engine.flush destination).2.messages := by
  unfold close
  cases hdone : engine.flush destination with
  | mk outcome flushed =>
      obtain ⟨habandoned, -⟩ := abandonTransaction_keeps destination flushed
      obtain ⟨hunpinned, -⟩ := unpin_keeps destination
        { flushed.abandonTransaction destination with sink.deferred := [] }
      refine ⟨rfl, Eq.trans ?_ (hunpinned.trans habandoned)⟩
      exact Line.messages_close _

theorem buffered_flush (hfull : engine.sink.buffers ≠ []) :
    (engine.flush destination).2.sink.buffered = 0 := by
  cases hsentry : engine.sink.sentry with
  | some sentry =>
      rw [flush_of_sentry hfull hsentry]
      obtain ⟨stats, hsink⟩ := sink_flushOnSentry destination engine.emptied sentry.connection
        engine.sink.buffers
      rw [hsink]
      rfl
  | none =>
      unfold flush
      rw [if_neg (by simpa using hfull)]
      dsimp only
      rw [hsentry]
      have hemptied : (engine.emptied.after (engine.emptied.line.runBatches destination
          engine.sink.buffers)).2.sink.buffered = 0 := rfl
      apply andThen_snd (fun later : Engine σ => later.sink.buffered = 0) hemptied
      intro later hlater
      rw [hlater] at hemptied
      exact hemptied

/-! ## A cancelled rehearsal -/

theorem cancelsForGood_rehearsal (dialect : Dialect) (maxOpen : ℕ) (overlaps : Bool) :
    (Rehearsal.destination dialect maxOpen overlaps).CancelsForGood where
  acquire world hcancelled := by
    have hsame : (Rehearsal.acquire world).2.cancelled = world.cancelled := by
      unfold Rehearsal.acquire
      split
      · rfl
      · dsimp only
        split
        · rfl
        · split <;> rfl
    exact hsame.trans hcancelled
  execute connection text world hcancelled := by
    have hmore : (Rehearsal.execute connection text world).2.cancelled = true := by
      have hworld : world.cancelled = true := hcancelled
      unfold Rehearsal.execute
      split
      · exact hworld
      · dsimp only
        rw [hworld, Bool.true_or]
    exact hmore
  release _ _ hcancelled := hcancelled
  close _ hcancelled := hcancelled

/-- Calls that leave a row in the buffers when cancellation is requested. -/
def cancelledBehind (calls : List (Call Rehearsal)) : List (Call Rehearsal) :=
  calls ++ [.exec "INSERT INTO t VALUES (1)", .meanwhile Rehearsal.cancel]

/-- An engine that has answered calls to a rehearsal without failures. -/
def rehearsed (calls : List (Call Rehearsal)) : Engine Rehearsal :=
  (fresh 8 (Rehearsal.fresh [] [] [])).run (Rehearsal.destination .mysql 2 false) calls

theorem rehearsed_outside :
    let engine := rehearsed (cancelledBehind [])
    engine.line.cancelled (Rehearsal.destination .mysql 2 false) = true ∧
      engine.sink.buffers ≠ [] ∧ engine.sink.sentry = none := by
  decide +kernel

theorem rehearsed_inside :
    let engine := rehearsed (cancelledBehind [.exec "BEGIN"])
    let flush := engine.flush (Rehearsal.destination .mysql 2 false)
    engine.line.cancelled (Rehearsal.destination .mysql 2 false) = true ∧
      engine.sink.buffers ≠ [] ∧ engine.sink.sentry = some ⟨0, 1⟩ ∧ flush.1 = .ok () ∧
      flush.2.line.journal.sends =
        engine.line.journal.sends ++ [(0, "INSERT INTO `t` VALUES (1)")] := by
  decide +kernel

/-! ## Batches after a cancellation -/

end Engine

end SqlPipe
