import SqlPipe.Proofs.Engine.Settled
import SqlPipe.Proofs.Line.Success

/-!
# What an engine sends

What is sent by an operation of an engine that succeeds.  A flush sends what waits.  A statement
behind a flush is the first message of its delivery, and nothing but statements follow it: only the
end of a transaction sends more than the statement itself, and only a session statement is sent more
than once.
-/

namespace SqlPipe

namespace Engine

variable {σ : Type} {destination : Destination σ} {origin : Line σ} {arrived : List Insert}
variable {engine later : Engine σ}

def messages (engine : Engine σ) : List (Connection × Message) := engine.line.journal.messages

@[simp] theorem messages_report (engine : Engine σ) (level : Level) (message : String) :
    (engine.report level message).messages = engine.messages :=
  Line.messages_report engine.line level message

theorem messages_reportAll (engine : Engine σ) (events : List Event) :
    (engine.reportAll events).messages = engine.messages := by
  induction events generalizing engine with
  | nil => rfl
  | cons event others ih =>
      exact (ih (engine.report event.level event.message)).trans (messages_report _ _ _)

@[simp] theorem sink_reportAll (engine : Engine σ) (events : List Event) :
    (engine.reportAll events).sink = engine.sink := by
  induction events generalizing engine with
  | nil => rfl
  | cons event others ih => exact ih (engine.report event.level event.message)

@[simp] theorem messages_note_buffered (engine : Engine σ) (insert : Insert) :
    (engine.note (.buffered insert)).messages = engine.messages := by
  simp [messages, note, Line.note, Journal.messages_cons, Journal.sentBy?]

@[simp] theorem messages_bindTo (engine : Engine σ) (connection : Connection) :
    (engine.bindTo connection).messages = engine.messages := by
  simp [messages, bindTo, note, Line.note, Journal.messages_cons, Journal.sentBy?]

@[simp] theorem messages_unbind (engine : Engine σ) :
    engine.unbind.messages = engine.messages := by
  simp [messages, unbind, note, Line.note, Journal.messages_cons, Journal.sentBy?]

@[simp] theorem messages_emptied (engine : Engine σ) :
    engine.emptied.messages = engine.messages := by
  simp [messages, emptied, report, Line.report, note, Line.note, Journal.messages_cons,
    Journal.sentBy?]

@[simp] theorem messages_runOn
    (destination : Destination σ) (engine : Engine σ) (connection : Connection)
    (message : Message) :
    (engine.runOn destination connection message).2.messages =
      engine.messages ++ [(connection, message)] :=
  Line.messages_run destination engine.line connection message

@[simp] theorem messages_release
    (destination : Destination σ) (engine : Engine σ) (connection : Connection) :
    (engine.release destination connection).messages = engine.messages :=
  Line.messages_release engine.line connection

theorem counted_eq_ok {done : Outcome × Engine σ} :
    counted done = (.ok (), later) ↔
      ∃ state, done = (.ok (), state) ∧ state.countExecuted 1 = later := by
  simp [counted, andThen_eq_ok]

theorem runOn_eq_ok
    {connection : Connection} {message : Message}
    (hrun : engine.runOn destination connection message = (.ok (), later)) :
    later.messages = engine.messages ++ [(connection, message)] ∧ later.sink = engine.sink := by
  have hmessages := messages_runOn destination engine connection message
  have hsink : (engine.runOn destination connection message).2.sink = engine.sink :=
    sink_runOn engine connection message
  rw [hrun] at hmessages hsink
  exact ⟨hmessages, hsink⟩

/-! ## Flushing -/

theorem sentBatches_flushOnSentry
    {connection : Connection} {batches : List Insert}
    (hflush : engine.flushOnSentry destination connection batches = (.ok (), later)) :
    Line.SentBatches engine.line later.line batches := by
  induction batches generalizing engine with
  | nil =>
      obtain ⟨-, rfl⟩ := Prod.mk.inj hflush
      exact ⟨[], by simp, rfl⟩
  | cons batch others ih =>
      obtain ⟨state, hrun, hothers⟩ := andThen_eq_ok.mp hflush
      have hrest := ih hothers
      exact Line.SentBatches.cons (runOn_eq_ok hrun).1 hrest

theorem sentBatches_flush (hflush : engine.flush destination = (.ok (), later)) :
    Line.SentBatches engine.line later.line engine.sink.buffers := by
  unfold flush at hflush
  dsimp only at hflush
  split at hflush
  next hempty =>
    obtain ⟨-, rfl⟩ := Prod.mk.inj hflush
    rw [List.isEmpty_iff.mp hempty]
    exact ⟨[], by simp, rfl⟩
  next =>
    have hemptied : engine.emptied.line.journal.messages = engine.line.journal.messages :=
      messages_emptied engine
    have hsent : Line.SentBatches engine.emptied.line later.line engine.sink.buffers := by
      split at hflush
      next sentry hsentry => exact sentBatches_flushOnSentry hflush
      next hsentry =>
        obtain ⟨state, hrun, hcount⟩ := andThen_eq_ok.mp hflush
        obtain ⟨-, rfl⟩ := Prod.mk.inj hcount
        have hbatches : engine.emptied.line.runBatches destination engine.sink.buffers =
            (.ok (), state.line) := by
          obtain ⟨houtcome, rfl⟩ := Prod.mk.inj hrun
          exact Prod.ext houtcome rfl
        exact Line.sentBatches_runBatches hbatches
    obtain ⟨sent, hmessages, hbatches⟩ := hsent
    exact ⟨sent, by rw [hmessages, hemptied], hbatches⟩

/-! ## Statements that are sent once -/

/-- The statement was sent once, on the connection of the transaction if one was open. -/
def SentOnce (engine later : Engine σ) (text : String) : Prop :=
  ∃ connection,
    later.messages = engine.messages ++ [(connection, .statement text)] ∧
      ∀ sentry, engine.sink.sentry = some sentry → connection = sentry.connection

theorem sentOnce_of_sentry
    {sentry : Sentry} (hsentry : engine.sink.sentry = some sentry) {text : String}
    (hmessages :
      later.messages = engine.messages ++ [(sentry.connection, .statement text)]) :
    engine.SentOnce later text := by
  refine ⟨sentry.connection, hmessages, ?_⟩
  intro other hother
  rw [Option.some.inj (hsentry.symm.trans hother)]

/-- Neither rows nor connections of the sink have changed. -/
structure SameHold (engine later : Engine σ) : Prop where
  buffers : later.sink.buffers = engine.sink.buffers
  sentry : later.sink.sentry = engine.sink.sentry
  deferred : later.sink.deferred = engine.sink.deferred

theorem SameHold.of_sink (hsink : later.sink = engine.sink) : engine.SameHold later :=
  ⟨congrArg Sink.buffers hsink, congrArg Sink.sentry hsink, congrArg Sink.deferred hsink⟩

theorem runOnce_eq_ok
    {text : String} (hrun : engine.runOnce destination text = (.ok (), later)) :
    engine.SentOnce later text ∧ engine.SameHold later := by
  obtain ⟨state, hdone, rfl⟩ := counted_eq_ok.mp hrun
  split at hdone
  next sentry hsentry =>
    obtain ⟨hmessages, hsink⟩ := runOn_eq_ok hdone
    have hsame := SameHold.of_sink hsink
    exact ⟨sentOnce_of_sentry hsentry hmessages, hsame.buffers, hsame.sentry, hsame.deferred⟩
  next hsentry =>
    obtain ⟨houtcome, rfl⟩ := Prod.mk.inj hdone
    obtain ⟨connection, hmessages⟩ := Line.messages_runOnce (Prod.ext houtcome rfl)
    refine ⟨⟨connection, hmessages, ?_⟩, rfl, rfl, rfl⟩
    intro sentry hsome
    rw [hsentry] at hsome
    cases hsome

/-! ## The beginning and the end of transactions -/

theorem beginOn_eq_ok
    {sentry : Sentry} {text : String}
    (hbegin : engine.beginOn destination sentry text = (.ok (), later)) :
    later.messages = engine.messages ++ [(sentry.connection, .statement text)] ∧
      later.sink.sentry = some { sentry with depth := sentry.depth + 1 } ∧
      later.sink.deferred = engine.sink.deferred ∧
      later.sink.buffers = engine.sink.buffers := by
  unfold beginOn at hbegin
  split at hbegin
  next next hrun =>
    obtain ⟨hmessages, hsink⟩ := runOn_eq_ok hrun
    have hsame := SameHold.of_sink hsink
    obtain ⟨-, rfl⟩ := Prod.mk.inj hbegin
    exact ⟨hmessages, rfl, hsame.deferred, hsame.buffers⟩
  next => split at hbegin <;> cases (Prod.mk.inj hbegin).1

/-- The beginning of a transaction is sent once, where the transaction then is. -/
theorem begin_eq_ok
    {text : String} (hbegin : engine.begin destination text = (.ok (), later)) :
    ∃ connection depth,
      later.messages = engine.messages ++ [(connection, .statement text)] ∧
      (∀ sentry, engine.sink.sentry = some sentry → connection = sentry.connection) ∧
      later.sink.sentry = some ⟨connection, depth⟩ ∧
      later.sink.deferred = engine.sink.deferred ∧
      later.sink.buffers = engine.sink.buffers := by
  unfold Engine.begin at hbegin
  split at hbegin
  next sentry hsentry =>
    obtain ⟨hmessages, hlater, hdeferred, hbuffers⟩ := beginOn_eq_ok hbegin
    refine ⟨sentry.connection, _, hmessages, ?_, hlater, hdeferred, hbuffers⟩
    intro other hother
    rw [Option.some.inj (hsentry.symm.trans hother)]
  next hsentry =>
    split at hbegin
    next connection line hacquire =>
      obtain ⟨hmessages, hlater, hdeferred, hbuffers⟩ := beginOn_eq_ok hbegin
      refine ⟨connection, _, ?_, ?_, hlater, hdeferred, hbuffers⟩
      · rw [hmessages, messages_bindTo, messages, Line.messages_acquire hacquire, messages]
      · intro sentry hsome
        rw [hsentry] at hsome
        cases hsome
    next => cases (Prod.mk.inj hbegin).1

theorem Parting.covers
    {connection : Connection} (hparting : engine.Parting destination origin arrived connection)
    (hmany : 2 ≤ destination.maxOpen) {deferred : List String}
    (hreplay : engine.replay destination deferred = (.ok (), later)) :
    later.sink = engine.sink ∧
      ∃ sent, later.messages = engine.messages ++ sent ∧
        Line.Covers destination engine.line later.line {connection} deferred sent := by
  unfold Engine.replay at hreplay
  split at hreplay
  next hnone =>
    obtain ⟨-, rfl⟩ := Prod.mk.inj hreplay
    exact ⟨rfl, [], by simp, Or.inl ⟨List.isEmpty_iff.mp hnone, rfl⟩⟩
  next =>
    obtain ⟨houtcome, rfl⟩ := Prod.mk.inj hreplay
    obtain ⟨outgoing, turn, hleads⟩ := hparting.reached
    have hhere : Line.LeadsTo destination engine.line
        ⟨arrived, [], outgoing, none, turn, {connection}⟩ engine.line :=
      ⟨.refl, hleads.ledger_eq⟩
    have hreported := hhere.report .debug ("Replaying " ++ toString deferred.length ++
      " session statements after transaction end")
    have hroom : ({connection} : Multiset Connection).card + (destination.maxOpen - 1) =
        destination.maxOpen := by
      rw [Multiset.card_singleton]
      omega
    obtain ⟨sent, hmessages, hcovers⟩ :=
      hreported.covers rfl rfl hroom (Prod.ext houtcome rfl)
    refine ⟨rfl, sent, ?_, hcovers.extend hreported.steps .refl⟩
    exact hmessages.trans (by rw [Line.messages_report]; rfl)

/-- What follows the end of a transaction: the replay, and then the return of the connection. -/
theorem Parting.release_eq_ok
    {connection : Connection} (hparting : engine.Parting destination origin arrived connection)
    (hmany : 2 ≤ destination.maxOpen) {outcome : Outcome} {deferred : List String}
    (hreplayed : andThen (Engine.counted (outcome, engine))
      (fun engine => engine.replay destination deferred) = (.ok (), later)) :
    let freed := later.release destination connection
    freed.sink.buffers = [] ∧ freed.sink.sentry = none ∧ freed.sink.deferred = [] ∧
      ∃ sent, freed.messages = engine.messages ++ sent ∧
        Line.Covers destination origin freed.line {connection} deferred sent := by
  obtain ⟨state, hcounted, hreplay⟩ := andThen_eq_ok.mp hreplayed
  have hstate := hparting.counted outcome
  rw [hcounted] at hstate
  have hlast := hstate.replay hmany deferred
  rw [hreplay] at hlast
  have hmessages : state.messages = engine.messages := by
    obtain ⟨first, hfirst, rfl⟩ := counted_eq_ok.mp hcounted
    obtain ⟨-, rfl⟩ := Prod.mk.inj hfirst
    rfl
  obtain ⟨-, sent, hsent, hcovers⟩ := hstate.covers hmany hreplay
  obtain ⟨outgoing, turn, hbefore⟩ := hstate.reached
  obtain ⟨unsent, count, hleads⟩ := hlast.reached
  have hhere : Line.LeadsTo destination later.line
      ⟨arrived, [], unsent, none, count, {connection}⟩ later.line := ⟨.refl, hleads.ledger_eq⟩
  refine ⟨hlast.buffers, hlast.sentry, hlast.deferred, sent, ?_, ?_⟩
  · rw [messages_release, hsent, hmessages]
  · exact hcovers.extend hbefore.steps (release_leadsTo hhere).steps

/-- The end of a transaction is sent on its connection.  The end of a savepoint changes no more than
the depth; the end of the transaction is followed by the deferred statements, on every connection
but the one it had. -/
theorem endOn_eq_ok
    (hsettled : engine.Settled destination origin arrived) {sentry : Sentry}
    (hsentry : engine.sink.sentry = some sentry) (hmany : 2 ≤ destination.maxOpen)
    (hempty : engine.sink.buffers = []) {text : String}
    (hend : engine.endOn destination sentry text = (.ok (), later)) :
    later.sink.buffers = [] ∧
      (0 < sentry.depth - 1 ∧
          later.messages = engine.messages ++ [(sentry.connection, .statement text)] ∧
          later.sink.sentry = some { sentry with depth := sentry.depth - 1 } ∧
          later.sink.deferred = engine.sink.deferred ∨
        later.sink.sentry = none ∧ later.sink.deferred = [] ∧
          ∃ sent, later.messages =
              engine.messages ++ (sentry.connection, .statement text) :: sent ∧
            Line.Covers destination engine.line later.line {sentry.connection}
              engine.sink.deferred sent) := by
  have hpinned := (hsettled.sound.many hmany).1
  have hrun := hsettled.here.runOnSentry hsentry hpinned hempty text
  unfold endOn at hend
  cases hdone : engine.runOn destination sentry.connection (.statement text) with
  | mk outcome next =>
      rw [hdone] at hend hrun
      have hnext : next.messages = engine.messages ++ [(sentry.connection, .statement text)] := by
        have hmessages := messages_runOn destination engine sentry.connection (.statement text)
        rwa [hdone] at hmessages
      have hsame : engine.SameHold next :=
        SameHold.of_sink (congrArg (fun done => done.2.sink) hdone.symm)
      dsimp only at hend
      split at hend
      -- the end of a savepoint
      next hdepth =>
        obtain ⟨state, hstate, rfl⟩ := counted_eq_ok.mp hend
        obtain ⟨-, rfl⟩ := Prod.mk.inj hstate
        exact ⟨hsame.buffers.trans hempty, Or.inl ⟨hdepth, hnext, rfl, hsame.deferred⟩⟩
      -- the end of the transaction, whose connection is given back behind the replay
      next hdepth =>
        have hcleared : Reached destination engine.line arrived
            { next with sink.deferred := [] } := hrun.reached
        have hparting := hcleared.parting (hsame.sentry.trans hsentry)
          ((congrArg (fun done => done.2.sink.pinned) hdone.symm).trans hpinned)
          (hsame.buffers.trans hempty) rfl
        obtain ⟨houtcome, rfl⟩ := Prod.mk.inj hend
        obtain ⟨hbuffers, hfree, hdeferred, sent, hmessages, hcovers⟩ :=
          hparting.release_eq_ok hmany (Prod.ext houtcome rfl)
        rw [← hsame.deferred]
        refine ⟨hbuffers, Or.inr ⟨hfree, hdeferred, sent, ?_, hcovers⟩⟩
        rw [hmessages, messages_unbind]
        exact (congrArg (· ++ sent) hnext).trans (List.append_assoc _ _ _)

/-! ## Session statements and rows -/

/-- A session statement is sent on the sentry and deferred, or covers the destination. -/
theorem broadcast_eq_ok
    (hsettled : engine.Settled destination origin arrived) (hmany : 2 ≤ destination.maxOpen)
    (hempty : engine.sink.buffers = []) {text : String}
    (hbroadcast : engine.broadcast destination text = (.ok (), later)) :
    later.sink.buffers = [] ∧ later.sink.sentry = engine.sink.sentry ∧
      ((∃ sentry, engine.sink.sentry = some sentry ∧
          later.messages = engine.messages ++ [(sentry.connection, .statement text)] ∧
          later.sink.deferred = engine.sink.deferred ++ [text]) ∨
        engine.sink.sentry = none ∧ later.sink.deferred = engine.sink.deferred ∧
          ∃ sent, later.messages = engine.messages ++ sent ∧
            Line.Covers destination engine.line later.line 0 [text] sent) := by
  obtain ⟨state, hdone, rfl⟩ := counted_eq_ok.mp hbroadcast
  split at hdone
  next sentry hsentry =>
    obtain ⟨first, hrun, hdefer⟩ := andThen_eq_ok.mp hdone
    obtain ⟨-, rfl⟩ := Prod.mk.inj hdefer
    obtain ⟨hmessages, hsink⟩ := runOn_eq_ok hrun
    have hsame := SameHold.of_sink hsink
    refine ⟨hsame.buffers.trans hempty, hsame.sentry,
      Or.inl ⟨sentry, hsentry, hmessages, ?_⟩⟩
    exact congrArg (· ++ [text]) hsame.deferred
  next hsentry =>
    obtain ⟨houtcome, rfl⟩ := Prod.mk.inj hdone
    obtain ⟨outgoing, turn, hleads⟩ := hsettled.reached
    have hpinned := (hsettled.sound.many hmany).1
    obtain ⟨hnone, hheld⟩ := ledger_of_free arrived outgoing turn hsentry hpinned
    have hroom : (engine.sink.ledger arrived outgoing turn).held.card + destination.maxOpen =
        destination.maxOpen := by
      rw [hheld, Multiset.card_zero, Nat.zero_add]
    obtain ⟨sent, hmessages, hcovers⟩ :=
      hleads.covers hnone hempty hroom (Prod.ext houtcome rfl)
    rw [hheld] at hcovers
    exact ⟨hempty, rfl, Or.inr ⟨hsentry, rfl, sent, hmessages, hcovers⟩⟩

/-- Rows that were buffered wait behind the others of their target, or were sent with them. -/
theorem buffer_eq_ok
    {insert : Insert} (hbuffer : engine.buffer destination insert = (.ok (), later)) :
    later.sink.sentry = engine.sink.sentry ∧ later.sink.deferred = engine.sink.deferred ∧
      (later.messages = engine.messages ∧
          later.sink.buffers = Sink.addRows insert engine.sink.buffers ∨
        Line.SentBatches engine.line later.line (Sink.addRows insert engine.sink.buffers) ∧
          later.sink.buffers = []) := by
  unfold buffer at hbuffer
  dsimp only at hbuffer
  have hadded : (note { engine with sink := engine.sink.addInsert insert }
      (.buffered insert)).messages = engine.messages := messages_note_buffered _ insert
  split at hbuffer
  next =>
    have hflushed := flushedFrom_flush destination (note { engine with
      sink := engine.sink.addInsert insert } (.buffered insert))
    obtain ⟨sent, hmessages, hbatches⟩ := sentBatches_flush hbuffer
    rw [hbuffer] at hflushed
    refine ⟨hflushed.sentry, hflushed.deferred, Or.inr ⟨⟨sent, ?_, hbatches⟩, hflushed.buffers⟩⟩
    exact hmessages.trans (congrArg (· ++ sent) hadded)
  next =>
    obtain ⟨-, rfl⟩ := Prod.mk.inj hbuffer
    exact ⟨rfl, rfl, Or.inl ⟨hadded, rfl⟩⟩

/-! ## Closing -/

theorem abandonTransaction_keeps (destination : Destination σ) (engine : Engine σ) :
    (engine.abandonTransaction destination).messages = engine.messages ∧
      (engine.abandonTransaction destination).sink.buffers = engine.sink.buffers := by
  unfold abandonTransaction
  split
  · exact ⟨rfl, rfl⟩
  · exact ⟨by simp, rfl⟩

theorem unpin_keeps (destination : Destination σ) (engine : Engine σ) :
    (engine.unpin destination).messages = engine.messages ∧
      (engine.unpin destination).sink.buffers = engine.sink.buffers := by
  unfold unpin
  split
  · exact ⟨rfl, rfl⟩
  · exact ⟨messages_release destination _ _, rfl⟩

theorem close_eq_ok (hclose : engine.close destination = (.ok (), later)) :
    ∃ flushed : Engine σ, engine.flush destination = (.ok (), flushed) ∧
      later.messages = flushed.messages ∧ later.sink.buffers = [] := by
  unfold Engine.close at hclose
  cases hdone : engine.flush destination with
  | mk outcome flushed =>
      rw [hdone] at hclose
      obtain ⟨rfl, rfl⟩ := Prod.mk.inj hclose
      have hflushed := flushedFrom_flush destination engine
      rw [hdone] at hflushed
      obtain ⟨hmessages, hbuffers⟩ := abandonTransaction_keeps destination flushed
      obtain ⟨hbareMessages, hbareBuffers⟩ := unpin_keeps destination
        { flushed.abandonTransaction destination with sink.deferred := [] }
      refine ⟨flushed, rfl, ?_, (hbareBuffers.trans hbuffers).trans hflushed.buffers⟩
      refine Eq.trans ?_ (hbareMessages.trans hmessages)
      simp [messages, Line.close, Line.note, Journal.messages_cons, Journal.sentBy?]

/-! ## Statements by their roles -/

/-- The first message of a delivery is the statement, and only statements follow it. -/
structure DeliveredFirst (engine later : Engine σ) (text : String) : Prop where
  buffers : later.sink.buffers = []
  sent : ∃ connection rest,
    later.messages = engine.messages ++ (connection, .statement text) :: rest ∧
      ∀ message ∈ rest, ∃ other, message.2 = .statement other

theorem SentOnce.deliveredFirst
    {text : String} (hsent : engine.SentOnce later text) (hempty : later.sink.buffers = []) :
    engine.DeliveredFirst later text := by
  obtain ⟨connection, hmessages, -⟩ := hsent
  exact ⟨hempty, connection, [], hmessages, by simp⟩

theorem finish_eq_ok
    {text : String} (hfinish : engine.finish destination text = (.ok (), later)) :
    (∃ sentry, engine.sink.sentry = some sentry ∧
        engine.endOn destination sentry text = (.ok (), later)) ∨
      engine.sink.sentry = none ∧ engine.SentOnce later text ∧ engine.SameHold later := by
  unfold finish at hfinish
  split at hfinish
  next sentry hsentry => exact Or.inl ⟨sentry, hsentry, hfinish⟩
  next hsentry =>
    obtain ⟨⟨connection, hmessages, hserves⟩, hsame⟩ := runOnce_eq_ok hfinish
    rw [messages_report] at hmessages
    exact Or.inr ⟨hsentry, ⟨connection, hmessages, hserves⟩,
      hsame.buffers, hsame.sentry, hsame.deferred⟩

theorem deliveredFirst_finish
    (hsettled : engine.Settled destination origin arrived) (hmany : 2 ≤ destination.maxOpen)
    (hempty : engine.sink.buffers = []) {text : String}
    (hfinish : engine.finish destination text = (.ok (), later)) :
    engine.DeliveredFirst later text := by
  rcases finish_eq_ok hfinish with ⟨sentry, hsentry, hend⟩ | ⟨-, honce, hsame⟩
  · obtain ⟨hbuffers, hkept | ⟨-, -, sent, hmessages, hcovers⟩⟩ :=
      endOn_eq_ok hsettled hsentry hmany hempty hend
    · exact ⟨hbuffers, sentry.connection, [], hkept.2.1, by simp⟩
    · exact ⟨hbuffers, sentry.connection, sent, hmessages, hcovers.statement_of_mem⟩
  · exact honce.deliveredFirst (hsame.buffers.trans hempty)

theorem deliveredFirst_broadcast
    (hsettled : engine.Settled destination origin arrived) (hmany : 2 ≤ destination.maxOpen)
    (hempty : engine.sink.buffers = []) {text : String}
    (hbroadcast : engine.broadcast destination text = (.ok (), later)) :
    engine.DeliveredFirst later text := by
  obtain ⟨hbuffers, -, ⟨sentry, -, hmessages, -⟩ | ⟨-, -, sent, hmessages, hcovers⟩⟩ :=
    broadcast_eq_ok hsettled hmany hempty hbroadcast
  · exact ⟨hbuffers, sentry.connection, [], hmessages, by simp⟩
  · have hroom : (0 : Multiset Connection).card < destination.maxOpen := by
      rw [Multiset.card_zero]
      omega
    obtain ⟨connection, rest, rfl⟩ := hcovers.first hroom
    refine ⟨hbuffers, connection, rest, hmessages, ?_⟩
    intro message hmem
    exact hcovers.statement_of_mem message (List.mem_cons_of_mem _ hmem)

theorem deliveredFirst_deliver
    (hsettled : engine.Settled destination origin arrived) (hmany : 2 ≤ destination.maxOpen)
    (hempty : engine.sink.buffers = []) {statementClass : StatementClass}
    (hknown : statementClass ≠ .unknown) {text : String}
    (hdeliver : engine.deliver destination statementClass text = (.ok (), later)) :
    engine.DeliveredFirst later text := by
  unfold deliver at hdeliver
  split at hdeliver
  · exact absurd rfl hknown
  · obtain ⟨connection, depth, hmessages, -, -, -, hbuffers⟩ := begin_eq_ok hdeliver
    exact ⟨hbuffers.trans hempty, connection, [], hmessages, by simp⟩
  · exact deliveredFirst_finish hsettled hmany hempty hdeliver
  · exact deliveredFirst_broadcast hsettled hmany hempty hdeliver
  all_goals
    obtain ⟨honce, hsame⟩ := runOnce_eq_ok hdeliver
    exact honce.deliveredFirst (hsame.buffers.trans hempty)

theorem exec_refused
    (engine : Engine σ) {text : String} {failure : Failure}
    (hrole : Classify.roleOf destination.dialect text = .refused failure) :
    (engine.exec destination text).1 ≠ .ok () := by
  rw [exec_eq, hrole]
  simp

theorem exec_skipped_eq_ok
    {text : String} (hrole : Classify.roleOf destination.dialect text = .skipped)
    (hexec : engine.exec destination text = (.ok (), later)) :
    later.messages = engine.messages ∧ engine.SameHold later := by
  rw [exec_eq, hrole] at hexec
  obtain ⟨-, rfl⟩ := Prod.mk.inj hexec
  have hsame := SameHold.of_sink
    (sink_reportAll engine (Classify.parse destination.dialect text).2)
  refine ⟨?_, hsame.buffers, hsame.sentry, hsame.deferred⟩
  rw [skip, messages_report]
  exact messages_reportAll engine _

theorem exec_rows_eq_ok
    (hmany : 2 ≤ destination.maxOpen) {text : String} {insert : Insert}
    (hrole : Classify.roleOf destination.dialect text = .rows insert)
    (hexec : engine.exec destination text = (.ok (), later)) :
    later.sink.sentry = engine.sink.sentry ∧ later.sink.deferred = engine.sink.deferred ∧
      (later.messages = engine.messages ∧
          later.sink.buffers = Sink.addRows insert engine.sink.buffers ∨
        Line.SentBatches engine.line later.line (Sink.addRows insert engine.sink.buffers) ∧
          later.sink.buffers = []) := by
  rw [exec_eq, hrole] at hexec
  dsimp only at hexec
  rw [if_neg (by omega)] at hexec
  have hspec := buffer_eq_ok hexec
  rw [sink_reportAll, messages_reportAll] at hspec
  have hmessages := messages_reportAll engine (Classify.parse destination.dialect text).2
  unfold Line.SentBatches at hspec ⊢
  rw [messages] at hmessages
  rwa [hmessages] at hspec

theorem exec_barrier_eq_ok
    (hsettled : engine.Settled destination origin arrived) (hmany : 2 ≤ destination.maxOpen)
    {text : String} {statementClass : StatementClass}
    (hrole : Classify.roleOf destination.dialect text = .barrier statementClass)
    (hexec : engine.exec destination text = (.ok (), later)) :
    ∃ flushed : Engine σ,
      flushed.Settled destination origin arrived ∧
      Line.SentBatches engine.line flushed.line engine.sink.buffers ∧
      FlushedFrom engine.sink flushed.sink ∧
      flushed.deliver destination statementClass text = (.ok (), later) := by
  rw [exec_eq, hrole] at hexec
  dsimp only at hexec
  rw [if_neg (by omega)] at hexec
  obtain ⟨flushed, hflush, hdeliver⟩ := andThen_eq_ok.mp hexec
  have hreported := (hsettled.reportAll (Classify.parse destination.dialect text).2).flush
  have hsent := sentBatches_flush hflush
  have hflushed := flushedFrom_flush destination
    (engine.reportAll (Classify.parse destination.dialect text).2)
  rw [hflush] at hreported hflushed
  rw [sink_reportAll] at hsent hflushed
  have hmessages := messages_reportAll engine (Classify.parse destination.dialect text).2
  obtain ⟨sent, hlater, hbatches⟩ := hsent
  refine ⟨flushed, hreported, ⟨sent, ?_, hbatches⟩, hflushed, hdeliver⟩
  exact hlater.trans (congrArg (· ++ sent) hmessages)

end Engine

end SqlPipe
