import SqlPipe.Proofs.Engine.RowOrder
import SqlPipe.Proofs.Engine.Waiting

/-!
# Back-pressure

Two bounds make a sink flush: the rows that wait for one target, and the targets for which rows
wait.  So a flush sends no more batches than there may be connections.  A batch holds what waited
for its target, which is less than the first bound, and the rows of the insert that caused the
flush, if one did.
-/

namespace SqlPipe

def Message.batch? : Message → Option Insert
  | .statement _ => none
  | .batch insert => some insert

namespace Engine

variable {σ : Type} {destination : Destination σ} {engine later : Engine σ}

/-! ## What a call sends -/

def batches (engine : Engine σ) : List Insert :=
  engine.messages.filterMap fun (_, message) => message.batch?

theorem batches_of_messages
    {sent : List (Connection × Message)} (hmessages : later.messages = engine.messages ++ sent) :
    later.batches = engine.batches ++ sent.filterMap fun (_, message) => message.batch? := by
  rw [batches, hmessages, List.filterMap_append]
  rfl

theorem batches_of_quietTo (hquiet : engine.line.QuietTo later.line) :
    later.batches = engine.batches := by
  have hjournal : ∀ {earlier journal : Journal}, earlier.QuietSince journal →
      (journal.messages.filterMap fun (_, message) => message.batch?) =
        earlier.messages.filterMap fun (_, message) => message.batch? := by
    intro earlier journal hsince
    induction hsince with
    | here => rfl
    | @note journal action _ haction ih =>
        rw [Journal.messages_cons, List.filterMap_append, ih]
        cases action with
        | sent connection message =>
            cases message with
            | statement text => simp [Journal.sentBy?, Message.batch?]
            | batch insert => exact haction.elim
        | _ => simp [Journal.sentBy?]
  exact hjournal hquiet

end Engine

namespace Line

variable {σ : Type} {destination : Destination σ}

theorem granted_sublist (checkouts : List (Except Failure Connection)) (batches : List Insert) :
    ((granted checkouts batches).map Prod.snd).Sublist batches := by
  induction checkouts generalizing batches with
  | nil => exact List.nil_sublist _
  | cons checkout checkouts ih =>
      cases batches with
      | nil => cases checkout <;> exact List.Sublist.refl _
      | cons batch batches =>
          cases checkout with
          | ok connection => exact (ih batches).cons_cons batch
          | error failure => exact (ih batches).cons batch

theorem exists_sent_runBatches
    (destination : Destination σ) (line : Line σ) (batches : List Insert) :
    ∃ sent : List (Connection × Insert), (sent.map Prod.snd).Sublist batches ∧
      (line.runBatches destination batches).2.journal.messages =
        line.journal.messages ++ sent.map asMessage := by
  obtain ⟨trials, hdispatched, -⟩ := dispatched_batchOutcomes destination line batches
  have hsent := hdispatched.tried.told
  rw [hdispatched.executions] at hsent
  unfold runBatches
  split
  next => exact ⟨[], List.nil_sublist _, by simp⟩
  next =>
    refine ⟨granted (Trial.checkouts trials) batches, granted_sublist _ _, ?_⟩
    dsimp only
    split
    next => exact hsent
    next => split <;> exact hsent

end Line

namespace Engine

variable {σ : Type} {destination : Destination σ} {engine later : Engine σ}

theorem exists_sent_flush (destination : Destination σ) (engine : Engine σ) :
    ∃ sent, sent.Sublist engine.sink.buffers ∧
      (engine.flush destination).2.batches = engine.batches ++ sent := by
  by_cases hfull : engine.sink.buffers = []
  · have hnothing : engine.flush destination = (.ok (), engine) :=
      if_pos (List.isEmpty_iff.mpr hfull)
    exact ⟨[], List.nil_sublist _, by simp [hnothing]⟩
  · cases hsentry : engine.sink.sentry with
    | some sentry =>
        obtain ⟨-, sent, unsent, hsplit, -, hmessages, -⟩ :=
          flushOnSentry_sends destination engine.emptied sentry.connection engine.sink.buffers
        rw [flush_of_sentry hfull hsentry]
        rw [messages_emptied] at hmessages
        refine ⟨sent, hsplit ▸ List.sublist_append_left _ _, ?_⟩
        rw [batches_of_messages hmessages, List.filterMap_map]
        simp [Function.comp_def, Message.batch?]
    | none =>
        obtain ⟨-, hline, -⟩ := flush_of_free_parts destination hfull hsentry
        obtain ⟨sent, hsublist, hmessages⟩ :=
          Line.exists_sent_runBatches destination engine.emptied.line engine.sink.buffers
        rw [← hline] at hmessages
        have hemptied : engine.emptied.line.journal.messages = engine.messages :=
          messages_emptied engine
        rw [hemptied] at hmessages
        refine ⟨sent.map Prod.snd, hsublist, ?_⟩
        rw [batches_of_messages hmessages, List.filterMap_map]
        simp [Function.comp_def, Message.batch?, Line.asMessage]

/-- Few batches were sent between two states, each with few rows. -/
def SendsWithin (limit rows : ℕ) (engine later : Engine σ) : Prop :=
  ∃ sent, later.batches = engine.batches ++ sent ∧ sent.length ≤ limit ∧
    ∀ batch ∈ sent, batch.rows.length ≤ rows

theorem sendsWithin_of_quietTo
    {limit rows : ℕ} (hquiet : engine.line.QuietTo later.line) :
    engine.SendsWithin limit rows later :=
  ⟨[], by simp [batches_of_quietTo hquiet], Nat.zero_le _, by simp⟩

theorem SendsWithin.congr
    {limit rows : ℕ} {first last : Engine σ} (hsends : first.SendsWithin limit rows last)
    (hfirst : first.batches = engine.batches) (hlast : later.batches = last.batches) :
    engine.SendsWithin limit rows later := by
  rwa [SendsWithin, hfirst, ← hlast] at hsends

theorem sendsWithin_flush
    {limit rows : ℕ} (hfew : engine.sink.buffers.length ≤ limit)
    (hrows : ∀ buffer ∈ engine.sink.buffers, buffer.rows.length ≤ rows) :
    engine.SendsWithin limit rows (engine.flush destination).2 := by
  obtain ⟨sent, hsublist, hbatches⟩ := exists_sent_flush destination engine
  exact ⟨sent, hbatches, hsublist.length_le.trans hfew, fun batch hmem =>
    hrows batch (hsublist.subset hmem)⟩

theorem sendsWithin_flush_of_metered
    {cap more : ℕ} (hmetered : engine.sink.Metered cap)
    (hfew : engine.sink.buffers.length < destination.maxOpen) :
    engine.SendsWithin destination.maxOpen (cap - 1 + more) (engine.flush destination).2 := by
  apply sendsWithin_flush hfew.le
  intro buffer hmem
  have hsize := (hmetered.sizes buffer hmem).2
  omega

theorem sendsWithin_buffer
    {cap : ℕ} (hcap : 0 < cap) (hmetered : engine.sink.Metered cap)
    (hfew : engine.sink.buffers.length < destination.maxOpen) (insert : Insert) :
    engine.SendsWithin destination.maxOpen (cap - 1 + insert.rows.length)
      (engine.buffer destination insert).2 := by
  have htaking : (engine.taking insert).batches = engine.batches := by
    rw [batches, taking, messages_note_buffered]
    rfl
  rw [buffer_eq]
  split
  next hfull =>
    have hlength := Sink.length_addRows_le insert engine.sink.buffers
    have hflush : (engine.taking insert).SendsWithin destination.maxOpen
        (cap - 1 + insert.rows.length) ((engine.taking insert).flush destination).2 :=
      sendsWithin_flush (hlength.trans hfew) fun buffer hmem =>
        hmetered.length_le_of_mem_addRows hcap hmem
    exact hflush.congr htaking rfl
  next hroom => exact ⟨[], by simp [htaking], Nat.zero_le _, by simp⟩

theorem sendsWithin_exec
    {cap : ℕ} (hcap : 0 < cap) (hmetered : engine.sink.Metered cap)
    (hmany : 2 ≤ destination.maxOpen)
    (hfew : engine.sink.buffers.length < destination.maxOpen) (text : String) :
    engine.SendsWithin destination.maxOpen (cap - 1 + rowCount (destination.arrival text))
      (engine.exec destination text).2 := by
  have hmore : ¬destination.maxOpen ≤ 1 := by omega
  have hquiet := quietTo_reportAll engine (Classify.parse destination.dialect text).2
  have hsink := sink_reportAll engine (Classify.parse destination.dialect text).2
  rw [exec_eq, Destination.arrival, if_neg hmore]
  dsimp only
  generalize engine.reportAll (Classify.parse destination.dialect text).2 = reported at *
  rw [← hsink] at hmetered hfew
  have hbatches := batches_of_quietTo hquiet
  cases hrole : Classify.roleOf destination.dialect text with
  | refused failure => exact sendsWithin_of_quietTo hquiet
  | skipped =>
      have hskipped : reported.line.QuietTo (reported.skip text).line :=
        reported.line.quietTo_report _ _
      exact sendsWithin_of_quietTo (hquiet.trans hskipped)
  | rows insert =>
      have hbuffer := sendsWithin_buffer hcap hmetered hfew insert
      dsimp only
      rw [if_neg hmore]
      exact hbuffer.congr hbatches rfl
  | barrier statementClass =>
      have hflush : engine.SendsWithin destination.maxOpen
          (cap - 1 + rowCount (Role.barrier statementClass).insert?.toList)
          (reported.flush destination).2 :=
        (sendsWithin_flush_of_metered hmetered hfew).congr hbatches rfl
      dsimp only
      rw [if_neg hmore]
      apply andThen_snd (engine.SendsWithin destination.maxOpen _) hflush
      intro later hlater
      rw [hlater] at hflush
      exact hflush.congr rfl
        (batches_of_quietTo (quietTo_deliver destination later statementClass text))

theorem sendsWithin_answer
    {cap : ℕ} (hcap : 0 < cap) (hmetered : engine.sink.Metered cap)
    (hmany : 2 ≤ destination.maxOpen)
    (hfew : engine.sink.buffers.length < destination.maxOpen) (call : Call σ) :
    engine.SendsWithin destination.maxOpen (cap - 1 + rowCount (arrivalOf destination call))
      (engine.answer destination call).2 := by
  cases call with
  | exec text => exact sendsWithin_exec hcap hmetered hmany hfew text
  | flush => exact sendsWithin_flush_of_metered hmetered hfew
  | close =>
      obtain ⟨-, hmessages⟩ := close_sends_flush destination engine
      have hbatches : (engine.close destination).2.batches =
          (engine.flush destination).2.batches := by rw [batches, hmessages, batches]
      exact (sendsWithin_flush_of_metered hmetered hfew).congr rfl hbatches
  | meanwhile change => exact sendsWithin_of_quietTo .here

/-- Between any two calls, also behind failures, the targets that wait are distinct and fewer than
the connections there may be, each has rows, fewer than the cap, and the sink knows their number.
Whatever is called next, no more batches are sent than there may be connections, and none of them
holds more than the rows of the insert that came with the call and one less than the cap. -/
theorem run_stays_within_bounds
    (destination : Destination σ) (batchCap : ℕ) (world : σ) (calls : List (Call σ))
    (hmany : 2 ≤ destination.maxOpen) (hcap : 0 < batchCap) :
    let engine := (fresh batchCap world).run destination calls
    DistinctTargets engine.sink.buffers ∧
      engine.sink.buffers.length < destination.maxOpen ∧
      (∀ buffer ∈ engine.sink.buffers,
        0 < buffer.rows.length ∧ buffer.rows.length < batchCap) ∧
      engine.sink.buffered = rowCount engine.sink.buffers ∧
      ∀ call, ∃ sent,
        (engine.answer destination call).2.batches = engine.batches ++ sent ∧
        sent.length ≤ destination.maxOpen ∧
        ∀ batch ∈ sent,
          batch.rows.length ≤ batchCap - 1 + rowCount (arrivalOf destination call) := by
  intro engine
  have hconsistent : engine.Consistent destination (arrivedBy destination calls) :=
    consistent_run_fresh batchCap world calls
  have hfresh : (fresh batchCap world).sink.Metered batchCap :=
    Sink.metered_of_empty (if_neg hcap.ne') rfl rfl
  have hmetered : engine.sink.Metered batchCap := metered_run hfresh hmany calls
  have hfew : engine.sink.buffers.length < destination.maxOpen :=
    (hconsistent.sound.many hmany).2
  exact ⟨hconsistent.distinctTargets, hfew, hmetered.sizes, hmetered.counted,
    fun call => sendsWithin_answer hcap hmetered hmany hfew call⟩

/-- Two rows wait under a cap of three, and the insert that causes the flush adds three more. -/
theorem run_stays_within_bounds_of_five_rows :
    let destination := Rehearsal.destination .mysql 2 false
    let engine := (fresh 3 (Rehearsal.fresh [] [] [])).run destination
      [.exec "INSERT INTO t VALUES (1), (2)"]
    let insert : Call Rehearsal := .exec "INSERT INTO t VALUES (3), (4), (5)"
    engine.sink.buffered = 2 ∧ rowCount engine.sink.buffers = 2 ∧
      ∃ sent, (engine.answer destination insert).2.batches = engine.batches ++ sent ∧
        sent.map (fun batch => batch.rows.length) = [5] ∧
        ∀ batch ∈ sent, batch.rows.length ≤ 3 - 1 + rowCount (arrivalOf destination insert) := by
  intro destination engine insert
  have hbounds := run_stays_within_bounds destination 3 (Rehearsal.fresh [] [] [])
    [.exec "INSERT INTO t VALUES (1), (2)"] (by decide) (by decide)
  obtain ⟨-, -, -, hcounted, hcalls⟩ := hbounds
  obtain ⟨sent, hsent, -, hrows⟩ := hcalls insert
  have hevaluated : engine.sink.buffered = 2 ∧ engine.batches = [] ∧
      (engine.answer destination insert).2.batches.map (fun batch => batch.rows.length) = [5] := by
    decide +kernel
  obtain ⟨hbuffered, hnone, hlengths⟩ := hevaluated
  refine ⟨hbuffered, hcounted.symm.trans hbuffered, sent, hsent, ?_, hrows⟩
  rwa [hsent, hnone, List.nil_append] at hlengths

end Engine

end SqlPipe
