import SqlPipe.Engine.Rehearsal
import SqlPipe.Proofs.Engine.Runs
import SqlPipe.Proofs.Engine.Success

/-!
# The order of rows

Batching changes neither which rows a target gets nor their order.  In every run the rows sent for a
target are a subsequence of those that arrived for it.  While no call fails, none is missing either:
what was sent for a target and what still waits for it are together all that has arrived.
-/

namespace SqlPipe

namespace Line

variable {σ : Type} {line later : Line σ}

theorem SentBatches.sentRows
    {batches : List Insert} (hsent : SentBatches line later batches) (target : String) :
    later.journal.sentRows target =
      line.journal.sentRows target ++ rowsFor target batches := by
  obtain ⟨sent, hmessages, hbatches⟩ := hsent
  have hrows : (sent.map Prod.snd).flatMap (Message.rowsFor target) =
      rowsFor target batches := by
    rw [hbatches, List.flatMap_map]
    rfl
  rw [Journal.sentRows, hmessages, List.flatMap_append, ← Journal.sentRows, ← hrows,
    List.flatMap_map]

end Line

namespace Engine

variable {σ : Type} {destination : Destination σ} {arrived : List Insert}
variable {engine later : Engine σ}

def sentRows (target : String) (engine : Engine σ) : List Row :=
  engine.line.journal.sentRows target

theorem sentRows_of_messages
    (hmessages : later.messages = engine.messages) (target : String) :
    later.sentRows target = engine.sentRows target := by
  have hrows := congrArg (List.flatMap fun sent => sent.2.rowsFor target) hmessages
  exact hrows

theorem DeliveredFirst.sentRows
    {text : String} (hdelivered : engine.DeliveredFirst later text) (target : String) :
    later.sentRows target = engine.sentRows target := by
  obtain ⟨connection, rest, hmessages, hstatements⟩ := hdelivered.sent
  have hnone : ((connection, Message.statement text) :: rest).flatMap
      (fun sent => sent.2.rowsFor target) = [] := by
    rw [List.flatMap_eq_nil_iff]
    intro sent hmem
    rcases List.mem_cons.mp hmem with rfl | hrest
    · rfl
    · obtain ⟨other, hother⟩ := hstatements sent hrest
      rw [hother]
      rfl
  have hrows := congrArg (List.flatMap fun sent => sent.2.rowsFor target) hmessages
  rw [List.flatMap_append, hnone, List.append_nil] at hrows
  exact hrows

/-! ## Runs without failures -/

/-- What was sent for a target and what waits for it are all that has arrived for it. -/
def Complete (arrived : List Insert) (engine : Engine σ) : Prop :=
  ∀ target, engine.sentRows target ++ rowsFor target engine.sink.buffers = rowsFor target arrived

theorem Complete.sentBatches
    (hcomplete : engine.Complete arrived)
    (hsent : Line.SentBatches engine.line later.line engine.sink.buffers) (target : String) :
    later.sentRows target = rowsFor target arrived :=
  (hsent.sentRows target).trans (hcomplete target)

theorem Complete.of_sentRows
    (hempty : engine.sink.buffers = [])
    (hsent : ∀ target, engine.sentRows target = rowsFor target arrived) :
    engine.Complete arrived := by
  intro target
  rw [hempty, rowsFor_nil, List.append_nil, hsent]

theorem Consistent.distinctTargets (hconsistent : engine.Consistent destination arrived) :
    DistinctTargets engine.sink.buffers := by
  obtain ⟨outgoing, turn, htold⟩ := hconsistent.told
  have hdistinct := Journal.distinctTargets_waiting engine.line.journal
  rw [htold] at hdistinct
  exact hdistinct

theorem Complete.exec
    (hcomplete : engine.Complete arrived) (hconsistent : engine.Consistent destination arrived)
    (hmany : 2 ≤ destination.maxOpen) {text : String}
    (hexec : engine.exec destination text = (.ok (), later)) :
    later.Complete (arrived ++ destination.arrival text) := by
  have hmore : ¬ destination.maxOpen ≤ 1 := by omega
  rw [Destination.arrival, if_neg hmore]
  cases hrole : Classify.roleOf destination.dialect text with
  | refused failure =>
      have hfailed := exec_refused engine hrole
      rw [hexec] at hfailed
      exact absurd rfl hfailed
  | skipped =>
      obtain ⟨hmessages, hsame⟩ := exec_skipped_eq_ok hrole hexec
      intro target
      rw [sentRows_of_messages hmessages, hsame.buffers, hcomplete target]
      simp [Role.insert?]
  | rows insert =>
      have hadded (target : String) :
          engine.sentRows target ++ rowsFor target (Sink.addRows insert engine.sink.buffers) =
            rowsFor target (arrived ++ [insert]) := by
        rw [rowsFor_addRows hconsistent.distinctTargets, ← List.append_assoc, hcomplete target]
        simp
      obtain ⟨-, -, ⟨hmessages, hbuffers⟩ | ⟨hsent, hbuffers⟩⟩ :=
        exec_rows_eq_ok hmany hrole hexec
      · intro target
        rw [sentRows_of_messages hmessages, hbuffers]
        exact hadded target
      · apply Complete.of_sentRows hbuffers
        intro target
        exact (hsent.sentRows target).trans (hadded target)
  | barrier statementClass =>
      obtain ⟨flushed, hsettled, hsent, hflushed, hdeliver⟩ :=
        exec_barrier_eq_ok hconsistent.settled hmany hrole hexec
      have hdelivered := deliveredFirst_deliver hsettled hmany hflushed.buffers
        (Classify.ne_unknown_of_roleOf hrole) hdeliver
      have hnone : (Role.barrier statementClass).insert?.toList = [] := rfl
      rw [hnone, List.append_nil]
      apply Complete.of_sentRows hdelivered.buffers
      intro target
      rw [hdelivered.sentRows, hcomplete.sentBatches hsent]

theorem Complete.close
    (hcomplete : engine.Complete arrived)
    (hclose : engine.close destination = (.ok (), later)) : later.Complete arrived := by
  obtain ⟨flushed, hflush, hmessages, hbuffers⟩ := close_eq_ok hclose
  apply Complete.of_sentRows hbuffers
  intro target
  rw [sentRows_of_messages hmessages, hcomplete.sentBatches (sentBatches_flush hflush)]

theorem Complete.answer
    (hcomplete : engine.Complete arrived) (hconsistent : engine.Consistent destination arrived)
    (hmany : 2 ≤ destination.maxOpen) {call : Call σ}
    (hanswer : engine.answer destination call = (.ok (), later)) :
    later.Complete (arrived ++ arrivalOf destination call) := by
  cases call with
  | exec text => exact hcomplete.exec hconsistent hmany hanswer
  | flush =>
      rw [arrivalOf, List.append_nil]
      have hflushed := flushedFrom_flush destination engine
      have hlater : engine.flush destination = (.ok (), later) := hanswer
      rw [hlater] at hflushed
      exact Complete.of_sentRows hflushed.buffers
        (hcomplete.sentBatches (sentBatches_flush hlater))
  | close =>
      rw [arrivalOf, List.append_nil]
      exact hcomplete.close hanswer
  | meanwhile change =>
      rw [arrivalOf, List.append_nil]
      obtain ⟨-, rfl⟩ := Prod.mk.inj hanswer
      exact hcomplete

/-- While no call fails, every row that has arrived was sent or waits. -/
theorem Complete.run
    (hcomplete : engine.Complete arrived) (hconsistent : engine.Consistent destination arrived)
    (hmany : 2 ≤ destination.maxOpen) {calls : List (Call σ)}
    (hsucceeds : engine.Succeeds destination calls) :
    (engine.run destination calls).Complete (arrived ++ arrivedBy destination calls) := by
  induction calls generalizing engine arrived with
  | nil => simpa [arrivedBy] using hcomplete
  | cons call calls ih =>
      obtain ⟨hfirst, hothers⟩ := hsucceeds
      have hrest := ih (hcomplete.answer hconsistent hmany (Prod.ext hfirst rfl))
        (hconsistent.answer call) hothers
      rw [List.append_assoc] at hrest
      exact hrest

end Engine

end SqlPipe
