import SqlPipe.Proofs.Engine.RowOrder
import Mathlib.Data.List.Induction

/-!
# Barriers

A statement that is no insert for the buffers is a barrier: nothing that arrived before it is sent
behind it.  Whenever a statement is sent, in any run, no rows wait.  While no call fails, each
barrier is sent for the first time when exactly the rows that arrived before it have been sent, and
the barriers are first sent in the order in which they came.
-/

namespace SqlPipe

namespace Journal

def statements (journal : Journal) : List String :=
  journal.messages.filterMap fun sent => sent.2.statement?

/-- No rows wait whenever a statement is sent. -/
def NothingWaits (journal : Journal) : Prop :=
  ∀ later connection text earlier,
    journal = later ++ .sent connection (.statement text) :: earlier →
      (ledger earlier).waiting = []

theorem Orderly.nothingWaits
    {limit : ℕ} {journal : Journal} (horderly : journal.Orderly limit) : journal.NothingWaits := by
  intro later connection text earlier hjournal
  rw [hjournal] at horderly
  exact horderly.allows.2

/-- Of the messages that a journal has more than an earlier one, the first was sent at some
place. -/
theorem exists_sent_of_messages
    {more middle : Journal} {connection : Connection} {message : Message}
    {rest : List (Connection × Message)}
    (hmessages : Journal.messages (more ++ middle) =
      middle.messages ++ (connection, message) :: rest) :
    ∃ earlier, middle <:+ earlier ∧
      .sent connection message :: earlier <:+ more ++ middle ∧
      Journal.messages earlier = middle.messages := by
  -- a journal begins with its latest action, and the oldest of the new ones is looked at first
  induction more using List.reverseRecOn generalizing middle with
  | nil => simp at hmessages
  | append_singleton more action ih =>
      rw [List.append_assoc, List.singleton_append] at hmessages ⊢
      have hnext := messages_cons action middle
      cases hsent : sentBy? action with
      | none =>
          rw [hsent, Option.toList_none, List.append_nil] at hnext
          rw [← hnext] at hmessages
          obtain ⟨earlier, hmiddle, hlater, heq⟩ := ih hmessages
          exact ⟨earlier, (List.suffix_cons action middle).trans hmiddle, hlater,
            heq.trans hnext⟩
      | some sent =>
          rw [messages_append, hnext, hsent, Option.toList_some, List.append_assoc,
            List.append_cancel_left_eq, List.singleton_append] at hmessages
          obtain ⟨rfl, -⟩ := List.cons.inj hmessages
          obtain rfl : action = .sent connection message := by
            cases action with
            | sent => simpa [sentBy?] using hsent
            | _ => cases hsent
          exact ⟨middle, List.suffix_refl _, List.suffix_append _ _, rfl⟩

end Journal

theorem Line.SentBatches.statements
    {σ : Type} {line later : Line σ} {batches : List Insert}
    (hsent : Line.SentBatches line later batches) :
    later.journal.statements = line.journal.statements := by
  obtain ⟨sent, hmessages, hbatches⟩ := hsent
  have hnone : sent.filterMap (fun sent => sent.2.statement?) = [] := by
    rw [List.filterMap_eq_nil_iff]
    intro message hmem
    have hbatch : message.2 ∈ batches.map Message.batch := by
      rw [← hbatches]
      exact List.mem_map_of_mem hmem
    obtain ⟨insert, -, hinsert⟩ := List.mem_map.mp hbatch
    rw [← hinsert]
    rfl
  rw [Journal.statements, hmessages, List.filterMap_append, hnone, List.append_nil,
    Journal.statements]

namespace Engine

variable {σ : Type} {destination : Destination σ}

/-- Below the first message of a call that took a statement behind other calls.  The message is the
statement itself, and no statement was sent since the other calls. -/
structure FirstSent (destination : Destination σ) (start : Engine σ) (calls : List (Call σ))
    (text : String) (connection : Connection) (earlier : Journal) : Prop where
  behind : (start.run destination calls).line.journal <:+ earlier
  within : .sent connection (.statement text) :: earlier <:+
    (start.run destination (calls ++ [.exec text])).line.journal
  first : earlier.statements = (start.run destination calls).line.journal.statements

/-- The statement is neither passed over nor an insert for the buffers. -/
def IsBarrier (destination : Destination σ) (text : String) : Prop :=
  (Classify.roleOf destination.dialect text).isBarrier = true

/-- A barrier is first sent when exactly the rows that arrived before it have been sent. -/
theorem Complete.exists_firstSent
    {start : Engine σ} {calls : List (Call σ)} {arrived : List Insert}
    (hconsistent : (start.run destination calls).Consistent destination arrived)
    (hcomplete : (start.run destination calls).Complete arrived)
    (hmany : 2 ≤ destination.maxOpen) {text : String} (hbarrier : IsBarrier destination text)
    (hexec : ((start.run destination calls).exec destination text).1 = .ok ()) :
    ∃ connection earlier,
      FirstSent destination start calls text connection earlier ∧
        ∀ target, Journal.sentRows target earlier = rowsFor target arrived := by
  obtain ⟨statementClass, hrole⟩ :
      ∃ statementClass, Classify.roleOf destination.dialect text = .barrier statementClass := by
    unfold IsBarrier at hbarrier
    cases hrole : Classify.roleOf destination.dialect text with
    | barrier statementClass => exact ⟨statementClass, rfl⟩
    | _ =>
        rw [hrole] at hbarrier
        cases hbarrier
  obtain ⟨flushed, hsettled, hsent, hflushed, hdeliver⟩ :=
    exec_barrier_eq_ok hconsistent.settled hmany hrole (Prod.ext hexec rfl)
  have hdelivered := deliveredFirst_deliver hsettled hmany hflushed.buffers
    (Classify.ne_unknown_of_roleOf hrole) hdeliver
  have hlast := hsettled.here.deliver hmany hflushed.buffers statementClass text
  rw [hdeliver] at hlast
  -- the first message behind the flush is the statement, and below it nothing but the flush is new
  obtain ⟨connection, rest, hmessages, -⟩ := hdelivered.sent
  obtain ⟨more, hmore⟩ := hlast.suffix
  have hmoreMessages : Journal.messages (more ++ flushed.line.journal) =
      flushed.line.journal.messages ++ (connection, .statement text) :: rest := by
    rw [hmore]
    exact hmessages
  obtain ⟨earlier, hbehind, hwithin, hearlier⟩ :=
    Journal.exists_sent_of_messages hmoreMessages
  rw [hmore] at hwithin
  refine ⟨connection, earlier, ⟨hsettled.suffix.trans hbehind, ?_, ?_⟩, ?_⟩
  · rw [run_concat]
    exact hwithin
  · rw [← hsent.statements, Journal.statements, Journal.statements, hearlier]
  · intro target
    have hrows : Journal.sentRows target earlier = flushed.sentRows target := by
      rw [Journal.sentRows, hearlier]
      rfl
    rw [hrows, hcomplete.sentBatches hsent]

theorem FirstSent.suffix
    {start : Engine σ} {calls others : List (Call σ)} {text : String} {connection : Connection}
    {earlier : Journal} {arrived : List Insert}
    (hfirst : FirstSent destination start calls text connection earlier)
    (hconsistent :
      (start.run destination (calls ++ [.exec text])).Consistent destination arrived) :
    .sent connection (.statement text) :: earlier <:+
      (start.run destination (calls ++ .exec text :: others)).line.journal := by
  have hlater := hconsistent.suffix_run others
  rw [← run_append, List.append_assoc, List.singleton_append] at hlater
  exact hfirst.within.trans hlater

/-- Whatever is asked of a fresh engine, no rows wait when a statement is sent.  While no call
fails, a barrier is first sent when exactly the rows that arrived before it have been sent, and
behind the first message of every earlier statement. -/
theorem run_sends_barriers_in_order
    (destination : Destination σ) (batchCap : ℕ) (world : σ) (calls : List (Call σ)) :
    let start := fresh batchCap world
    let engine := start.run destination calls
    let journal := engine.line.journal
    journal.ledger.waiting = engine.sink.buffers ∧ journal.NothingWaits ∧
      (2 ≤ destination.maxOpen → start.Succeeds destination calls →
        ∀ before text after, calls = before ++ .exec text :: after →
          IsBarrier destination text →
          ∃ connection earlier,
            FirstSent destination start before text connection earlier ∧
            .sent connection (.statement text) :: earlier <:+ journal ∧
            (Journal.ledger earlier).waiting = [] ∧
            (∀ target, Journal.sentRows target earlier =
              rowsFor target (arrivedBy destination before)) ∧
            ∀ sooner other between, before = sooner ++ .exec other :: between →
              ∀ holder below, FirstSent destination start sooner other holder below →
                .sent holder (.statement other) :: below <:+ earlier) := by
  intro start engine journal
  have hconsistent (calls : List (Call σ)) :
      (start.run destination calls).Consistent destination (arrivedBy destination calls) :=
    consistent_run_fresh batchCap world calls
  obtain ⟨outgoing, turn, htold⟩ := (hconsistent calls).told
  refine ⟨congrArg Ledger.waiting htold, (hconsistent calls).orderly.nothingWaits, ?_⟩
  intro hmany hsucceeds before text after hcalls hbarrier
  subst hcalls
  obtain ⟨hbefore, hexec, -⟩ := succeeds_append.mp hsucceeds
  have hfresh : start.Complete [] := fun target => rfl
  have hcomplete := hfresh.run (consistent_fresh destination batchCap world) hmany hbefore
  obtain ⟨connection, earlier, hfirst, hrows⟩ :=
    hcomplete.exists_firstSent (hconsistent before) hmany hbarrier hexec
  have hplace : .sent connection (.statement text) :: earlier <:+ journal :=
    hfirst.suffix (hconsistent _)
  refine ⟨connection, earlier, hfirst, hplace, ?_, hrows, ?_⟩
  · obtain ⟨later, hlater⟩ := hplace
    exact (hconsistent _).orderly.nothingWaits later connection text earlier hlater.symm
  · intro sooner other between hsplit holder below hbelow
    subst hsplit
    exact (hbelow.suffix (hconsistent _)).trans hfirst.behind

/-- The beginning of a transaction is sent behind a row that waited. -/
theorem run_sends_begin_behind_row :
    let destination := Rehearsal.destination .mysql 2 false
    let start : Engine Rehearsal := fresh 8 (Rehearsal.fresh [] [] [])
    let before : List (Call Rehearsal) := [.exec "INSERT INTO t VALUES (1)"]
    let calls := before ++ [.exec "BEGIN"]
    start.Succeeds destination calls ∧ IsBarrier destination "BEGIN" ∧
      ∃ connection earlier,
        FirstSent destination start before "BEGIN" connection earlier ∧
        (Journal.ledger earlier).waiting = [] ∧
        Journal.sentRows "INSERT INTO `t` " earlier = [⟨["1"]⟩] := by
  intro destination start before calls
  have hsucceeds : start.Succeeds destination calls := by decide +kernel
  have hbarrier : IsBarrier destination "BEGIN" := by
    unfold IsBarrier
    decide +kernel
  obtain ⟨connection, earlier, hfirst, -, hwaiting, hrows, -⟩ :=
    (run_sends_barriers_in_order destination 8 (Rehearsal.fresh [] [] []) calls).2.2
      (by decide) hsucceeds before "BEGIN" [] rfl hbarrier
  refine ⟨hsucceeds, hbarrier, connection, earlier, hfirst, hwaiting, ?_⟩
  rw [hrows]
  decide +kernel

end Engine

end SqlPipe
