import SqlPipe.Proofs.Engine.Solo

/-!
# Trials

A trial is something that is asked of a destination, together with the answer: a connection is
checked out, a message is executed, or a connection is given back.  A course is what is asked in the
order of time.  Since it holds the answers too, the failure that happened first is the first failure
of its trials.

Batches that any connection may take are all dispatched.  For each of them, in order, a connection
is checked out, and it is executed on the connection that it got, so the answers to the checkouts
alone decide what is executed and where.  Whether executions overlap makes a difference to the
course, and to nothing that is said here of it.
-/

namespace SqlPipe

/-- Something asked of a destination, with the answer. -/
inductive Trial
  | checkout (answer : Except Failure Connection)
  | execution (connection : Connection) (message : Message) (answer : Except Failure Unit)
  | handback (connection : Connection)

namespace Trial

def outcome (dialect : Dialect) : Trial → Outcome
  | checkout (.ok _) | handback _ => .ok ()
  | checkout (.error failure) => .error failure
  | execution _ message answer => dialect.verdict message.text answer

def checkout? : Trial → Option (Except Failure Connection)
  | checkout answer => some answer
  | execution _ _ _ | handback _ => none

def execution? : Trial → Option (Connection × Message)
  | execution connection message _ => some (connection, message)
  | checkout _ | handback _ => none

def checkouts (trials : List Trial) : List (Except Failure Connection) :=
  trials.filterMap checkout?

def executions (trials : List Trial) : List (Connection × Message) :=
  trials.filterMap execution?

def failed (dialect : Dialect) (trials : List Trial) : Outcome :=
  firstFailure (trials.map (outcome dialect))

@[simp] theorem checkouts_append (trials others : List Trial) :
    checkouts (trials ++ others) = checkouts trials ++ checkouts others :=
  List.filterMap_append

@[simp] theorem executions_append (trials others : List Trial) :
    executions (trials ++ others) = executions trials ++ executions others :=
  List.filterMap_append

end Trial

theorem firstFailure_cons (outcome : Outcome) (others : List Outcome) :
    firstFailure (outcome :: others) = outcome.bind fun _ => firstFailure others := by
  cases outcome <;> rfl

theorem firstFailure_append (outcomes others : List Outcome) :
    firstFailure (outcomes ++ others) =
      (firstFailure outcomes).bind fun _ => firstFailure others := by
  induction outcomes with
  | nil => rfl
  | cons outcome outcomes ih =>
      rw [List.cons_append, firstFailure_cons, firstFailure_cons, ih]
      cases outcome <;> rfl

theorem Trial.failed_append (dialect : Dialect) (trials others : List Trial) :
    failed dialect (trials ++ others) =
      (failed dialect trials).bind fun _ => failed dialect others := by
  rw [failed, List.map_append, firstFailure_append, failed, failed]

theorem Trial.failed_eq_ok {dialect : Dialect} {trials : List Trial} :
    failed dialect trials = .ok () ↔ ∀ trial ∈ trials, trial.outcome dialect = .ok () := by
  simp [failed, firstFailure_eq_ok]

/-- The destination answers so in one state, and is in the other state afterwards. -/
inductive Destination.Answers {σ : Type} (destination : Destination σ) : σ → Trial → σ → Prop
  | checkout (world : σ) :
      Answers destination world (.checkout (destination.acquire world).1)
        (destination.acquire world).2
  | execution (world : σ) (connection : Connection) (message : Message) :
      Answers destination world
        (.execution connection message (destination.execute connection message.text world).1)
        (destination.execute connection message.text world).2
  | handback (world : σ) (connection : Connection) :
      Answers destination world (.handback connection) (destination.release connection world)

/-- Trials that lead a destination from one state to another. -/
inductive Course {σ : Type} (destination : Destination σ) : σ → List Trial → σ → Prop
  | nil (world : σ) : Course destination world [] world
  | cons {world middle later : σ} {trial : Trial} {trials : List Trial}
      (hfirst : destination.Answers world trial middle)
      (hrest : Course destination middle trials later) :
      Course destination world (trial :: trials) later

variable {σ : Type} {destination : Destination σ}

theorem Course.single
    {world later : σ} {trial : Trial} (hanswers : destination.Answers world trial later) :
    Course destination world [trial] later :=
  .cons hanswers (.nil later)

theorem Course.append
    {world middle later : σ} {trials others : List Trial}
    (hcourse : Course destination world trials middle)
    (hothers : Course destination middle others later) :
    Course destination world (trials ++ others) later := by
  induction hcourse with
  | nil => exact hothers
  | cons hfirst _ ih => exact .cons hfirst (ih hothers)

namespace Line

variable {line middle later : Line σ}

/-- Trials have led from one line to another, and its journal tells what was executed. -/
structure Tried (destination : Destination σ) (line : Line σ) (trials : List Trial)
    (later : Line σ) : Prop where
  course : Course destination line.world trials later.world
  told : later.journal.messages = line.journal.messages ++ Trial.executions trials

theorem Tried.append
    {trials others : List Trial} (htried : line.Tried destination trials middle)
    (hothers : middle.Tried destination others later) :
    line.Tried destination (trials ++ others) later where
  course := htried.course.append hothers.course
  told := by rw [hothers.told, htried.told, Trial.executions_append, List.append_assoc]

theorem tried_nil
    (hworld : later.world = line.world)
    (hmessages : later.journal.messages = line.journal.messages) :
    line.Tried destination [] later where
  course := by
    rw [hworld]
    exact .nil line.world
  told := by simp [hmessages, Trial.executions]

/-! ## Single trials -/

theorem tried_start (line : Line σ) (connection : Connection) :
    line.Tried destination [] (line.start connection) :=
  tried_nil rfl (messages_start line connection)

theorem tried_acquire
    {answer : Except Failure Connection} (hacquire : line.acquire destination = (answer, later)) :
    line.Tried destination [.checkout answer] later := by
  have hmessages := messages_acquire hacquire
  have hworld : (destination.acquire line.world).1 = answer ∧
      (destination.acquire line.world).2 = later.world := by
    unfold acquire at hacquire
    split at hacquire <;>
      next connection world heq =>
        cases hacquire
        rw [heq]
        exact ⟨rfl, rfl⟩
  refine ⟨?_, by simp [hmessages, Trial.executions, Trial.execution?]⟩
  rw [← hworld.1, ← hworld.2]
  exact .single (.checkout line.world)

theorem tried_release (line : Line σ) (connection : Connection) :
    line.Tried destination [.handback connection] (line.release destination connection) where
  course := .single (.handback line.world connection)
  told := by simp [Trial.executions, Trial.execution?]

theorem tried_finish
    (destination : Destination σ) (line : Line σ) (connection : Connection) (message : Message) :
    ∃ answer, line.Tried destination [.execution connection message answer]
        (line.finish destination connection message).2 ∧
      (line.finish destination connection message).1 =
        destination.dialect.verdict message.text answer := by
  refine ⟨(destination.execute connection message.text line.world).1, ⟨?_, ?_⟩,
    outcome_judge _ _ _ _⟩
  · have hworld : (line.finish destination connection message).2.world =
        (destination.execute connection message.text line.world).2 := world_judge _ _ _ _
    rw [hworld]
    exact .single (.execution line.world connection message)
  · simp [Trial.executions, Trial.execution?]

theorem tried_run
    (destination : Destination σ) (line : Line σ) (connection : Connection) (message : Message) :
    ∃ answer, line.Tried destination [.execution connection message answer]
        (line.run destination connection message).2 ∧
      (line.run destination connection message).1 =
        destination.dialect.verdict message.text answer := by
  obtain ⟨answer, htried, houtcome⟩ :=
    tried_finish destination (line.start connection) connection message
  exact ⟨answer, (tried_start line connection).append htried, houtcome⟩

/-! ## Batches -/

/-- The batches that get a connection, each with it, where the checkouts for them are answered
so. -/
def granted : List (Except Failure Connection) → List Insert → List (Connection × Insert)
  | .ok connection :: checkouts, batch :: batches =>
      (connection, batch) :: granted checkouts batches
  | .error _ :: checkouts, _ :: batches => granted checkouts batches
  | _, _ => []

def asMessage (started : Connection × Insert) : Connection × Message :=
  (started.1, .batch started.2)

/-- All batches were dispatched.  For each of them a connection was checked out, and each that got
one was executed there. -/
structure Dispatched (destination : Destination σ) (line : Line σ) (batches : List Insert)
    (trials : List Trial) (later : Line σ) : Prop where
  tried : line.Tried destination trials later
  checkouts : (Trial.checkouts trials).length = batches.length
  executions : Trial.executions trials =
    (granted (Trial.checkouts trials) batches).map asMessage

theorem dispatched_nil (line : Line σ) : line.Dispatched destination [] [] line :=
  ⟨tried_nil rfl rfl, rfl, rfl⟩

theorem Dispatched.append
    {checkout : Except Failure Connection} {trials others : List Trial} {batch : Insert}
    {batches : List Insert} (hfirst : line.Tried destination trials middle)
    (hcheckout : Trial.checkouts trials = [checkout])
    (hexecution : Trial.executions trials = (granted [checkout] [batch]).map asMessage)
    (hothers : middle.Dispatched destination batches others later) :
    line.Dispatched destination (batch :: batches) (trials ++ others) later where
  tried := hfirst.append hothers.tried
  checkouts := by simp [hcheckout, hothers.checkouts]
  executions := by
    rw [Trial.executions_append, Trial.checkouts_append, hexecution, hothers.executions, hcheckout]
    cases checkout <;> rfl

theorem tried_runOnce (destination : Destination σ) (line : Line σ) (batch : Insert) :
    ∃ checkout trials,
      line.Tried destination trials (line.runOnce destination (.batch batch)).2 ∧
      Trial.checkouts trials = [checkout] ∧
      Trial.executions trials = (granted [checkout] [batch]).map asMessage ∧
      (line.runOnce destination (.batch batch)).1 = Trial.failed destination.dialect trials := by
  unfold runOnce
  split
  next failure next hacquire =>
    exact ⟨.error failure, _, tried_acquire hacquire, rfl, rfl, rfl⟩
  next connection next hacquire =>
    obtain ⟨answer, hrun, houtcome⟩ := tried_run destination next connection (.batch batch)
    refine ⟨.ok connection, _, ((tried_acquire hacquire).append hrun).append
      (tried_release _ connection), rfl, rfl, ?_⟩
    rw [houtcome]
    cases hverdict : destination.dialect.verdict (Message.batch batch).text answer <;>
      simp [Trial.failed, Trial.outcome, firstFailure, hverdict]

theorem dispatched_runEach
    (destination : Destination σ) (line : Line σ) (batches : List Insert) :
    ∃ trials,
      line.Dispatched destination batches trials (line.runEach destination batches).2 ∧
      firstFailure (line.runEach destination batches).1 =
        Trial.failed destination.dialect trials := by
  induction batches generalizing line with
  | nil => exact ⟨[], dispatched_nil line, rfl⟩
  | cons batch others ih =>
      obtain ⟨checkout, trials, htried, hcheckout, hexecution, houtcome⟩ :=
        tried_runOnce destination line batch
      obtain ⟨rest, hothers, hrest⟩ := ih (line.runOnce destination (.batch batch)).2
      refine ⟨trials ++ rest, .append htried hcheckout hexecution hothers, ?_⟩
      rw [runEach, firstFailure_cons, houtcome, hrest, Trial.failed_append]

/-- Before the first batch ends, all checkouts have been answered. -/
theorem tried_startBatches
    (destination : Destination σ) (line : Line σ) (batches : List Insert) :
    let started := line.startBatches destination batches
    ∃ trials, line.Tried destination trials started.2.2 ∧
      (Trial.checkouts trials).length = batches.length ∧ Trial.executions trials = [] ∧
      started.2.1 = granted (Trial.checkouts trials) batches ∧
      firstFailure (started.1.map .error) = Trial.failed destination.dialect trials := by
  induction batches generalizing line with
  | nil => exact ⟨[], tried_nil rfl rfl, rfl, rfl, rfl, rfl⟩
  | cons batch others ih =>
      unfold startBatches
      split
      next connection next hacquire =>
        obtain ⟨trials, htried, hcheckouts, hnone, hstarted, hfailed⟩ := ih (next.start connection)
        refine ⟨.checkout (.ok connection) :: trials, ((tried_acquire hacquire).append
          (tried_start next connection)).append htried, ?_, hnone, ?_, hfailed⟩
        · exact congrArg Nat.succ hcheckouts
        · exact congrArg (List.cons (connection, batch)) hstarted
      next failure next hacquire =>
        obtain ⟨trials, htried, hcheckouts, hnone, hstarted, -⟩ := ih next
        exact ⟨.checkout (.error failure) :: trials, (tried_acquire hacquire).append htried,
          congrArg Nat.succ hcheckouts, hnone, hstarted, rfl⟩

theorem tried_finishBatches
    (destination : Destination σ) (line : Line σ) (started : List (Connection × Insert)) :
    ∃ trials, line.Tried destination trials (line.finishBatches destination started).2 ∧
      Trial.checkouts trials = [] ∧ Trial.executions trials = started.map asMessage ∧
      firstFailure (line.finishBatches destination started).1 =
        Trial.failed destination.dialect trials := by
  induction started generalizing line with
  | nil => exact ⟨[], tried_nil rfl rfl, rfl, rfl, rfl⟩
  | cons first others ih =>
      obtain ⟨connection, batch⟩ := first
      simp only [finishBatches]
      obtain ⟨answer, hfinish, houtcome⟩ :=
        tried_finish destination line connection (.batch batch)
      generalize line.finish destination connection (.batch batch) = done at *
      obtain ⟨trials, htried, hnone, hexecutions, hfailed⟩ :=
        ih (done.2.release destination connection)
      refine ⟨_, (hfinish.append (tried_release done.2 connection)).append htried, hnone,
        congrArg (List.cons (asMessage (connection, batch))) hexecutions, ?_⟩
      rw [houtcome]
      cases hverdict : destination.dialect.verdict (Message.batch batch).text answer with
      | ok => simpa [Trial.failed, Trial.outcome, firstFailure, hverdict] using hfailed
      | error failure => simp [Trial.failed, Trial.outcome, firstFailure, hverdict]

theorem dispatched_batchOutcomes
    (destination : Destination σ) (line : Line σ) (batches : List Insert) :
    ∃ trials,
      line.Dispatched destination batches trials (line.batchOutcomes destination batches).2 ∧
      firstFailure (line.batchOutcomes destination batches).1 =
        Trial.failed destination.dialect trials := by
  unfold batchOutcomes
  split
  next =>
    obtain ⟨trials, hstart, hcheckouts, hquiet, hstarted, hrefused⟩ :=
      tried_startBatches destination line batches
    dsimp only
    generalize line.startBatches destination batches = started at *
    obtain ⟨others, hfinish, hnone, hexecutions, hfailed⟩ :=
      tried_finishBatches destination started.2.2 started.2.1
    refine ⟨trials ++ others, ⟨hstart.append hfinish, ?_, ?_⟩, ?_⟩
    · rw [Trial.checkouts_append, hnone, List.append_nil, hcheckouts]
    · rw [Trial.executions_append, Trial.checkouts_append, hquiet, hnone, hexecutions, hstarted,
        List.nil_append, List.append_nil]
    · rw [firstFailure_append, hrefused, hfailed, Trial.failed_append]
  next => exact dispatched_runEach destination line batches

/-- Where cancellation is requested neither before the batches nor while they run, all of them are
dispatched, and the failure that happens first is the result. -/
theorem dispatched_runBatches
    {batches : List Insert} (hbefore : line.cancelled destination = false)
    (hbehind : (line.runBatches destination batches).2.cancelled destination = false) :
    ∃ trials,
      line.Dispatched destination batches trials (line.runBatches destination batches).2 ∧
      (line.runBatches destination batches).1 = Trial.failed destination.dialect trials := by
  obtain ⟨trials, hdispatched, hfailed⟩ := dispatched_batchOutcomes destination line batches
  refine ⟨trials, ?_⟩
  unfold runBatches at hbehind ⊢
  rw [hbefore] at hbehind ⊢
  simp only [Bool.false_eq_true, if_false] at hbehind ⊢
  rw [hfailed] at hbehind ⊢
  generalize Trial.failed destination.dialect trials = result at *
  cases result with
  | error failure => exact ⟨hdispatched, rfl⟩
  | ok =>
      dsimp only at hbehind ⊢
      split at hbehind
      next hcancelled => exact absurd hbehind (by simp [hcancelled])
      next hlive =>
        rw [if_neg hlive]
        exact ⟨hdispatched, rfl⟩

end Line

end SqlPipe
