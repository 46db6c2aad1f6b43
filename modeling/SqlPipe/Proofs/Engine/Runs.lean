import SqlPipe.Proofs.Engine.Settled

/-!
# Runs of an engine

A run answers any number of calls, one after the other, and goes on after failures.  Between two
calls the destination may change on its own: the request for cancellation is such a change.

After every run the journal is orderly and tells what the sink says of itself.
-/

namespace SqlPipe

/-- What is asked of an engine, or happens to its destination meanwhile. -/
inductive Call (σ : Type)
  /-- Takes a statement. -/
  | exec (text : String)
  | flush
  | close
  /-- The destination changes without the engine. -/
  | meanwhile (change : σ → σ)

namespace Engine

variable {σ : Type} (destination : Destination σ)

def answer (engine : Engine σ) : Call σ → Outcome × Engine σ
  | .exec text => engine.exec destination text
  | .flush => engine.flush destination
  | .close => engine.close destination
  | .meanwhile change => (.ok (), { engine with line.world := change engine.line.world })

def run (engine : Engine σ) (calls : List (Call σ)) : Engine σ :=
  calls.foldl (fun engine call => (engine.answer destination call).2) engine

/-- No call fails. -/
def Succeeds (engine : Engine σ) : List (Call σ) → Prop
  | [] => True
  | call :: calls =>
      (engine.answer destination call).1 = .ok () ∧
        Succeeds (engine.answer destination call).2 calls

instance decidableSucceeds :
    (engine : Engine σ) → (calls : List (Call σ)) → Decidable (engine.Succeeds destination calls)
  | _, [] => inferInstanceAs (Decidable True)
  | engine, call :: calls =>
      have := decidableSucceeds (engine.answer destination call).2 calls
      inferInstanceAs (Decidable (_ ∧ _))

variable {destination}

@[simp] theorem run_nil (engine : Engine σ) : engine.run destination [] = engine := rfl

theorem run_append (engine : Engine σ) (calls others : List (Call σ)) :
    engine.run destination (calls ++ others) =
      (engine.run destination calls).run destination others := by
  simp [run]

theorem run_concat (engine : Engine σ) (calls : List (Call σ)) (call : Call σ) :
    engine.run destination (calls ++ [call]) =
      ((engine.run destination calls).answer destination call).2 := by
  simp [run]

theorem succeeds_append {engine : Engine σ} {calls others : List (Call σ)} :
    engine.Succeeds destination (calls ++ others) ↔
      engine.Succeeds destination calls ∧
        (engine.run destination calls).Succeeds destination others := by
  induction calls generalizing engine with
  | nil => simp [Succeeds]
  | cons call calls ih =>
      rw [List.cons_append, Succeeds, Succeeds, ih, and_assoc]
      rfl

/-- The inserts that a call brings into the buffers. -/
def arrivalOf (destination : Destination σ) : Call σ → List Insert
  | .exec text => destination.arrival text
  | .flush | .close | .meanwhile _ => []

/-- The inserts that calls bring into the buffers, in order. -/
def arrivedBy (destination : Destination σ) (calls : List (Call σ)) : List Insert :=
  calls.flatMap (arrivalOf destination)

/-! ## Consistency -/

/-- The journal is orderly and tells what the sink says of itself and what has arrived, and the sink
is sound. -/
structure Consistent (destination : Destination σ) (arrived : List Insert)
    (engine : Engine σ) : Prop where
  orderly : engine.line.journal.Orderly destination.maxOpen
  told : ∃ outgoing turn,
    engine.line.journal.ledger = engine.sink.ledger arrived outgoing turn
  sound : engine.sink.Sound destination.maxOpen

variable {arrived : List Insert}

theorem consistent_fresh (destination : Destination σ) (batchCap : ℕ) (world : σ) :
    (fresh batchCap world).Consistent destination [] where
  orderly := trivial
  told := ⟨[], 0, rfl⟩
  sound := Sink.sound_fresh destination.maxOpen batchCap

theorem Consistent.settled
    {engine : Engine σ} (hconsistent : engine.Consistent destination arrived) :
    engine.Settled destination engine.line arrived := by
  obtain ⟨outgoing, turn, htold⟩ := hconsistent.told
  exact ⟨⟨outgoing, turn, .refl, htold⟩, hconsistent.sound⟩

theorem Settled.consistent
    {origin : Line σ} {engine : Engine σ} (hsettled : engine.Settled destination origin arrived)
    (horderly : origin.journal.Orderly destination.maxOpen) :
    engine.Consistent destination arrived := by
  obtain ⟨⟨outgoing, turn, hleads⟩, hsound⟩ := hsettled
  exact ⟨Line.orderly_of_steps hleads.steps horderly, ⟨outgoing, turn, hleads.ledger_eq⟩, hsound⟩

/-! ## Closing -/

theorem Settled.abandonTransaction
    {origin : Line σ} {engine : Engine σ} (hsettled : engine.Settled destination origin arrived)
    (hempty : engine.sink.buffers = []) :
    (engine.abandonTransaction destination).Reached destination origin arrived ∧
      (engine.abandonTransaction destination).sink = { engine.sink with sentry := none } := by
  unfold Engine.abandonTransaction
  split
  next hsentry =>
    refine ⟨hsettled.reached, ?_⟩
    rw [← hsentry]
  next sentry hsentry =>
    have hpinned : engine.sink.pinned = none := by
      by_cases hmany : 2 ≤ destination.maxOpen
      · exact (hsettled.sound.many hmany).1
      · have hnone := (hsettled.sound.single (by omega)).2
        rw [hsentry] at hnone
        cases hnone
    obtain ⟨turn, hleads⟩ := hsettled.reached.unbind hsentry hpinned hempty
    refine ⟨⟨[], turn, ?_⟩, rfl⟩
    simpa [Sink.ledger, Sink.holds, hpinned, hempty] using
      release_leadsTo (hleads.report .warning _)

theorem Reached.unpin
    {origin : Line σ} {engine : Engine σ} (hreached : engine.Reached destination origin arrived)
    (hsentry : engine.sink.sentry = none) :
    (engine.unpin destination).Reached destination origin arrived ∧
      (engine.unpin destination).sink = { engine.sink with pinned := none } := by
  obtain ⟨outgoing, turn, hleads⟩ := hreached
  unfold Engine.unpin
  split
  next hpinned =>
    refine ⟨⟨outgoing, turn, hleads⟩, ?_⟩
    rw [← hpinned]
  next connection hpinned =>
    have hheld : connection ∈ (engine.sink.ledger arrived outgoing turn).held := by
      simp [Sink.ledger, Sink.holds, hpinned]
    have hreleased := hleads.release (by simp [Sink.ledger, hsentry]) hheld
    refine ⟨⟨outgoing, turn, ?_⟩, rfl⟩
    simpa [Sink.ledger, Sink.holds, Ledger.after, hsentry, hpinned] using hreleased

/-- Before the destination is closed, everything is sent or lost and given back. -/
structure Bare (destination : Destination σ) (origin : Line σ) (arrived : List Insert)
    (engine : Engine σ) : Prop where
  reached : ∃ outgoing turn,
    Line.LeadsTo destination origin ⟨arrived, [], outgoing, none, turn, 0⟩ engine.line
  buffers : engine.sink.buffers = []
  sentry : engine.sink.sentry = none
  deferred : engine.sink.deferred = []
  pinned : engine.sink.pinned = none

theorem Bare.sound
    {origin : Line σ} {engine : Engine σ}
    (hbare : engine.Bare destination origin arrived) (limit : ℕ) : engine.sink.Sound limit := by
  refine ⟨fun _ => ⟨hbare.buffers, hbare.sentry⟩, fun hmany => ⟨hbare.pinned, ?_⟩, ?_,
    fun _ => hbare.deferred⟩
  · rw [hbare.buffers, List.length_nil]
    omega
  · intro sentry hsome
    rw [hbare.sentry] at hsome
    cases hsome

theorem Settled.close_eq
    {origin : Line σ} {engine : Engine σ} (hsettled : engine.Settled destination origin arrived) :
    ∃ bare : Engine σ, bare.Bare destination origin arrived ∧
      (engine.close destination).2 = { bare with line := bare.line.close destination } := by
  have hflush := hsettled.flush
  have hflushed := flushedFrom_flush destination engine
  unfold Engine.close
  cases hdone : engine.flush destination with
  | mk outcome flushed =>
      rw [hdone] at hflush hflushed
      obtain ⟨habandoned, hsink⟩ := hflush.abandonTransaction hflushed.buffers
      have hcleared : Reached destination origin arrived
          { flushed.abandonTransaction destination with sink.deferred := [] } := habandoned
      obtain ⟨⟨outgoing, turn, hleads⟩, hbare⟩ :=
        hcleared.unpin (congrArg Sink.sentry hsink)
      refine ⟨_, ?_, rfl⟩
      generalize unpin destination
        { flushed.abandonTransaction destination with sink.deferred := [] } = bare at *
      have hbuffers : bare.sink.buffers = [] := by
        rw [hbare]
        exact (congrArg Sink.buffers hsink).trans hflushed.buffers
      have hsentry : bare.sink.sentry = none := by
        rw [hbare]
        exact congrArg Sink.sentry hsink
      have hpinned : bare.sink.pinned = none := by rw [hbare]
      have hdeferred : bare.sink.deferred = [] := by rw [hbare]
      refine ⟨⟨outgoing, turn, ?_⟩, hbuffers, hsentry, hdeferred, hpinned⟩
      simpa [Sink.ledger, Sink.holds, hbuffers, hsentry, hpinned] using hleads

theorem Consistent.close
    {engine : Engine σ} (hconsistent : engine.Consistent destination arrived) :
    (engine.close destination).2.Consistent destination arrived := by
  obtain ⟨bare, hbare, heq⟩ := hconsistent.settled.close_eq
  rw [heq]
  obtain ⟨outgoing, turn, hleads⟩ := hbare.reached
  have hbefore := Line.orderly_of_steps hleads.steps hconsistent.orderly
  refine ⟨⟨?_, hbefore⟩, ⟨outgoing, turn, ?_⟩, hbare.sound destination.maxOpen⟩
  · rw [hleads.ledger_eq]
    exact ⟨rfl, rfl, rfl⟩
  · refine hleads.ledger_eq.trans ?_
    simp [Sink.ledger, Sink.holds, hbare.buffers, hbare.sentry, hbare.pinned]

theorem Consistent.answer
    {engine : Engine σ} (hconsistent : engine.Consistent destination arrived) (call : Call σ) :
    (engine.answer destination call).2.Consistent destination
      (arrived ++ arrivalOf destination call) := by
  cases call with
  | exec text => exact (hconsistent.settled.exec text).consistent hconsistent.orderly
  | flush =>
      rw [arrivalOf, List.append_nil]
      exact hconsistent.settled.flush.consistent hconsistent.orderly
  | close =>
      rw [arrivalOf, List.append_nil]
      exact hconsistent.close
  | meanwhile change =>
      rw [arrivalOf, List.append_nil]
      exact ⟨hconsistent.orderly, hconsistent.told, hconsistent.sound⟩

theorem Consistent.run
    {engine : Engine σ} (hconsistent : engine.Consistent destination arrived)
    (calls : List (Call σ)) :
    (engine.run destination calls).Consistent destination
      (arrived ++ arrivedBy destination calls) := by
  induction calls generalizing engine arrived with
  | nil => simpa [arrivedBy] using hconsistent
  | cons call calls ih =>
      have hrest := ih (hconsistent.answer call)
      rw [List.append_assoc] at hrest
      exact hrest

theorem consistent_run_fresh (batchCap : ℕ) (world : σ) (calls : List (Call σ)) :
    ((fresh batchCap world).run destination calls).Consistent destination
      (arrivedBy destination calls) := by
  simpa using (consistent_fresh destination batchCap world).run calls

/-! ## Journals of runs -/

theorem Consistent.suffix_answer
    {engine : Engine σ} (hconsistent : engine.Consistent destination arrived) (call : Call σ) :
    engine.line.journal <:+ (engine.answer destination call).2.line.journal := by
  have hsettled := hconsistent.settled
  cases call with
  | exec text => exact (hsettled.exec text).suffix
  | flush => exact hsettled.flush.suffix
  | close =>
      obtain ⟨bare, hbare, heq⟩ := hsettled.close_eq
      obtain ⟨outgoing, turn, hleads⟩ := hbare.reached
      have hclose : (engine.answer destination .close).2 =
          { bare with line := bare.line.close destination } := heq
      rw [hclose]
      exact (Line.suffix_of_steps hleads.steps).trans (List.suffix_cons _ _)
  | meanwhile change => exact List.suffix_refl _

theorem Consistent.suffix_run
    {engine : Engine σ} (hconsistent : engine.Consistent destination arrived)
    (calls : List (Call σ)) :
    engine.line.journal <:+ (engine.run destination calls).line.journal := by
  induction calls generalizing engine arrived with
  | nil => exact List.suffix_refl _
  | cons call calls ih =>
      exact (hconsistent.suffix_answer call).trans (ih (hconsistent.answer call))

end Engine

end SqlPipe
