import SqlPipe.Proofs.Line.Steps

/-!
# Destinations under watch

A tally beside the state of a destination counts the connections that are checked out, and remembers
whether one was ever asked for while as many were checked out as may be.  The journal of a line does
not tell of a connection that was asked for and refused; the tally does.

Nothing on a line can tell whether its destination is watched, so what the tally shows of a watched
line holds of the line.  Orderly steps keep the tally equal to what the journal tells, and none of
them asks for a connection when as many are checked out as may be.
-/

namespace SqlPipe

/-- What was seen of the checkouts of a destination. -/
structure Tally where
  /-- The connections that are checked out. -/
  out : Multiset Connection
  /-- The most that ever were checked out at once. -/
  most : ℕ
  /-- A connection was asked for while as many were checked out as may be. -/
  overdrawn : Bool

namespace Tally

/-- The tally of a destination of which no connection was asked for. -/
def empty : Tally := ⟨0, 0, false⟩

/-- The tally after a connection was asked for, where `limit` of them may be checked out. -/
def asked (tally : Tally) (limit : ℕ) (answer : Except Failure Connection) : Tally :=
  let overdrawn := tally.overdrawn || decide (limit ≤ tally.out.card)
  match answer with
  | .ok connection =>
      { out := connection ::ₘ tally.out
        most := max tally.most (tally.out.card + 1)
        overdrawn }
  | .error _ => { tally with overdrawn }

def returned (tally : Tally) (connection : Connection) : Tally :=
  { tally with out := tally.out.erase connection }

/-- The connections that are checked out are the given ones, and never were `limit` of them checked
out when one more was asked for. -/
structure Sound (limit : ℕ) (held : Multiset Connection) (tally : Tally) : Prop where
  out : tally.out = held
  most : tally.most ≤ limit
  overdrawn : tally.overdrawn = false

variable {limit : ℕ} {held : Multiset Connection} {tally : Tally}

theorem sound_empty (limit : ℕ) : empty.Sound limit 0 :=
  ⟨rfl, Nat.zero_le limit, rfl⟩

theorem Sound.asked_ok
    (hsound : tally.Sound limit held) (hroom : held.card < limit) (connection : Connection) :
    (tally.asked limit (.ok connection)).Sound limit (connection ::ₘ held) := by
  obtain ⟨rfl, hmost, hfree⟩ := hsound
  have hbelow : ¬ limit ≤ tally.out.card := by omega
  exact ⟨rfl, max_le hmost hroom, by simp [asked, hfree, hbelow]⟩

theorem Sound.asked_error
    (hsound : tally.Sound limit held) (hroom : held.card < limit) (failure : Failure) :
    (tally.asked limit (.error failure)).Sound limit held := by
  obtain ⟨rfl, hmost, hfree⟩ := hsound
  have hbelow : ¬ limit ≤ tally.out.card := by omega
  exact ⟨rfl, hmost, by simp [asked, hfree, hbelow]⟩

theorem Sound.returned (hsound : tally.Sound limit held) (connection : Connection) :
    (tally.returned connection).Sound limit (held.erase connection) :=
  ⟨congrArg (Multiset.erase · connection) hsound.out, hsound.most, hsound.overdrawn⟩

end Tally

variable {σ : Type}

def Destination.watched (destination : Destination σ) : Destination (σ × Tally) where
  dialect := destination.dialect
  maxOpen := destination.maxOpen
  overlaps := destination.overlaps
  acquire := fun (world, tally) =>
    let (answer, world) := destination.acquire world
    (answer, world, tally.asked (max 1 destination.maxOpen) answer)
  execute := fun connection text (world, tally) =>
    let (outcome, world) := destination.execute connection text world
    (outcome, world, tally)
  ping := fun connection (world, tally) =>
    let (response, world) := destination.ping connection world
    (response, world, tally)
  release := fun connection (world, tally) =>
    (destination.release connection world, tally.returned connection)
  close := fun (world, tally) => (destination.close world, tally)
  cancelled := fun (world, _) => destination.cancelled world

theorem Destination.dialect_watched (destination : Destination σ) :
    destination.watched.dialect = destination.dialect := rfl

/-- Work seen through a change of the state goes on as the changed work does. -/
theorem map_andThen
    {τ : Type} {change : σ → τ} {done : Outcome × σ} {next : σ → Outcome × σ}
    {next' : τ → Outcome × τ} (hnext : ∀ state, (next state).map id change = next' (change state)) :
    (andThen done next).map id change = andThen (done.map id change) next' := by
  obtain ⟨outcome, state⟩ := done
  cases outcome with
  | error => rfl
  | ok => exact hnext state

namespace Line

def unwatched (line : Line (σ × Tally)) : Line σ := ⟨line.world.1, line.journal⟩

def forget {α : Type} (done : α × Line (σ × Tally)) : α × Line σ := (done.1, done.2.unwatched)

theorem forget_mk {α : Type} (answer : α) (line : Line (σ × Tally)) :
    forget (answer, line) = (answer, line.unwatched) := rfl

/-! ## Work on a watched line -/

variable (destination : Destination σ) (line : Line (σ × Tally))

theorem forget_acquire :
    forget (line.acquire destination.watched) = line.unwatched.acquire destination := by
  rcases hanswer : destination.acquire line.world.1 with ⟨_ | _, _⟩ <;>
    simp [acquire, forget, Destination.watched, unwatched, hanswer, note]

theorem unwatched_releaseAll (connections : List Connection) :
    (line.releaseAll destination.watched connections).unwatched =
      line.unwatched.releaseAll destination connections := by
  induction connections generalizing line with
  | nil => rfl
  | cons connection others ih => exact ih _

theorem start_unwatched (connection : Connection) :
    (line.start connection).unwatched = line.unwatched.start connection := rfl

theorem release_unwatched (connection : Connection) :
    (line.release destination.watched connection).unwatched =
      line.unwatched.release destination connection := rfl

theorem cancelled_unwatched :
    line.unwatched.cancelled destination = line.cancelled destination.watched := rfl

theorem forget_judge (dialect : Dialect) (text : String) (outcome : Outcome) :
    forget (judge dialect text line outcome) = judge dialect text line.unwatched outcome := by
  unfold judge
  split
  · rfl
  · split <;> rfl

theorem forget_finish (connection : Connection) (message : Message) :
    forget (line.finish destination.watched connection message) =
      line.unwatched.finish destination connection message :=
  forget_judge _ _ _ _

theorem forget_run (connection : Connection) (message : Message) :
    forget (line.run destination.watched connection message) =
      line.unwatched.run destination connection message :=
  forget_finish destination _ connection message

theorem forget_runAll (connection : Connection) (texts : List String) :
    forget (line.runAll destination.watched connection texts) =
      line.unwatched.runAll destination connection texts := by
  induction texts generalizing line with
  | nil => rfl
  | cons text others ih =>
      rw [runAll, runAll, ← forget_run]
      exact map_andThen ih

theorem forget_runOnce (message : Message) :
    forget (line.runOnce destination.watched message) =
      line.unwatched.runOnce destination message := by
  rw [runOnce, runOnce, ← forget_acquire]
  rcases line.acquire destination.watched with ⟨_ | connection, line⟩
  · rfl
  · simp only [forget, ← forget_run]
    rfl

/-! ## Several connections -/

theorem forget_acquireMany (held : List Connection) (wanted : ℕ) :
    forget (acquireMany destination.watched held line wanted) =
      acquireMany destination held line.unwatched wanted := by
  induction wanted generalizing held line with
  | zero => rfl
  | succ wanted ih =>
      rw [acquireMany, acquireMany, ← forget_acquire]
      rcases line.acquire destination.watched with ⟨_ | connection, line⟩
      · exact congrArg (Prod.mk _) (unwatched_releaseAll destination line held)
      · exact ih line _

theorem forget_runInTurn (texts : List String) (connections : List Connection) :
    forget (runInTurn destination.watched texts line connections) =
      runInTurn destination texts line.unwatched connections := by
  induction connections generalizing line with
  | nil => rfl
  | cons connection others ih =>
      simp only [runInTurn, ← forget_runAll]
      simp only [forget, ← ih]

theorem forget_finishEach (text : String) (more : Bool) (lanes : List Lane) :
    forget (finishEach destination.watched text more line lanes) =
      finishEach destination text more line.unwatched lanes := by
  induction lanes generalizing line with
  | nil => rfl
  | cons lane others ih =>
      obtain ⟨connection, outcome⟩ := lane
      cases outcome with
      | error => simp only [finishEach, forget, ← ih]
      | ok =>
          have hfinish := forget_finish destination line connection (.statement text)
          rcases hdone : line.finish destination.watched connection (.statement text) with
            ⟨outcome, later⟩
          rw [hdone, forget_mk] at hfinish
          -- the same outcome on both lines, so the next statement starts on both or on neither
          simp only [finishEach, hdone, ← hfinish]
          cases more && outcome.isOk with
          | false => exact congrArg (Prod.map (_ :: ·) id) (ih later)
          | true => exact congrArg (Prod.map (_ :: ·) id) (ih (later.start connection))

theorem forget_runInStep (lanes : List Lane) (texts : List String) :
    forget (runInStep destination.watched lanes line texts) =
      runInStep destination lanes line.unwatched texts := by
  induction texts generalizing line lanes with
  | nil => rfl
  | cons text others ih =>
      rw [runInStep, runInStep, ← forget_finishEach]
      exact ih _ _

theorem unwatched_startEach (connections : List Connection) :
    (connections.foldl start line).unwatched = connections.foldl start line.unwatched := by
  induction connections generalizing line with
  | nil => rfl
  | cons connection others ih => exact ih _

theorem forget_runOnHeld (texts : List String) (connections : List Connection) :
    forget (runOnHeld destination.watched texts line connections) =
      runOnHeld destination texts line.unwatched connections := by
  unfold runOnHeld
  rw [← unwatched_startEach, ← forget_runInTurn, ← forget_runInStep]
  exact apply_ite _ _ _ _

theorem forget_runOnMany (texts : List String) (wanted : ℕ) :
    forget (line.runOnMany destination.watched texts wanted) =
      line.unwatched.runOnMany destination texts wanted := by
  rw [runOnMany, runOnMany, ← forget_acquireMany]
  rcases acquireMany destination.watched [] line wanted with ⟨_ | connections, line⟩
  · rfl
  · simp only [forget, ← forget_runOnHeld]
    exact congrArg (Prod.mk _) (unwatched_releaseAll destination _ connections)

/-! ## Batches -/

theorem forget_runEach (batches : List Insert) :
    forget (line.runEach destination.watched batches) =
      line.unwatched.runEach destination batches := by
  induction batches generalizing line with
  | nil => rfl
  | cons batch others ih =>
      simp only [runEach, ← forget_runOnce]
      simp only [forget, ← ih]

theorem forget_startBatches (batches : List Insert) :
    ((line.startBatches destination.watched batches).1,
        forget (line.startBatches destination.watched batches).2) =
      line.unwatched.startBatches destination batches := by
  induction batches generalizing line with
  | nil => rfl
  | cons batch others ih =>
      rw [startBatches, startBatches, ← forget_acquire]
      rcases line.acquire destination.watched with ⟨_ | connection, line⟩
      · simp only [forget, ← ih]
      · have hrest := ih (line.start connection)
        simp only [forget] at hrest ⊢
        rw [← start_unwatched, ← hrest]

theorem forget_finishBatches (started : List (Connection × Insert)) :
    forget (line.finishBatches destination.watched started) =
      line.unwatched.finishBatches destination started := by
  induction started generalizing line with
  | nil => rfl
  | cons first others ih =>
      obtain ⟨connection, batch⟩ := first
      simp only [finishBatches, ← forget_finish]
      rcases line.finish destination.watched connection (.batch batch) with ⟨outcome, line⟩
      have hrest := ih (line.release destination.watched connection)
      simp only [forget] at hrest ⊢
      rw [← release_unwatched, ← hrest]

theorem forget_batchOutcomes (batches : List Insert) :
    forget (line.batchOutcomes destination.watched batches) =
      line.unwatched.batchOutcomes destination batches := by
  unfold batchOutcomes
  rw [← forget_startBatches, ← forget_runEach, apply_ite forget]
  simp only [forget, ← forget_finishBatches]
  rfl

theorem forget_runBatches (batches : List Insert) :
    forget (line.runBatches destination.watched batches) =
      line.unwatched.runBatches destination batches := by
  unfold runBatches
  rw [← forget_batchOutcomes, cancelled_unwatched]
  split
  · rfl
  · rcases line.batchOutcomes destination.watched batches with ⟨outcomes, later⟩
    simp only [forget_mk, cancelled_unwatched]
    cases firstFailure outcomes with
    | error => rfl
    | ok => exact apply_ite _ _ _ _

/-! ## What the tally shows -/

variable {destination : Destination σ} {line later : Line (σ × Tally)}

/-- The tally counts what the journal tells. -/
def Tallied (destination : Destination σ) (line : Line (σ × Tally)) : Prop :=
  line.world.2.Sound (max 1 destination.maxOpen) line.journal.ledger.held

theorem Tallied.step
    (htallied : line.Tallied destination) (hstep : Step destination.watched line later) :
    later.Tallied destination := by
  cases hstep with
  | @acquired connection world hacquire hallowed =>
      obtain ⟨hanswer, rfl⟩ := Prod.mk.inj hacquire
      have hasked := htallied.asked_ok hallowed.2 connection
      rw [← hanswer] at hasked
      exact hasked
  | @refused failure world hacquire hallowed =>
      obtain ⟨hanswer, rfl⟩ := Prod.mk.inj hacquire
      have hasked := htallied.asked_error (hallowed 0).2 failure
      rw [← hanswer] at hasked
      exact hasked
  | @sent connection message => cases message <;> exact htallied
  | @released connection => exact htallied.returned connection
  | @inner action hinner =>
      cases action with
      | acquired => cases hinner
      | sent => cases hinner
      | released => cases hinner
      | closed => cases hinner
      | _ => exact htallied

theorem Tallied.steps
    (htallied : line.Tallied destination)
    (hsteps : Relation.ReflTransGen (Step destination.watched) line later) :
    later.Tallied destination := by
  induction hsteps with
  | refl => exact htallied
  | tail _ hstep ih => exact ih.step hstep

end Line

end SqlPipe
