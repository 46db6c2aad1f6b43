import SqlPipe.Proofs.Engine.Roles
import SqlPipe.Proofs.Line.Steps

/-!
# Engines in order

An engine is settled when orderly steps have led to its line, when its journal tells what its sink
says of itself, and when the sink is sound: its buffers are few, a transaction is open to some
depth, and session statements are deferred during a transaction only.

Every operation of an engine, whatever becomes of it, leads from a settled engine to a settled one.
-/

namespace SqlPipe

namespace Sink

def holds (sink : Sink) : List Connection :=
  (sink.sentry.map Sentry.connection).toList ++ sink.pinned.toList

/-- The ledger of a journal that tells what a sink says of itself.  What has arrived, which batches
were lost and how many transactions there were the sink does not say. -/
def ledger (sink : Sink) (arrived outgoing : List Insert) (turn : ℕ) : Ledger :=
  ⟨arrived, sink.buffers, outgoing, sink.sentry.map Sentry.connection, turn, sink.holds⟩

/-- A sink as it is between two requests, for a destination that may have `limit` connections
open. -/
structure Sound (limit : ℕ) (sink : Sink) : Prop where
  single : limit ≤ 1 → sink.buffers = [] ∧ sink.sentry = none
  many : 2 ≤ limit → sink.pinned = none ∧ sink.buffers.length < limit
  depth_pos : ∀ sentry, sink.sentry = some sentry → 0 < sentry.depth
  deferred : sink.sentry = none → sink.deferred = []

theorem sound_fresh (limit batchCap : ℕ) : (fresh batchCap).Sound limit where
  single _ := ⟨rfl, rfl⟩
  many hlimit := ⟨rfl, by simpa [fresh] using by omega⟩
  depth_pos sentry hsentry := by simp [fresh] at hsentry
  deferred _ := rfl

theorem Sound.withStats
    {limit : ℕ} {sink : Sink} (hsound : sink.Sound limit) (stats : Stats) :
    Sound limit { sink with stats } :=
  ⟨hsound.single, hsound.many, hsound.depth_pos, hsound.deferred⟩

theorem length_addRows_le (insert : Insert) (buffers : List Insert) :
    (addRows insert buffers).length ≤ buffers.length + 1 := by
  induction buffers with
  | nil => simp [addRows]
  | cons buffer others ih =>
      simp only [addRows]
      split
      · simp
      · simpa using ih

end Sink

/-- What holds of the engine before further work, and of every engine after it, holds of the engine
after both. -/
theorem andThen_snd
    {α : Type} (property : α → Prop) {done : Outcome × α} {next : α → Outcome × α}
    (hdone : property done.2)
    (hnext : ∀ state, done = (.ok (), state) → property (next state).2) :
    property (andThen done next).2 := by
  obtain ⟨outcome, state⟩ := done
  cases outcome with
  | ok => exact hnext state rfl
  | error => exact hdone

namespace Engine

variable {σ : Type} {destination : Destination σ} {origin : Line σ} {arrived : List Insert}
variable {engine : Engine σ}

/-- Orderly steps have led to the line of the engine, and its journal tells what its sink says and
what has arrived. -/
def Reached (destination : Destination σ) (origin : Line σ) (arrived : List Insert)
    (engine : Engine σ) : Prop :=
  ∃ outgoing turn,
    Line.LeadsTo destination origin (engine.sink.ledger arrived outgoing turn) engine.line

/-- The engine was reached in order, and its sink is sound. -/
structure Settled (destination : Destination σ) (origin : Line σ) (arrived : List Insert)
    (engine : Engine σ) : Prop where
  reached : engine.Reached destination origin arrived
  sound : engine.sink.Sound destination.maxOpen

theorem Settled.here (hsettled : engine.Settled destination origin arrived) :
    engine.Settled destination engine.line arrived := by
  obtain ⟨⟨outgoing, turn, hleads⟩, hsound⟩ := hsettled
  exact ⟨⟨outgoing, turn, .refl, hleads.ledger_eq⟩, hsound⟩

theorem Settled.steps (hsettled : engine.Settled destination origin arrived) :
    Relation.ReflTransGen (Line.Step destination) origin engine.line := by
  obtain ⟨outgoing, turn, hleads⟩ := hsettled.reached
  exact hleads.steps

theorem Settled.suffix (hsettled : engine.Settled destination origin arrived) :
    origin.journal <:+ engine.line.journal :=
  Line.suffix_of_steps hsettled.steps

theorem Settled.withStats (hsettled : engine.Settled destination origin arrived) (stats : Stats) :
    Settled destination origin arrived { engine with sink := { engine.sink with stats } } :=
  ⟨hsettled.reached, hsettled.sound.withStats stats⟩

theorem Settled.counted
    {done : Outcome × Engine σ} (hdone : done.2.Settled destination origin arrived) :
    (counted done).2.Settled destination origin arrived := by
  apply andThen_snd (Settled destination origin arrived) hdone
  intro state heq
  rw [heq] at hdone
  exact hdone.withStats _

theorem Settled.report
    (hsettled : engine.Settled destination origin arrived) (level : Level) (message : String) :
    (engine.report level message).Settled destination origin arrived := by
  obtain ⟨⟨outgoing, turn, hleads⟩, hsound⟩ := hsettled
  exact ⟨⟨outgoing, turn, hleads.report level message⟩, hsound⟩

theorem Settled.reportAll
    (hsettled : engine.Settled destination origin arrived) (events : List Event) :
    (engine.reportAll events).Settled destination origin arrived := by
  induction events generalizing engine with
  | nil => exact hsettled
  | cons event others ih => exact ih (hsettled.report event.level event.message)

theorem Settled.skip (hsettled : engine.Settled destination origin arrived) (text : String) :
    (engine.skip text).Settled destination origin arrived :=
  (hsettled.withStats _).report _ _

/-! ## Work that leaves the sink alone -/

@[simp] theorem sink_note (engine : Engine σ) (action : Action) :
    (engine.note action).sink = engine.sink := rfl

@[simp] theorem sink_report (engine : Engine σ) (level : Level) (message : String) :
    (engine.report level message).sink = engine.sink := rfl

@[simp] theorem sink_runOn
    (engine : Engine σ) (connection : Connection) (message : Message) :
    (engine.runOn destination connection message).2.sink = engine.sink := rfl

@[simp] theorem sink_release (engine : Engine σ) (connection : Connection) :
    (engine.release destination connection).sink = engine.sink := rfl

@[simp] theorem line_report (engine : Engine σ) (level : Level) (message : String) :
    (engine.report level message).line = engine.line.report level message := rfl

@[simp] theorem line_release (engine : Engine σ) (connection : Connection) :
    (engine.release destination connection).line =
      engine.line.release destination connection := rfl

@[simp] theorem sink_unbind (engine : Engine σ) :
    engine.unbind.sink = { engine.sink with sentry := none } := rfl

@[simp] theorem line_unbind (engine : Engine σ) :
    engine.unbind.line = engine.line.note .unbound := rfl

/-! ## Flushing -/

@[simp] theorem sentry_emptied (engine : Engine σ) :
    engine.emptied.sink.sentry = engine.sink.sentry := rfl

@[simp] theorem pinned_emptied (engine : Engine σ) :
    engine.emptied.sink.pinned = engine.sink.pinned := rfl

theorem sink_flushOnSentry
    (destination : Destination σ) (engine : Engine σ) (connection : Connection)
    (batches : List Insert) :
    ∃ stats, (engine.flushOnSentry destination connection batches).2.sink =
      { engine.sink with stats } := by
  induction batches generalizing engine with
  | nil => exact ⟨engine.sink.stats, rfl⟩
  | cons batch others ih =>
      simp only [flushOnSentry]
      cases hdone : engine.runOn destination connection (.batch batch) with
      | mk outcome next =>
          have hsink : next.sink = engine.sink := congrArg (fun done => done.2.sink) hdone.symm
          cases outcome with
          | error failure => exact ⟨engine.sink.stats, hsink⟩
          | ok =>
              obtain ⟨stats, hstats⟩ := ih (next.countBatches 1)
              exact ⟨stats, by rw [andThen, hstats, countBatches, hsink]⟩

theorem flushOnSentry_leadsTo
    {outgoing : List Insert} {turn : ℕ} {sentry : Sentry} {batches : List Insert}
    (hleads : Line.LeadsTo destination origin
      (engine.sink.ledger arrived outgoing turn) engine.line)
    (hsentry : engine.sink.sentry = some sentry)
    (hbatches : batches.Subperm outgoing) :
    ∃ unsent, Line.LeadsTo destination origin (engine.sink.ledger arrived unsent turn)
      (engine.flushOnSentry destination sentry.connection batches).2.line := by
  induction batches generalizing engine outgoing with
  | nil => exact ⟨outgoing, hleads⟩
  | cons batch others ih =>
      have hserves : (engine.sink.ledger arrived outgoing turn).Serves sentry.connection := by
        simp [Ledger.Serves, Sink.ledger, Sink.holds, hsentry]
      have hbatch : batch ∈ outgoing := hbatches.subset (by simp)
      have hsent : Line.LeadsTo destination origin
          (engine.sink.ledger arrived (outgoing.erase batch) turn)
          (engine.runOn destination sentry.connection (.batch batch)).2.line :=
        hleads.run (.batch batch) ⟨hserves, hbatch⟩
      have hothers : others.Subperm (outgoing.erase batch) := by
        have herased := hbatches.erase batch
        rwa [List.erase_cons_head] at herased
      simp only [flushOnSentry]
      cases hdone : engine.runOn destination sentry.connection (.batch batch) with
      | mk outcome next =>
          rw [hdone] at hsent
          have hsink : next.sink = engine.sink := congrArg (fun done => done.2.sink) hdone.symm
          cases outcome with
          | error failure => exact ⟨outgoing.erase batch, hsent⟩
          | ok =>
              rw [← hsink] at hsent hsentry ⊢
              have hcounted : Line.LeadsTo destination origin
                  ((next.countBatches 1).sink.ledger arrived (outgoing.erase batch) turn)
                  (next.countBatches 1).line := hsent
              exact ih hcounted hsentry hothers

/-- What a flush leaves of a sink. -/
structure FlushedFrom (sink later : Sink) : Prop where
  buffers : later.buffers = []
  sentry : later.sentry = sink.sentry
  deferred : later.deferred = sink.deferred
  pinned : later.pinned = sink.pinned

theorem FlushedFrom.sound
    {sink later : Sink} {limit : ℕ} (hflushed : FlushedFrom sink later)
    (hsound : sink.Sound limit) : later.Sound limit where
  single hlimit := ⟨hflushed.buffers, hflushed.sentry.trans (hsound.single hlimit).2⟩
  many hlimit := by
    refine ⟨hflushed.pinned.trans (hsound.many hlimit).1, ?_⟩
    rw [hflushed.buffers, List.length_nil]
    omega
  depth_pos sentry hsentry := hsound.depth_pos sentry (hflushed.sentry.symm.trans hsentry)
  deferred hsentry :=
    hflushed.deferred.trans (hsound.deferred (hflushed.sentry.symm.trans hsentry))

/-- Whatever becomes of it, a flush empties the buffers and leaves the rest of the sink alone. -/
theorem flushedFrom_flush (destination : Destination σ) (engine : Engine σ) :
    FlushedFrom engine.sink (engine.flush destination).2.sink := by
  unfold Engine.flush
  dsimp only
  split
  next hempty => exact ⟨List.isEmpty_iff.mp hempty, rfl, rfl, rfl⟩
  next =>
    split
    next sentry hsentry =>
      obtain ⟨stats, hsink⟩ := sink_flushOnSentry destination engine.emptied sentry.connection
        engine.sink.buffers
      rw [hsink]
      exact ⟨rfl, rfl, rfl, rfl⟩
    next =>
      apply andThen_snd fun later : Engine σ => FlushedFrom engine.sink later.sink
      · exact ⟨rfl, rfl, rfl, rfl⟩
      · intro state heq
        have hsink : state.sink = engine.emptied.sink :=
          congrArg (fun done => done.2.sink) heq.symm
        have hflushed : FlushedFrom engine.sink state.sink := by
          rw [hsink]
          exact ⟨rfl, rfl, rfl, rfl⟩
        exact ⟨hflushed.buffers, hflushed.sentry, hflushed.deferred, hflushed.pinned⟩

/-- A flush sends batches in order while no more of them wait than there may be connections. -/
theorem Reached.flush
    (hreached : engine.Reached destination origin arrived)
    (hroom : engine.sink.buffers ≠ [] →
      engine.sink.pinned = none ∧ engine.sink.buffers.length ≤ max 1 destination.maxOpen) :
    (engine.flush destination).2.Reached destination origin arrived := by
  obtain ⟨outgoing, turn, hleads⟩ := hreached
  unfold Engine.flush
  dsimp only
  split
  next => exact ⟨outgoing, turn, hleads⟩
  next hfull =>
    obtain ⟨hpinned, hfew⟩ := hroom (by simpa using hfull)
    have hemptied : Line.LeadsTo destination origin
        (engine.emptied.sink.ledger arrived engine.sink.buffers turn) engine.emptied.line :=
      (hleads.note .emptied trivial trivial).report _ _
    split
    next sentry hsentry =>
      obtain ⟨stats, hsink⟩ := sink_flushOnSentry destination engine.emptied sentry.connection
        engine.sink.buffers
      obtain ⟨unsent, hdone⟩ := flushOnSentry_leadsTo hemptied hsentry
        (List.Subperm.refl engine.sink.buffers)
      refine ⟨unsent, turn, ?_⟩
      rw [hsink]
      exact hdone
    next hsentry =>
      have hnone : (engine.emptied.sink.ledger arrived engine.sink.buffers turn).sentry = none := by
        simpa [Sink.ledger] using hsentry
      -- nothing is held, so there is a connection for each of the batches
      have hcard : (engine.emptied.sink.ledger arrived engine.sink.buffers turn).held.card +
          engine.sink.buffers.length ≤ max 1 destination.maxOpen := by
        simpa [Sink.ledger, Sink.holds, hsentry, hpinned] using hfew
      obtain ⟨unsent, hdone⟩ := hemptied.runBatches hnone hcard
        (List.Subperm.refl engine.sink.buffers)
      have hsent : (engine.emptied.after
          (engine.emptied.line.runBatches destination engine.sink.buffers)).2.Reached
            destination origin arrived := ⟨unsent, turn, hdone⟩
      apply andThen_snd (Reached destination origin arrived) hsent
      intro state heq
      rw [heq] at hsent
      exact hsent

theorem Settled.flush (hsettled : engine.Settled destination origin arrived) :
    (engine.flush destination).2.Settled destination origin arrived := by
  have hsound := hsettled.sound
  have hroom : engine.sink.buffers ≠ [] →
      engine.sink.pinned = none ∧
        engine.sink.buffers.length ≤ max 1 destination.maxOpen := by
    intro hfull
    have hmany : 2 ≤ destination.maxOpen := by
      by_contra hfew
      exact hfull (hsound.single (by omega)).1
    obtain ⟨hpinned, hlength⟩ := hsound.many hmany
    exact ⟨hpinned, by omega⟩
  exact ⟨hsettled.reached.flush hroom, (flushedFrom_flush destination engine).sound hsound⟩

theorem Settled.flushed
    (hsettled : engine.Settled destination origin arrived) {next : Engine σ → Outcome × Engine σ}
    (hnext : ∀ later : Engine σ, later.Settled destination origin arrived →
      later.sink.buffers = [] → (next later).2.Settled destination origin arrived) :
    (engine.flushed destination next).2.Settled destination origin arrived := by
  have hflush := hsettled.flush
  have hflushed := flushedFrom_flush destination engine
  apply andThen_snd (Settled destination origin arrived) hflush
  intro later heq
  rw [heq] at hflush hflushed
  exact hnext later hflush hflushed.buffers

/-! ## Statements behind a flush -/

theorem allows_statement_of_holds
    {sink : Sink} {connection : Connection} (arrived outgoing : List Insert) (turn : ℕ)
    (hholds : sink.holds = [connection])
    (hsentry : ∀ sentry, sink.sentry = some sentry → sentry.connection = connection)
    (hempty : sink.buffers = []) (limit : ℕ) (text : String) :
    (sink.ledger arrived outgoing turn).Allows limit (.sent connection (.statement text)) := by
  refine ⟨⟨?_, ?_⟩, hempty⟩
  · simp [Sink.ledger, hholds]
  · intro held hheld
    obtain ⟨sentry, hsome, rfl⟩ := Option.map_eq_some_iff.mp hheld
    exact (hsentry sentry hsome).symm

theorem Reached.runOn
    (hreached : engine.Reached destination origin arrived) {connection : Connection}
    (hholds : engine.sink.holds = [connection])
    (hsentry : ∀ sentry, engine.sink.sentry = some sentry → sentry.connection = connection)
    (hempty : engine.sink.buffers = []) (text : String) :
    (engine.runOn destination connection (.statement text)).2.Reached
      destination origin arrived := by
  obtain ⟨outgoing, turn, hleads⟩ := hreached
  have hallowed := allows_statement_of_holds arrived outgoing turn hholds hsentry hempty
    destination.maxOpen text
  exact ⟨[], turn + 1, hleads.run (.statement text) hallowed⟩

theorem holds_eq_of_sentry
    {sink : Sink} {sentry : Sentry}
    (hsentry : sink.sentry = some sentry) (hpinned : sink.pinned = none) :
    sink.holds = [sentry.connection] := by
  simp [Sink.holds, hsentry, hpinned]

/-- A sink without a transaction that has pinned nothing holds nothing. -/
theorem ledger_of_free
    {sink : Sink} (arrived outgoing : List Insert) (turn : ℕ)
    (hsentry : sink.sentry = none) (hpinned : sink.pinned = none) :
    (sink.ledger arrived outgoing turn).sentry = none ∧
      (sink.ledger arrived outgoing turn).held = 0 := by
  simp [Sink.ledger, Sink.holds, hsentry, hpinned]

theorem room_of_held_eq_zero
    {ledger : Ledger} (hheld : ledger.held = 0) (limit : ℕ) : ledger.held.card < max 1 limit := by
  rw [hheld, Multiset.card_zero]
  exact Nat.lt_of_lt_of_le Nat.one_pos (Nat.le_max_left 1 limit)

theorem Reached.runOnSentry
    (hreached : engine.Reached destination origin arrived) {sentry : Sentry}
    (hsentry : engine.sink.sentry = some sentry) (hpinned : engine.sink.pinned = none)
    (hempty : engine.sink.buffers = []) (text : String) :
    (engine.runOn destination sentry.connection (.statement text)).2.Reached
      destination origin arrived := by
  apply hreached.runOn (holds_eq_of_sentry hsentry hpinned) _ hempty
  intro other hother
  rw [Option.some.inj (hsentry.symm.trans hother)]

theorem Settled.runOnSentry
    (hsettled : engine.Settled destination origin arrived) {sentry : Sentry}
    (hsentry : engine.sink.sentry = some sentry) (hpinned : engine.sink.pinned = none)
    (hempty : engine.sink.buffers = []) (text : String) :
    (engine.runOn destination sentry.connection (.statement text)).2.Settled
      destination origin arrived :=
  ⟨hsettled.reached.runOnSentry hsentry hpinned hempty text, hsettled.sound⟩

theorem Settled.runOnce
    (hsettled : engine.Settled destination origin arrived) (hpinned : engine.sink.pinned = none)
    (hempty : engine.sink.buffers = []) (text : String) :
    (engine.runOnce destination text).2.Settled destination origin arrived := by
  apply Settled.counted
  split
  next sentry hsentry => exact hsettled.runOnSentry hsentry hpinned hempty text
  next hsentry =>
    obtain ⟨⟨outgoing, turn, hleads⟩, hsound⟩ := hsettled
    obtain ⟨hnone, hheld⟩ := ledger_of_free arrived outgoing turn hsentry hpinned
    have hroom := room_of_held_eq_zero hheld destination.maxOpen
    exact ⟨hleads.runOnce_statement hnone hroom hempty text, hsound⟩

/-! ## Transactions -/

/-- A sink that holds nothing binds itself to a connection that was just checked out. -/
theorem bindTo_leadsTo
    {outgoing : List Insert} {turn : ℕ} {connection : Connection}
    (hleads : Line.LeadsTo destination origin
      ((engine.sink.ledger arrived outgoing turn).after (.acquired connection)) engine.line)
    (hsentry : engine.sink.sentry = none) (hpinned : engine.sink.pinned = none)
    (hempty : engine.sink.buffers = []) :
    (engine.bindTo connection).Reached destination origin arrived := by
  have hheld : ((engine.sink.ledger arrived outgoing turn).after (.acquired connection)).held =
      {connection} := by
    simp [Ledger.after, (ledger_of_free arrived outgoing turn hsentry hpinned).2]
  have hbound := hleads.note (.bound connection) trivial
    ⟨by simp [Ledger.after, Sink.ledger, hsentry], hempty, hheld⟩
  refine ⟨[], turn + 1, ?_⟩
  have hledger : (engine.bindTo connection).sink.ledger arrived [] (turn + 1) =
      ((engine.sink.ledger arrived outgoing turn).after (.acquired connection)).after
        (.bound connection) := by
    simp [bindTo, Sink.ledger, Sink.holds, Ledger.after, hsentry, hpinned]
  rw [hledger]
  exact hbound

theorem Reached.unbind
    (hreached : engine.Reached destination origin arrived) {sentry : Sentry}
    (hsentry : engine.sink.sentry = some sentry) (hpinned : engine.sink.pinned = none)
    (hempty : engine.sink.buffers = []) :
    ∃ turn, Line.LeadsTo destination origin ⟨arrived, [], [], none, turn, {sentry.connection}⟩
      engine.unbind.line := by
  obtain ⟨outgoing, turn, hleads⟩ := hreached
  have hunbound := hleads.note .unbound trivial
    ⟨by simp [Sink.ledger, hsentry], hempty⟩
  refine ⟨turn + 1, ?_⟩
  simpa [Ledger.after, Sink.ledger, holds_eq_of_sentry hsentry hpinned, hempty] using hunbound

theorem release_leadsTo
    {line : Line σ} {outgoing : List Insert} {turn : ℕ} {connection : Connection}
    (hleads : Line.LeadsTo destination origin
      ⟨arrived, [], outgoing, none, turn, {connection}⟩ line) :
    Line.LeadsTo destination origin ⟨arrived, [], outgoing, none, turn, 0⟩
      (line.release destination connection) := by
  have hreleased := hleads.release rfl (Multiset.mem_singleton_self connection)
  simpa [Ledger.after] using hreleased

/-- The transaction has ended, and its connection is all that is still checked out. -/
structure Parting (destination : Destination σ) (origin : Line σ) (arrived : List Insert)
    (connection : Connection) (engine : Engine σ) : Prop where
  reached : ∃ outgoing turn,
    Line.LeadsTo destination origin ⟨arrived, [], outgoing, none, turn, {connection}⟩ engine.line
  buffers : engine.sink.buffers = []
  sentry : engine.sink.sentry = none
  deferred : engine.sink.deferred = []
  pinned : engine.sink.pinned = none

theorem Parting.counted
    {connection : Connection} (hparting : engine.Parting destination origin arrived connection)
    (outcome : Outcome) :
    (counted (outcome, engine)).2.Parting destination origin arrived connection := by
  apply andThen_snd (Parting destination origin arrived connection) hparting
  intro state heq
  rw [← (Prod.mk.inj heq).2]
  exact ⟨hparting.reached, hparting.buffers, hparting.sentry, hparting.deferred,
    hparting.pinned⟩

theorem Reached.parting
    (hreached : engine.Reached destination origin arrived) {sentry : Sentry}
    (hsentry : engine.sink.sentry = some sentry) (hpinned : engine.sink.pinned = none)
    (hempty : engine.sink.buffers = []) (hdeferred : engine.sink.deferred = []) :
    engine.unbind.Parting destination origin arrived sentry.connection := by
  obtain ⟨turn, hleads⟩ := hreached.unbind hsentry hpinned hempty
  exact ⟨⟨[], turn, hleads⟩, hempty, rfl, hdeferred, hpinned⟩

theorem Parting.replay
    {connection : Connection} (hparting : engine.Parting destination origin arrived connection)
    (hmany : 2 ≤ destination.maxOpen) (deferred : List String) :
    (engine.replay destination deferred).2.Parting destination origin arrived connection := by
  unfold Engine.replay
  split
  · exact hparting
  · obtain ⟨⟨outgoing, turn, hleads⟩, hbuffers, hsentry, hdeferred, hpinned⟩ := hparting
    have hroom : ({connection} : Multiset Connection).card + (destination.maxOpen - 1) ≤
        max 1 destination.maxOpen := by
      rw [Multiset.card_singleton]
      omega
    have hrun := (hleads.report .debug ("Replaying " ++ toString deferred.length ++
      " session statements after transaction end")).runOnMany rfl rfl hroom deferred
    exact ⟨hrun, hbuffers, hsentry, hdeferred, hpinned⟩

theorem Parting.release
    {connection : Connection} (hparting : engine.Parting destination origin arrived connection)
    (hmany : 2 ≤ destination.maxOpen) :
    (engine.release destination connection).Settled destination origin arrived := by
  obtain ⟨⟨outgoing, turn, hleads⟩, hbuffers, hsentry, hdeferred, hpinned⟩ := hparting
  refine ⟨⟨outgoing, turn, ?_⟩, fun hlimit => ?_, fun _ => ⟨hpinned, ?_⟩, ?_, fun _ => hdeferred⟩
  · simpa [Sink.ledger, Sink.holds, hbuffers, hsentry, hpinned] using release_leadsTo hleads
  · omega
  · rw [sink_release, hbuffers, List.length_nil]
    omega
  · intro other hother
    rw [sink_release, hsentry] at hother
    cases hother

/-- The depth of a transaction is nothing that the journal tells. -/
theorem Reached.withDepth
    (hreached : engine.Reached destination origin arrived) {sentry : Sentry}
    (hsentry : engine.sink.sentry = some sentry) (hmany : 2 ≤ destination.maxOpen)
    (hpinned : engine.sink.pinned = none) (hempty : engine.sink.buffers = [])
    {depth : ℕ} (hdepth : 0 < depth) :
    Settled destination origin arrived
      { engine with sink.sentry := some { sentry with depth } } := by
  obtain ⟨outgoing, turn, hleads⟩ := hreached
  refine ⟨⟨outgoing, turn, ?_⟩, fun hlimit => ?_, fun _ => ⟨hpinned, ?_⟩, ?_, ?_⟩
  · simpa [Sink.ledger, Sink.holds, hsentry] using hleads
  · omega
  · rw [hempty, List.length_nil]
    omega
  · intro other hother
    rw [← Option.some.inj hother]
    exact hdepth
  · intro hnone
    cases hnone

/-- A transaction or a savepoint opens on the sentry, or the sentry of a transaction that does not
open is given up. -/
theorem Reached.beginOn
    (hreached : engine.Reached destination origin arrived) {sentry : Sentry}
    (hsentry : engine.sink.sentry = some sentry) (hmany : 2 ≤ destination.maxOpen)
    (hpinned : engine.sink.pinned = none) (hempty : engine.sink.buffers = [])
    (hdeferred : sentry.depth = 0 → engine.sink.deferred = []) (text : String) :
    (engine.beginOn destination sentry text).2.Settled destination origin arrived := by
  have hrun := hreached.runOnSentry hsentry hpinned hempty text
  unfold Engine.beginOn
  cases hdone : engine.runOn destination sentry.connection (.statement text) with
  | mk outcome next =>
      rw [hdone] at hrun
      have hsink : next.sink = engine.sink := congrArg (fun done => done.2.sink) hdone.symm
      rw [← hsink] at hsentry hpinned hempty hdeferred
      cases outcome with
      | ok => exact (hrun.withDepth hsentry hmany hpinned hempty (Nat.succ_pos _)).withStats _
      | error failure =>
          dsimp only
          split
          next hdepth =>
            -- the connection was taken for a transaction that does not open
            have hparting := hrun.parting hsentry hpinned hempty (hdeferred hdepth)
            exact hparting.release hmany
          next hdepth =>
            have hkept := hrun.withDepth hsentry hmany hpinned hempty (Nat.pos_of_ne_zero hdepth)
            rw [← hsentry] at hkept
            exact hkept

theorem Settled.begin
    (hsettled : engine.Settled destination origin arrived) (hmany : 2 ≤ destination.maxOpen)
    (hempty : engine.sink.buffers = []) (text : String) :
    (engine.begin destination text).2.Settled destination origin arrived := by
  have hpinned := (hsettled.sound.many hmany).1
  unfold Engine.begin
  split
  next sentry hsentry =>
    refine hsettled.reached.beginOn hsentry hmany hpinned hempty ?_ text
    intro hdepth
    exact absurd hdepth (hsettled.sound.depth_pos sentry hsentry).ne'
  next hsentry =>
    obtain ⟨⟨outgoing, turn, hleads⟩, hsound⟩ := hsettled
    obtain ⟨hnone, hheld⟩ := ledger_of_free arrived outgoing turn hsentry hpinned
    have hroom := room_of_held_eq_zero hheld destination.maxOpen
    split
    next connection line hacquire =>
      have hbound : (bindTo { engine with line } connection).Reached destination origin arrived :=
        bindTo_leadsTo (hleads.acquire_ok hnone hroom hacquire) hsentry hpinned hempty
      exact hbound.beginOn rfl hmany hpinned hempty (fun _ => hsound.deferred hsentry) text
    next failure line hacquire =>
      exact ⟨⟨outgoing, turn, hleads.acquire_error hnone hroom hacquire⟩, hsound⟩

/-- The end of a transaction gives its connection back, after deferred statements have run on all
others; the end of a savepoint keeps it. -/
theorem Settled.endOn
    (hsettled : engine.Settled destination origin arrived) {sentry : Sentry}
    (hsentry : engine.sink.sentry = some sentry) (hmany : 2 ≤ destination.maxOpen)
    (hempty : engine.sink.buffers = []) (text : String) :
    (engine.endOn destination sentry text).2.Settled destination origin arrived := by
  have hpinned := (hsettled.sound.many hmany).1
  have hrun := hsettled.runOnSentry hsentry hpinned hempty text
  unfold Engine.endOn
  cases hdone : engine.runOn destination sentry.connection (.statement text) with
  | mk outcome next =>
      rw [hdone] at hrun
      have hsink : next.sink = engine.sink := congrArg (fun done => done.2.sink) hdone.symm
      rw [← hsink] at hsentry hpinned hempty
      dsimp only
      split
      next hdepth =>
        apply Settled.counted
        exact hrun.reached.withDepth hsentry hmany hpinned hempty hdepth
      next hdepth =>
        -- the replay comes before the return, while the connection is still checked out
        have hcleared : Reached destination origin arrived { next with sink.deferred := [] } :=
          hrun.reached
        have hparting := hcleared.parting hsentry hpinned hempty rfl
        have hreplayed : (andThen
            (Engine.counted (outcome, Engine.unbind { next with sink.deferred := [] }))
            fun engine => engine.replay destination next.sink.deferred).2.Parting
              destination origin arrived sentry.connection := by
          apply andThen_snd (Parting destination origin arrived sentry.connection)
          · exact hparting.counted outcome
          · intro state heq
            have hstate := hparting.counted outcome
            rw [heq] at hstate
            exact hstate.replay hmany _
        exact hreplayed.release hmany

theorem Settled.finish
    (hsettled : engine.Settled destination origin arrived) (hmany : 2 ≤ destination.maxOpen)
    (hempty : engine.sink.buffers = []) (text : String) :
    (engine.finish destination text).2.Settled destination origin arrived := by
  unfold Engine.finish
  split
  next sentry hsentry => exact hsettled.endOn hsentry hmany hempty text
  next hsentry =>
    exact (hsettled.report _ _).runOnce (hsettled.sound.many hmany).1 hempty text

/-! ## Session statements and rows -/

theorem Settled.broadcast
    (hsettled : engine.Settled destination origin arrived) (hmany : 2 ≤ destination.maxOpen)
    (hempty : engine.sink.buffers = []) (text : String) :
    (engine.broadcast destination text).2.Settled destination origin arrived := by
  have hpinned := (hsettled.sound.many hmany).1
  apply Settled.counted
  split
  next sentry hsentry =>
    have hrun := hsettled.runOnSentry hsentry hpinned hempty text
    apply andThen_snd (Settled destination origin arrived) hrun
    intro state heq
    have hsink : state.sink = engine.sink := congrArg (fun done => done.2.sink) heq.symm
    rw [heq] at hrun
    obtain ⟨hreached, hsound⟩ := hrun
    refine ⟨hreached, hsound.single, hsound.many, hsound.depth_pos, ?_⟩
    intro hnone
    rw [hsink, hsentry] at hnone
    cases hnone
  next hsentry =>
    obtain ⟨⟨outgoing, turn, hleads⟩, hsound⟩ := hsettled
    obtain ⟨hnone, hheld⟩ := ledger_of_free arrived outgoing turn hsentry hpinned
    have hroom : (engine.sink.ledger arrived outgoing turn).held.card + destination.maxOpen ≤
        max 1 destination.maxOpen := by
      rw [hheld, Multiset.card_zero]
      omega
    exact ⟨hleads.runOnMany hnone hempty hroom [text], hsound⟩

theorem Settled.buffer
    (hsettled : engine.Settled destination origin arrived) (hmany : 2 ≤ destination.maxOpen)
    (insert : Insert) :
    (engine.buffer destination insert).2.Settled destination origin (arrived ++ [insert]) := by
  obtain ⟨⟨outgoing, turn, hleads⟩, hsound⟩ := hsettled
  obtain ⟨hpinned, hfew⟩ := hsound.many hmany
  have hreached : (note { engine with sink := engine.sink.addInsert insert }
      (.buffered insert)).Reached destination origin (arrived ++ [insert]) :=
    ⟨outgoing, turn, hleads.note (.buffered insert) trivial trivial⟩
  have hlength := Sink.length_addRows_le insert engine.sink.buffers
  unfold Engine.buffer
  dsimp only
  split
  next hfull =>
    have hroom : (Sink.addRows insert engine.sink.buffers).length ≤
        max 1 destination.maxOpen := by omega
    have hflushed := flushedFrom_flush destination (note { engine with
      sink := engine.sink.addInsert insert } (.buffered insert))
    refine ⟨hreached.flush fun _ => ⟨hpinned, hroom⟩, fun hlimit => by omega,
      fun _ => ⟨hflushed.pinned.trans hpinned, ?_⟩, ?_, ?_⟩
    · rw [hflushed.buffers, List.length_nil]
      omega
    · intro sentry hsentry
      exact hsound.depth_pos sentry (hflushed.sentry.symm.trans hsentry)
    · intro hsentry
      exact hflushed.deferred.trans (hsound.deferred (hflushed.sentry.symm.trans hsentry))
  next hroom =>
    simp only [ge_iff_le, Bool.or_eq_true, decide_eq_true_eq, not_or, not_le] at hroom
    exact ⟨hreached, fun hlimit => by omega, fun _ => ⟨hpinned, hroom.2⟩,
      hsound.depth_pos, hsound.deferred⟩

/-- A statement that is no insert for the buffers keeps the engine settled behind its flush. -/
theorem Settled.deliver
    (hsettled : engine.Settled destination origin arrived) (hmany : 2 ≤ destination.maxOpen)
    (hempty : engine.sink.buffers = []) (statementClass : StatementClass) (text : String) :
    (engine.deliver destination statementClass text).2.Settled destination origin arrived := by
  have hpinned := (hsettled.sound.many hmany).1
  unfold Engine.deliver
  split
  · exact hsettled
  · exact hsettled.begin hmany hempty text
  · exact hsettled.finish hmany hempty text
  · exact hsettled.broadcast hmany hempty text
  all_goals exact hsettled.runOnce hpinned hempty text

/-! ## A destination of one connection -/

theorem Settled.runPinned
    (hsettled : engine.Settled destination origin arrived) (hsingle : destination.maxOpen ≤ 1)
    (text : String) : (engine.runPinned destination text).2.Settled destination origin arrived := by
  obtain ⟨hempty, hsentry⟩ := hsettled.sound.single hsingle
  have hnobody : ∀ connection : Connection, ∀ sentry,
      engine.sink.sentry = some sentry → sentry.connection = connection := by
    intro connection sentry hsome
    rw [hsentry] at hsome
    cases hsome
  unfold Engine.runPinned
  split
  next connection hpinned =>
    have hholds : engine.sink.holds = [connection] := by simp [Sink.holds, hsentry, hpinned]
    apply Settled.counted
    exact ⟨hsettled.reached.runOn hholds (hnobody connection) hempty text, hsettled.sound⟩
  next hpinned =>
    obtain ⟨⟨outgoing, turn, hleads⟩, hsound⟩ := hsettled
    obtain ⟨hnone, hheld⟩ := ledger_of_free arrived outgoing turn hsentry hpinned
    have hroom := room_of_held_eq_zero hheld destination.maxOpen
    split
    next connection line hacquire =>
      apply Settled.counted
      have hacquired := hleads.acquire_ok hnone hroom hacquire
      have hreached : Reached destination origin arrived
          { engine with line, sink.pinned := some connection } := by
        refine ⟨outgoing, turn, ?_⟩
        simpa [Ledger.after, Sink.ledger, Sink.holds, hsentry, hpinned] using hacquired
      have hholds : ({ engine.sink with pinned := some connection } : Sink).holds =
          [connection] := by
        simp [Sink.holds, hsentry]
      exact ⟨hreached.runOn hholds (hnobody connection) hempty text, hsound.single,
        fun hlimit => by omega, hsound.depth_pos, hsound.deferred⟩
    next failure line hacquire =>
      exact ⟨⟨outgoing, turn, hleads.acquire_error hnone hroom hacquire⟩, hsound⟩

/-- Whatever becomes of a statement, it leads from a settled engine to a settled one, and its rows
have arrived if it is an insert for the buffers. -/
theorem Settled.exec (hsettled : engine.Settled destination origin arrived) (text : String) :
    (engine.exec destination text).2.Settled destination origin
      (arrived ++ destination.arrival text) := by
  have hreported := hsettled.reportAll (Classify.parse destination.dialect text).2
  rw [exec_eq, Destination.arrival]
  cases hrole : Classify.roleOf destination.dialect text with
  | refused failure => simpa [Role.insert?] using hreported
  | skipped => simpa [Role.insert?] using hreported.skip text
  | rows insert =>
      dsimp only
      split
      next hsingle => simpa using hreported.runPinned hsingle text
      next hmany => exact hreported.buffer (by omega) insert
  | barrier statementClass =>
      dsimp only
      split
      next hsingle => simpa [hsingle] using hreported.runPinned hsingle text
      next hmany =>
        have hnone : (Role.barrier statementClass).insert?.toList = [] := rfl
        rw [hnone, List.append_nil]
        apply hreported.flushed
        intro later hlater hempty
        exact hlater.deliver (by omega) hempty statementClass text

end Engine

end SqlPipe
