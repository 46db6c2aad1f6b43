import SqlPipe.Proofs.Journal.Ledger
import Mathlib.Data.List.Perm.Subperm
import Mathlib.Logic.Relation

/-!
# Orderly steps of a line

Everything that happens on a line, one action at a time, under the rules of order of its journal.
Each operation of a line is a chain of such steps; the lemmas below say for each of them which
ledger it needs and which ledger it leaves.  What holds of a line in all runs is then an induction
on the steps and need not look at the operations again.
-/

namespace SqlPipe

/-- The action is one of the engine alone, which the destination has no part in. -/
def Action.Inner : Action → Prop
  | .acquired _ | .sent _ _ | .released _ | .closed => False
  | .started _ | .buffered _ | .emptied | .bound _ | .unbound | .reported _ => True

namespace Line

variable {σ : Type} {destination : Destination σ} {origin line later : Line σ} {ledger : Ledger}

/-- One orderly step of a line. -/
inductive Step (destination : Destination σ) : Line σ → Line σ → Prop
  | acquired {line : Line σ} {connection : Connection} {world : σ}
      (hacquire : destination.acquire line.world = (.ok connection, world))
      (hallowed : line.journal.ledger.Allows destination.maxOpen (.acquired connection)) :
      Step destination line ({ line with world }.note (.acquired connection))
  | refused {line : Line σ} {failure : Failure} {world : σ}
      (hacquire : destination.acquire line.world = (.error failure, world))
      (hallowed : ∀ connection,
        line.journal.ledger.Allows destination.maxOpen (.acquired connection)) :
      Step destination line { line with world }
  | sent {line : Line σ} {connection : Connection} {message : Message}
      (hallowed :
        line.journal.ledger.Allows destination.maxOpen (.sent connection message)) :
      Step destination line
        ({ line with
          world := (destination.execute connection message.text line.world).2 }.note
            (.sent connection message))
  | released {line : Line σ} {connection : Connection}
      (hallowed : line.journal.ledger.Allows destination.maxOpen (.released connection)) :
      Step destination line (line.release destination connection)
  | inner {line : Line σ} {action : Action} (hinner : action.Inner)
      (hallowed : line.journal.ledger.Allows destination.maxOpen action) :
      Step destination line (line.note action)

/-- The line was reached by orderly steps, and its journal tells the ledger. -/
structure LeadsTo (destination : Destination σ) (origin : Line σ) (ledger : Ledger)
    (line : Line σ) : Prop where
  steps : Relation.ReflTransGen (Step destination) origin line
  ledger_eq : line.journal.ledger = ledger

/-- The line was reached by orderly steps, in any number of turns. -/
def Stays (destination : Destination σ) (origin : Line σ) (ledger : Ledger)
    (line : Line σ) : Prop :=
  ∃ outgoing turn, LeadsTo destination origin (ledger.onward outgoing turn) line

theorem LeadsTo.stays (hleads : LeadsTo destination origin ledger line) :
    Stays destination origin ledger line :=
  ⟨ledger.outgoing, ledger.turn, hleads⟩

/-! ## What every chain of steps keeps -/

theorem Step.orderly
    (hstep : Step destination line later)
    (horderly : line.journal.Orderly destination.maxOpen) :
    later.journal.Orderly destination.maxOpen := by
  cases hstep with
  | acquired _ hallowed => exact ⟨hallowed, horderly⟩
  | refused => exact horderly
  | sent hallowed => exact ⟨hallowed, horderly⟩
  | released hallowed => exact ⟨hallowed, horderly⟩
  | inner _ hallowed => exact ⟨hallowed, horderly⟩

theorem orderly_of_steps
    (hsteps : Relation.ReflTransGen (Step destination) origin line)
    (horderly : origin.journal.Orderly destination.maxOpen) :
    line.journal.Orderly destination.maxOpen := by
  induction hsteps with
  | refl => exact horderly
  | tail _ hstep ih => exact hstep.orderly ih

theorem Step.suffix (hstep : Step destination line later) :
    line.journal <:+ later.journal := by
  cases hstep with
  | refused => exact List.suffix_refl _
  | _ => exact List.suffix_cons _ _

theorem suffix_of_steps
    (hsteps : Relation.ReflTransGen (Step destination) origin line) :
    origin.journal <:+ line.journal := by
  induction hsteps with
  | refl => exact List.suffix_refl _
  | tail _ hstep ih => exact ih.trans hstep.suffix

/-! ## Single actions -/

theorem LeadsTo.note
    (hleads : LeadsTo destination origin ledger line)
    (action : Action) (hinner : action.Inner)
    (hallowed : ledger.Allows destination.maxOpen action) :
    LeadsTo destination origin (ledger.after action) (line.note action) := by
  obtain ⟨hsteps, rfl⟩ := hleads
  exact ⟨hsteps.tail (.inner hinner hallowed), rfl⟩

theorem LeadsTo.report
    (hleads : LeadsTo destination origin ledger line) (level : Level) (message : String) :
    LeadsTo destination origin ledger (line.report level message) :=
  hleads.note (.reported ⟨level, message⟩) trivial trivial

theorem LeadsTo.start
    (hleads : LeadsTo destination origin ledger line)
    {connection : Connection} (hserves : ledger.Serves connection) :
    LeadsTo destination origin ledger (line.start connection) :=
  hleads.note (.started connection) trivial hserves

theorem LeadsTo.acquire_ok
    (hleads : LeadsTo destination origin ledger line)
    (hsentry : ledger.sentry = none)
    (hroom : ledger.held.card < max 1 destination.maxOpen)
    {connection : Connection}
    (hacquire : line.acquire destination = (.ok connection, later)) :
    LeadsTo destination origin (ledger.after (.acquired connection)) later := by
  obtain ⟨hsteps, rfl⟩ := hleads
  unfold acquire at hacquire
  split at hacquire
  next connection' world hworld =>
    obtain ⟨hconnection, rfl⟩ := Prod.mk.inj hacquire
    obtain rfl := Except.ok.inj hconnection
    exact ⟨hsteps.tail (.acquired hworld ⟨hsentry, hroom⟩), rfl⟩
  next => simp at hacquire

theorem LeadsTo.acquire_error
    (hleads : LeadsTo destination origin ledger line)
    (hsentry : ledger.sentry = none)
    (hroom : ledger.held.card < max 1 destination.maxOpen)
    {failure : Failure} (hacquire : line.acquire destination = (.error failure, later)) :
    LeadsTo destination origin ledger later := by
  obtain ⟨hsteps, rfl⟩ := hleads
  unfold acquire at hacquire
  split at hacquire
  next => simp at hacquire
  next failure' world hworld =>
    obtain ⟨-, rfl⟩ := Prod.mk.inj hacquire
    exact ⟨hsteps.tail (.refused hworld fun _ => ⟨hsentry, hroom⟩), rfl⟩

theorem LeadsTo.release
    (hleads : LeadsTo destination origin ledger line)
    (hsentry : ledger.sentry = none)
    {connection : Connection} (hheld : connection ∈ ledger.held) :
    LeadsTo destination origin (ledger.after (.released connection))
      (line.release destination connection) := by
  obtain ⟨hsteps, rfl⟩ := hleads
  exact ⟨hsteps.tail (.released ⟨hsentry, hheld⟩), rfl⟩

theorem LeadsTo.judge
    (hleads : LeadsTo destination origin ledger line)
    (dialect : Dialect) (text : String) (outcome : Outcome) :
    LeadsTo destination origin ledger (judge dialect text line outcome).2 := by
  unfold Line.judge
  split
  · exact hleads.report _ _
  · split
    · exact hleads.report _ _
    · exact hleads

/-! ## Messages on a connection at hand -/

theorem LeadsTo.finish
    (hleads : LeadsTo destination origin ledger line)
    {connection : Connection} (message : Message)
    (hallowed : ledger.Allows destination.maxOpen (.sent connection message)) :
    LeadsTo destination origin (ledger.after (.sent connection message))
      (line.finish destination connection message).2 := by
  obtain ⟨hsteps, rfl⟩ := hleads
  have hsent := hsteps.tail (.sent hallowed)
  exact LeadsTo.judge ⟨hsent, rfl⟩ _ _ _

theorem LeadsTo.run
    (hleads : LeadsTo destination origin ledger line)
    {connection : Connection} (message : Message)
    (hallowed : ledger.Allows destination.maxOpen (.sent connection message)) :
    LeadsTo destination origin (ledger.after (.sent connection message))
      (line.run destination connection message).2 :=
  (hleads.start (Ledger.serves_of_allows_sent hallowed)).finish message hallowed

theorem Stays.run
    (hstays : Stays destination origin ledger line)
    {connection : Connection} (hserves : ledger.Serves connection)
    (hwaiting : ledger.waiting = []) (text : String) :
    Stays destination origin ledger (line.run destination connection (.statement text)).2 := by
  obtain ⟨outgoing, turn, hleads⟩ := hstays
  exact ⟨[], turn + 1, hleads.run (.statement text) ⟨hserves, hwaiting⟩⟩

theorem Stays.runAll
    (hstays : Stays destination origin ledger line)
    {connection : Connection} (hserves : ledger.Serves connection)
    (hwaiting : ledger.waiting = []) (texts : List String) :
    Stays destination origin ledger (line.runAll destination connection texts).2 := by
  induction texts generalizing line with
  | nil => exact hstays
  | cons text others ih =>
      have hrun := hstays.run hserves hwaiting text
      simp only [Line.runAll]
      cases hdone : line.run destination connection (.statement text) with
      | mk outcome next =>
          rw [hdone] at hrun
          cases outcome with
          | ok => exact ih hrun
          | error => exact hrun

/-! ## Messages on a connection checked out for them -/

/-- A message on a connection of its own is sent there, or not at all. -/
theorem LeadsTo.runOnce
    (hleads : LeadsTo destination origin ledger line)
    (hsentry : ledger.sentry = none)
    (hroom : ledger.held.card < max 1 destination.maxOpen)
    (message : Message)
    (hallowed : ∀ connection,
      (ledger.after (.acquired connection)).Allows destination.maxOpen
        (.sent connection message)) :
    LeadsTo destination origin ledger (line.runOnce destination message).2 ∨
      ∃ connection,
        LeadsTo destination origin
          (((ledger.after (.acquired connection)).after (.sent connection message)).after
            (.released connection))
          (line.runOnce destination message).2 := by
  unfold Line.runOnce
  split
  next failure next hacquire =>
    exact Or.inl (hleads.acquire_error hsentry hroom hacquire)
  next connection next hacquire =>
    have hrun := (hleads.acquire_ok hsentry hroom hacquire).run message (hallowed connection)
    refine Or.inr ⟨connection, hrun.release ?_ ?_⟩
    · cases message <;> exact hsentry
    · cases message <;> exact Multiset.mem_cons_self _ _

theorem serves_acquired
    (hsentry : ledger.sentry = none) (connection : Connection) :
    (ledger.after (.acquired connection)).Serves connection := by
  refine ⟨Multiset.mem_cons_self _ _, ?_⟩
  intro sentry hsome
  have hnone : (ledger.after (.acquired connection)).sentry = none := hsentry
  rw [hnone] at hsome
  cases hsome

theorem LeadsTo.runOnce_statement
    (hleads : LeadsTo destination origin ledger line)
    (hsentry : ledger.sentry = none)
    (hroom : ledger.held.card < max 1 destination.maxOpen)
    (hwaiting : ledger.waiting = []) (text : String) :
    Stays destination origin ledger
      (line.runOnce destination (.statement text)).2 := by
  rcases hleads.runOnce hsentry hroom (.statement text)
      (fun connection => ⟨serves_acquired hsentry connection, hwaiting⟩) with
    hunsent | ⟨connection, hsent⟩
  · exact hunsent.stays
  · refine ⟨[], ledger.turn + 1, ?_⟩
    simpa [Ledger.after, Ledger.onward] using hsent

theorem LeadsTo.runOnce_batch
    (hleads : LeadsTo destination origin ledger line)
    (hsentry : ledger.sentry = none)
    (hroom : ledger.held.card < max 1 destination.maxOpen)
    {batch : Insert} (hbatch : batch ∈ ledger.outgoing) :
    LeadsTo destination origin ledger (line.runOnce destination (.batch batch)).2 ∨
      LeadsTo destination origin (ledger.sending (ledger.outgoing.erase batch))
        (line.runOnce destination (.batch batch)).2 := by
  rcases hleads.runOnce hsentry hroom (.batch batch)
      (fun connection => ⟨serves_acquired hsentry connection, hbatch⟩) with
    hunsent | ⟨connection, hsent⟩
  · exact Or.inl hunsent
  · right
    simpa [Ledger.after, Ledger.sending] using hsent

/-! ## Statements on several connections -/

theorem LeadsTo.releaseAll
    {connections : List Connection} {others : Multiset Connection}
    (hleads : LeadsTo destination origin (ledger.holding (connections + others)) line)
    (hsentry : ledger.sentry = none) :
    LeadsTo destination origin (ledger.holding others)
      (line.releaseAll destination connections) := by
  induction connections generalizing line with
  | nil =>
      rw [Multiset.coe_nil, Multiset.zero_add] at hleads
      exact hleads
  | cons connection connections ih =>
      rw [← Multiset.cons_coe, Multiset.cons_add] at hleads
      have hreleased := hleads.release hsentry (Multiset.mem_cons_self connection _)
      simp only [Ledger.after, Ledger.holding, Multiset.erase_cons_head] at hreleased
      exact ih hreleased

/-- Checking out more connections takes as many as are wanted, or gives all of them back. -/
theorem LeadsTo.acquireMany
    {held : List Connection} {others : Multiset Connection}
    (hleads : LeadsTo destination origin (ledger.holding (held + others)) line)
    (hsentry : ledger.sentry = none) {wanted : ℕ}
    (hroom : held.length + others.card + wanted ≤ max 1 destination.maxOpen) :
    match acquireMany destination held line wanted with
    | (.ok connections, later) =>
        connections.length = held.length + wanted ∧
          LeadsTo destination origin (ledger.holding (connections + others)) later
    | (.error _, later) => LeadsTo destination origin (ledger.holding others) later := by
  induction wanted generalizing held line with
  | zero => exact ⟨rfl, hleads⟩
  | succ wanted ih =>
      have hone : (ledger.holding (held + others)).held.card < max 1 destination.maxOpen := by
        simp only [Ledger.holding, Multiset.card_add, Multiset.coe_card]
        omega
      simp only [Line.acquireMany]
      cases hacquire : line.acquire destination with
      | mk outcome next =>
          cases outcome with
          | error failure =>
              exact (hleads.acquire_error hsentry hone hacquire).releaseAll hsentry
          | ok connection =>
              have hheld : connection ::ₘ ((held : Multiset Connection) + others) =
                  ((held ++ [connection] : List Connection) : Multiset Connection) + others := by
                rw [← Multiset.coe_add, Multiset.coe_singleton, Multiset.add_assoc,
                  Multiset.singleton_add, Multiset.add_cons]
              have hacquired : LeadsTo destination origin
                  (ledger.holding (connection ::ₘ ((held : Multiset Connection) + others)))
                  next :=
                hleads.acquire_ok hsentry hone hacquire
              rw [hheld] at hacquired
              have hmore := ih hacquired (by
                simp only [List.length_append, List.length_singleton]
                omega)
              simpa only [List.length_append, List.length_singleton, Nat.add_assoc,
                Nat.add_comm 1] using hmore

theorem Stays.runInTurn
    (hstays : Stays destination origin ledger line)
    {connections : List Connection} (hserves : ∀ connection ∈ connections, ledger.Serves connection)
    (hwaiting : ledger.waiting = []) (texts : List String) :
    Stays destination origin ledger (runInTurn destination texts line connections).2 := by
  induction connections generalizing line with
  | nil => exact hstays
  | cons connection others ih =>
      have hrun := hstays.runAll (hserves connection (by simp)) hwaiting texts
      exact ih hrun fun other hother => hserves other (by simp [hother])

theorem map_connection_finishEach (text : String) (more : Bool) (lanes : List Lane) :
    (finishEach destination text more line lanes).1.map Lane.connection =
      lanes.map Lane.connection := by
  induction lanes generalizing line with
  | nil => rfl
  | cons lane others ih =>
      simp only [Line.finishEach]
      split <;> exact congrArg (lane.connection :: ·) ih

theorem Stays.finishEach
    (hstays : Stays destination origin ledger line)
    {lanes : List Lane} (hserves : ∀ lane ∈ lanes, ledger.Serves lane.connection)
    (hwaiting : ledger.waiting = []) (text : String) (more : Bool) :
    Stays destination origin ledger (finishEach destination text more line lanes).2 := by
  induction lanes generalizing line with
  | nil => exact hstays
  | cons lane others ih =>
      have hlane := hserves lane (by simp)
      have hothers : ∀ other ∈ others, ledger.Serves other.connection :=
        fun other hother => hserves other (by simp [hother])
      simp only [Line.finishEach]
      cases lane.outcome with
      | error failure => exact ih hstays hothers
      | ok =>
          obtain ⟨outgoing, turn, hleads⟩ := hstays
          have hsent := hleads.finish (.statement text) ⟨hlane, hwaiting⟩
          refine ih ?_ hothers
          split
          · exact ⟨[], turn + 1, hsent.start hlane⟩
          · exact ⟨[], turn + 1, hsent⟩

theorem Stays.runInStep
    (hstays : Stays destination origin ledger line)
    {lanes : List Lane} (hserves : ∀ lane ∈ lanes, ledger.Serves lane.connection)
    (hwaiting : ledger.waiting = []) (texts : List String) :
    Stays destination origin ledger (runInStep destination lanes line texts).2 := by
  induction texts generalizing line lanes with
  | nil => exact hstays
  | cons text others ih =>
      apply ih (hstays.finishEach hserves hwaiting text (!others.isEmpty))
      intro lane hlane
      have hmem : lane.connection ∈ lanes.map Lane.connection := by
        rw [← map_connection_finishEach text (!others.isEmpty) lanes]
        exact List.mem_map_of_mem hlane
      obtain ⟨first, hfirst, heq⟩ := List.mem_map.mp hmem
      exact heq ▸ hserves first hfirst

theorem LeadsTo.startEach
    (hleads : LeadsTo destination origin ledger line)
    {connections : List Connection}
    (hserves : ∀ connection ∈ connections, ledger.Serves connection) :
    LeadsTo destination origin ledger (connections.foldl Line.start line) := by
  induction connections generalizing line with
  | nil => exact hleads
  | cons connection others ih =>
      exact ih (hleads.start (hserves connection (by simp)))
        fun other hother => hserves other (by simp [hother])

theorem LeadsTo.runOnHeld
    (hleads : LeadsTo destination origin ledger line)
    {connections : List Connection}
    (hserves : ∀ connection ∈ connections, ledger.Serves connection)
    (hwaiting : ledger.waiting = []) (texts : List String) :
    Stays destination origin ledger (runOnHeld destination texts line connections).2 := by
  unfold Line.runOnHeld
  split
  · apply (hleads.startEach hserves).stays.runInStep _ hwaiting
    intro lane hlane
    obtain ⟨connection, hmem, rfl⟩ := List.mem_map.mp hlane
    exact hserves connection hmem
  · exact hleads.stays.runInTurn hserves hwaiting texts

/-- Statements on connections that were checked out for them, all of which are given back. -/
theorem LeadsTo.runOnHeld_releaseAll
    {connections : List Connection} {others : Multiset Connection}
    (hleads : LeadsTo destination origin (ledger.holding (connections + others)) line)
    (hsentry : ledger.sentry = none) (hwaiting : ledger.waiting = []) (texts : List String) :
    Stays destination origin (ledger.holding others)
      ((Line.runOnHeld destination texts line connections).2.releaseAll destination
        connections) := by
  have hserves : ∀ connection ∈ connections,
      (ledger.holding (connections + others)).Serves connection := by
    intro connection hmem
    refine ⟨Multiset.mem_add.mpr (Or.inl hmem), ?_⟩
    intro sentry hsome
    rw [Ledger.holding, hsentry] at hsome
    cases hsome
  obtain ⟨outgoing, turn, hrun⟩ := hleads.runOnHeld hserves hwaiting texts
  have hrest : LeadsTo destination origin
      ((ledger.onward outgoing turn).holding (connections + others)) _ := hrun
  exact ⟨outgoing, turn, hrest.releaseAll hsentry⟩

theorem LeadsTo.acquireMany_nil
    (hleads : LeadsTo destination origin ledger line)
    (hsentry : ledger.sentry = none) {wanted : ℕ}
    (hroom : ledger.held.card + wanted ≤ max 1 destination.maxOpen) :
    match Line.acquireMany destination [] line wanted with
    | (.ok connections, later) =>
        connections.length = wanted ∧
          LeadsTo destination origin (ledger.holding (connections + ledger.held)) later
    | (.error _, later) => LeadsTo destination origin ledger later := by
  have hnone : LeadsTo destination origin
      (ledger.holding (([] : List Connection) + ledger.held)) line := by
    rw [Multiset.coe_nil, Multiset.zero_add]
    exact hleads
  have hroom' : ([] : List Connection).length + ledger.held.card + wanted ≤
      max 1 destination.maxOpen := by simpa using hroom
  simpa using hnone.acquireMany hsentry hroom'

/-- While nothing waits and no transaction is open, statements run on several connections, all of
which are given back. -/
theorem LeadsTo.runOnMany
    (hleads : LeadsTo destination origin ledger line)
    (hsentry : ledger.sentry = none) (hwaiting : ledger.waiting = []) {wanted : ℕ}
    (hroom : ledger.held.card + wanted ≤ max 1 destination.maxOpen) (texts : List String) :
    Stays destination origin ledger (line.runOnMany destination texts wanted).2 := by
  have hacquired := hleads.acquireMany_nil hsentry hroom
  unfold Line.runOnMany
  cases hdone : Line.acquireMany destination [] line wanted with
  | mk outcome next =>
      rw [hdone] at hacquired
      cases outcome with
      | error failure => exact LeadsTo.stays hacquired
      | ok connections => exact hacquired.2.runOnHeld_releaseAll hsentry hwaiting texts

/-! ## Batches -/

theorem LeadsTo.runEach
    (hleads : LeadsTo destination origin ledger line)
    (hsentry : ledger.sentry = none)
    (hroom : ledger.held.card < max 1 destination.maxOpen)
    {batches : List Insert} (hbatches : batches.Subperm ledger.outgoing) :
    ∃ unsent, LeadsTo destination origin (ledger.sending unsent)
      (line.runEach destination batches).2 := by
  induction batches generalizing line ledger with
  | nil => exact ⟨ledger.outgoing, hleads⟩
  | cons batch others ih =>
      have hbatch : batch ∈ ledger.outgoing := hbatches.subset (by simp)
      rcases hleads.runOnce_batch hsentry hroom hbatch with hunsent | hsent
      · have hothers : others.Subperm ledger.outgoing :=
          (List.sublist_cons_self batch others).subperm.trans hbatches
        exact ih hunsent hsentry hroom hothers
      · have hothers : others.Subperm (ledger.outgoing.erase batch) := by
          have herased := hbatches.erase batch
          rwa [List.erase_cons_head] at herased
        obtain ⟨unsent, hdone⟩ := ih hsent hsentry hroom hothers
        exact ⟨unsent, hdone⟩

/-- Of the batches some are started, in their order, each on a connection of its own. -/
theorem LeadsTo.startBatches
    (hleads : LeadsTo destination origin ledger line)
    (hsentry : ledger.sentry = none) {batches : List Insert}
    (hroom : ledger.held.card + batches.length ≤ max 1 destination.maxOpen) :
    let (_, started, later) := line.startBatches destination batches
    (started.map Prod.snd).Sublist batches ∧
      LeadsTo destination origin
        (ledger.holding ((started.map Prod.fst : List Connection) + ledger.held)) later := by
  induction batches generalizing line ledger with
  | nil => exact ⟨List.Sublist.refl _, by simpa [Line.startBatches, Ledger.holding] using hleads⟩
  | cons batch others ih =>
      simp only [List.length_cons] at hroom
      simp only [Line.startBatches]
      cases hacquire : line.acquire destination with
      | mk outcome next =>
          cases outcome with
          | error failure =>
              obtain ⟨hsub, hdone⟩ :=
                ih (hleads.acquire_error hsentry (by omega) hacquire) hsentry (by omega)
              exact ⟨hsub.cons batch, hdone⟩
          | ok connection =>
              have hacquired := hleads.acquire_ok hsentry (by omega) hacquire
              have hstarted := hacquired.start (serves_acquired hsentry connection)
              obtain ⟨hsub, hdone⟩ := ih hstarted hsentry (by
                simp only [Ledger.after, Multiset.card_cons]
                omega)
              refine ⟨hsub.cons_cons batch, ?_⟩
              simpa [Ledger.after, Ledger.holding, ← Multiset.cons_coe] using hdone

theorem LeadsTo.finishBatches
    {others : Multiset Connection} {started : List (Connection × Insert)}
    (hleads : LeadsTo destination origin
      (ledger.holding ((started.map Prod.fst : List Connection) + others)) line)
    (hsentry : ledger.sentry = none)
    (hbatches : (started.map Prod.snd).Subperm ledger.outgoing) :
    ∃ unsent, LeadsTo destination origin ((ledger.sending unsent).holding others)
      (line.finishBatches destination started).2 := by
  induction started generalizing line ledger with
  | nil =>
      rw [List.map_nil, Multiset.coe_nil, Multiset.zero_add] at hleads
      exact ⟨ledger.outgoing, hleads⟩
  | cons first started ih =>
      obtain ⟨connection, batch⟩ := first
      rw [List.map_cons, ← Multiset.cons_coe, Multiset.cons_add] at hleads
      have hbatch : batch ∈ ledger.outgoing := hbatches.subset (by simp)
      have hsent := hleads.finish (.batch batch)
        ⟨⟨Multiset.mem_cons_self _ _, by simp [Ledger.holding, hsentry]⟩, hbatch⟩
      have hreleased := hsent.release hsentry (Multiset.mem_cons_self connection _)
      have hothers : (started.map Prod.snd).Subperm (ledger.outgoing.erase batch) := by
        have herased := hbatches.erase batch
        rwa [List.map_cons, List.erase_cons_head] at herased
      simp only [Ledger.after, Ledger.holding, Multiset.erase_cons_head] at hreleased
      have hleft : LeadsTo destination origin
          ((ledger.sending (ledger.outgoing.erase batch)).holding
            ((started.map Prod.fst : List Connection) + others)) _ := hreleased
      obtain ⟨unsent, hdone⟩ := ih hleft hsentry hothers
      exact ⟨unsent, hdone⟩

/-- While no transaction is open, batches from the buffers are sent or lost, and all connections
for them are given back. -/
theorem LeadsTo.runBatches
    (hleads : LeadsTo destination origin ledger line)
    (hsentry : ledger.sentry = none) {batches : List Insert}
    (hroom : ledger.held.card + batches.length ≤ max 1 destination.maxOpen)
    (hbatches : batches.Subperm ledger.outgoing) :
    ∃ unsent, LeadsTo destination origin (ledger.sending unsent)
      (line.runBatches destination batches).2 := by
  have hout : ∃ unsent, LeadsTo destination origin (ledger.sending unsent)
      (line.batchOutcomes destination batches).2 := by
    unfold Line.batchOutcomes
    split
    · have hstarted := hleads.startBatches hsentry hroom
      cases hdone : line.startBatches destination batches with
      | mk refusals rest =>
          obtain ⟨started, next⟩ := rest
          rw [hdone] at hstarted
          obtain ⟨hsub, hheld⟩ := hstarted
          exact hheld.finishBatches hsentry (hsub.subperm.trans hbatches)
    · cases batches with
      | nil => exact ⟨ledger.outgoing, hleads⟩
      | cons batch others =>
          simp only [List.length_cons] at hroom
          exact hleads.runEach hsentry (by omega) hbatches
  unfold Line.runBatches
  split
  · exact ⟨ledger.outgoing, hleads⟩
  · dsimp only
    split
    · exact hout
    · split
      · exact hout
      · exact hout

end Line

end SqlPipe
