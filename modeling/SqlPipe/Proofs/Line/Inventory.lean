import SqlPipe.Engine.Rehearsal
import SqlPipe.Proofs.Line.Success
import Mathlib.Data.Finset.Card
import Mathlib.Data.Finset.Range

/-!
# Destinations that keep their connections

A destination keeps its connections when each of them, once opened, is either checked out or idle:
none is discarded, and a new one is opened only where none is idle or there is room for one more.
Of such a destination as many connections as there may be, once they are checked out together, are
all that exist.
-/

namespace SqlPipe

/-- The connections of a destination that keeps them: those that are idle, and all that exist. -/
structure Inventory {σ : Type} (destination : Destination σ) where
  idle : σ → Multiset Connection
  existing : σ → Finset Connection
  /-- A checkout takes an idle connection or opens a new one. -/
  acquired : ∀ {world later : σ} {connection : Connection},
    destination.acquire world = (.ok connection, later) →
      connection ∈ idle world ∧ idle later = (idle world).erase connection ∧
          existing later = existing world ∨
        connection ∉ existing world ∧
          (idle world = 0 ∨ (existing world).card < destination.maxOpen) ∧
          idle later = idle world ∧ existing later = insert connection (existing world)
  refused : ∀ {world later : σ} {failure : Failure},
    destination.acquire world = (.error failure, later) →
      idle later = idle world ∧ existing later = existing world
  executed : ∀ (connection : Connection) (text : String) (world : σ),
    idle (destination.execute connection text world).2 = idle world ∧
      existing (destination.execute connection text world).2 = existing world
  released : ∀ (connection : Connection) (world : σ),
    idle (destination.release connection world) = connection ::ₘ idle world ∧
      existing (destination.release connection world) = existing world

def Rehearsal.inventory (dialect : Dialect) (maxOpen : ℕ) (overlaps : Bool) :
    Inventory (Rehearsal.destination dialect maxOpen overlaps) where
  idle rehearsal := rehearsal.idle
  existing rehearsal := Finset.range rehearsal.opened
  acquired := by
    intro world later connection hacquire
    change Rehearsal.acquire world = _ at hacquire
    unfold Rehearsal.acquire at hacquire
    split at hacquire
    · cases (Prod.mk.inj hacquire).1
    · dsimp only at hacquire
      split at hacquire
      · cases (Prod.mk.inj hacquire).1
      · split at hacquire
        next first others hidle =>
          obtain ⟨hfirst, rfl⟩ := Prod.mk.inj hacquire
          obtain rfl := Except.ok.inj hfirst
          left
          simp [hidle]
        next hidle =>
          obtain ⟨hfirst, rfl⟩ := Prod.mk.inj hacquire
          obtain rfl := Except.ok.inj hfirst
          right
          simp [hidle, Finset.range_add_one]
  refused := by
    intro world later failure hacquire
    change Rehearsal.acquire world = _ at hacquire
    unfold Rehearsal.acquire at hacquire
    split at hacquire
    · obtain ⟨-, rfl⟩ := Prod.mk.inj hacquire
      exact ⟨rfl, rfl⟩
    · dsimp only at hacquire
      split at hacquire
      · obtain ⟨-, rfl⟩ := Prod.mk.inj hacquire
        exact ⟨rfl, rfl⟩
      · split at hacquire <;> cases (Prod.mk.inj hacquire).1
  executed := by
    intro connection text world
    change _ = _ ∧ Finset.range (Rehearsal.execute connection text world).2.opened = _
    change ((Rehearsal.execute connection text world).2.idle : Multiset Connection) = _ ∧ _
    unfold Rehearsal.execute
    split <;> exact ⟨rfl, rfl⟩
  released := by
    intro connection world
    exact ⟨rfl, rfl⟩

namespace Inventory

variable {σ : Type} {destination : Destination σ} {line later : Line σ}

/-- The connections that are idle or checked out are all that exist, they are no more than there may
be, and messages were sent on them alone. -/
structure Kept (inventory : Inventory destination) (line : Line σ) : Prop where
  parts : inventory.idle line.world + line.journal.ledger.held =
    (inventory.existing line.world).val
  few : (inventory.existing line.world).card ≤ max 1 destination.maxOpen
  known : ∀ sent ∈ line.journal.messages, sent.1 ∈ inventory.existing line.world

variable {inventory : Inventory destination}

theorem kept_fresh
    {world : σ} (hidle : inventory.idle world = 0) (hexisting : inventory.existing world = ∅) :
    inventory.Kept ⟨world, []⟩ where
  parts := by simp [hidle, hexisting, Ledger.empty]
  few := by simp [hexisting]
  known sent hsent := by cases hsent

theorem Kept.mem_existing
    (hkept : inventory.Kept line) {connection : Connection}
    (hheld : connection ∈ line.journal.ledger.held) :
    connection ∈ inventory.existing line.world := by
  rw [← Finset.mem_val, ← hkept.parts]
  exact Multiset.mem_add.mpr (Or.inr hheld)

/-- Actions that the destination has no part in change neither connections nor messages. -/
theorem Kept.note
    (hkept : inventory.Kept line) {action : Action} (hinner : action.Inner) :
    inventory.Kept (line.note action) := by
  obtain ⟨hparts, hfew, hknown⟩ := hkept
  have hheld : (line.note action).journal.ledger.held = line.journal.ledger.held := by
    cases action with
    | acquired => cases hinner
    | sent => cases hinner
    | released => cases hinner
    | _ => rfl
  have hmessages : (line.note action).journal.messages = line.journal.messages := by
    rw [Line.note, Journal.messages_cons]
    cases action with
    | sent => cases hinner
    | _ => simp [Journal.sentBy?]
  refine ⟨by rw [hheld]; exact hparts, hfew, ?_⟩
  rw [hmessages]
  exact hknown

theorem Kept.acquired
    (hkept : inventory.Kept line) {connection : Connection} {world : σ}
    (hacquire : destination.acquire line.world = (.ok connection, world))
    (hallowed : line.journal.ledger.Allows destination.maxOpen (.acquired connection)) :
    inventory.Kept ({ line with world }.note (.acquired connection)) := by
  obtain ⟨hparts, hfew, hknown⟩ := hkept
  have hmessages : Journal.messages (.acquired connection :: line.journal) =
      line.journal.messages := by simp [Journal.messages_cons, Journal.sentBy?]
  rcases inventory.acquired hacquire with
    ⟨hidle, htaken, hexisting⟩ | ⟨hnew, hroom, hidle, hexisting⟩
  · refine ⟨?_, hexisting ▸ hfew, ?_⟩
    · calc
        inventory.idle world + connection ::ₘ line.journal.ledger.held =
            connection ::ₘ (inventory.idle line.world).erase connection +
              line.journal.ledger.held := by
          rw [htaken, Multiset.add_cons, Multiset.cons_add]
        _ = (inventory.existing world).val := by
          rw [Multiset.cons_erase hidle, hparts, hexisting]
    · intro sent hsent
      have hold : sent ∈ line.journal.messages := hmessages ▸ hsent
      exact hexisting ▸ hknown sent hold
  · refine ⟨?_, ?_, ?_⟩
    · calc
        inventory.idle world + connection ::ₘ line.journal.ledger.held =
            connection ::ₘ (inventory.existing line.world).val := by
          rw [hidle, Multiset.add_cons, hparts]
        _ = (inventory.existing world).val := by
          rw [hexisting, Finset.insert_val_of_notMem hnew]
    · -- one is opened where there may be one more, or where none is idle and so all are held
      have hcard : (inventory.existing world).card =
          (inventory.existing line.world).card + 1 := by
        rw [hexisting, Finset.card_insert_of_notMem hnew]
      have hless : (inventory.existing line.world).card < max 1 destination.maxOpen := by
        rcases hroom with hnone | hless
        · rw [hnone, Multiset.zero_add] at hparts
          have hheld := hallowed.2
          rwa [hparts] at hheld
        · exact hless.trans_le (Nat.le_max_right 1 _)
      exact hcard.trans_le hless
    · intro sent hsent
      have hold : sent ∈ line.journal.messages := hmessages ▸ hsent
      have hgrown := (Finset.subset_insert connection _).trans hexisting.symm.subset
      exact hgrown (hknown sent hold)

theorem Kept.refused
    (hkept : inventory.Kept line) {failure : Failure} {world : σ}
    (hacquire : destination.acquire line.world = (.error failure, world)) :
    inventory.Kept { line with world } := by
  obtain ⟨hidle, hexisting⟩ := inventory.refused hacquire
  obtain ⟨hparts, hfew, hknown⟩ := hkept
  refine ⟨?_, hexisting ▸ hfew, hexisting ▸ hknown⟩
  rw [hidle, hexisting]
  exact hparts

theorem Kept.sent
    (hkept : inventory.Kept line) {connection : Connection} {message : Message}
    (hheld : connection ∈ line.journal.ledger.held) :
    inventory.Kept ({ line with
      world := (destination.execute connection message.text line.world).2 }.note
        (.sent connection message)) := by
  obtain ⟨hidle, hexisting⟩ := inventory.executed connection message.text line.world
  have hsame : (Journal.ledger (.sent connection message :: line.journal)).held =
      line.journal.ledger.held := by
    cases message <;> rfl
  refine ⟨?_, (congrArg Finset.card hexisting).trans_le hkept.few, ?_⟩
  · refine (congrArg₂ (· + ·) hidle hsame).trans (hkept.parts.trans ?_)
    exact congrArg Finset.val hexisting.symm
  · intro sent hsent
    apply hexisting.symm.subset
    have hmem : sent ∈ line.journal.messages ++ [(connection, message)] := by
      have hcons := Journal.messages_cons (.sent connection message) line.journal
      exact hcons ▸ hsent
    rcases List.mem_append.mp hmem with hold | hnew
    · exact hkept.known sent hold
    · rw [List.mem_singleton.mp hnew]
      exact hkept.mem_existing hheld

theorem Kept.released
    (hkept : inventory.Kept line) {connection : Connection}
    (hheld : connection ∈ line.journal.ledger.held) :
    inventory.Kept (line.release destination connection) := by
  obtain ⟨hidle, hexisting⟩ := inventory.released connection line.world
  refine ⟨?_, (congrArg Finset.card hexisting).trans_le hkept.few, ?_⟩
  · calc
      inventory.idle (destination.release connection line.world) +
            line.journal.ledger.held.erase connection =
          inventory.idle line.world +
            connection ::ₘ line.journal.ledger.held.erase connection := by
        rw [hidle, Multiset.cons_add, Multiset.add_cons]
      _ = (inventory.existing line.world).val := by
        rw [Multiset.cons_erase hheld, hkept.parts]
      _ = (inventory.existing (destination.release connection line.world)).val := by
        rw [hexisting]
  · rw [Line.messages_release]
    intro sent hsent
    exact hexisting.symm.subset (hkept.known sent hsent)

theorem Kept.step
    (hkept : inventory.Kept line) (hstep : Line.Step destination line later) :
    inventory.Kept later := by
  cases hstep with
  | acquired hacquire hallowed => exact hkept.acquired hacquire hallowed
  | refused hacquire => exact hkept.refused hacquire
  | sent hallowed => exact hkept.sent (Ledger.serves_of_allows_sent hallowed).1
  | released hallowed => exact hkept.released hallowed.2
  | inner hinner => exact hkept.note hinner

theorem Kept.steps
    (hkept : inventory.Kept line)
    (hsteps : Relation.ReflTransGen (Line.Step destination) line later) :
    inventory.Kept later := by
  induction hsteps with
  | refl => exact hkept
  | tail _ hstep ih => exact ih.step hstep

theorem existing_mono_step
    (inventory : Inventory destination) (hstep : Line.Step destination line later) :
    inventory.existing line.world ⊆ inventory.existing later.world := by
  cases hstep with
  | inner => exact Finset.Subset.refl _
  | refused hacquire => exact (inventory.refused hacquire).2.symm.subset
  | acquired hacquire =>
      rcases inventory.acquired hacquire with ⟨-, -, hexisting⟩ | ⟨-, -, -, hexisting⟩
      · exact hexisting.symm.subset
      · exact (Finset.subset_insert _ _).trans hexisting.symm.subset
  | sent => exact (inventory.executed _ _ _).2.symm.subset
  | released => exact (inventory.released _ _).2.symm.subset

theorem existing_mono
    (inventory : Inventory destination)
    (hsteps : Relation.ReflTransGen (Line.Step destination) line later) :
    inventory.existing line.world ⊆ inventory.existing later.world := by
  induction hsteps with
  | refl => exact Finset.Subset.refl _
  | tail _ hstep ih => exact ih.trans (existing_mono_step inventory hstep)

/-- As many connections as there may be, checked out together, are all that exist. -/
theorem Kept.checkedOut
    (hkept : inventory.Kept line) (hlimit : 1 ≤ destination.maxOpen)
    {held : Multiset Connection} (hcheckedOut : Line.CheckedOut destination line later held)
    (hall : held.card = destination.maxOpen) :
    (inventory.existing later.world).val = held := by
  obtain ⟨middle, hto, hheld, hfrom⟩ := hcheckedOut
  have hmiddle := hkept.steps hto
  have hlater := hmiddle.steps hfrom
  have hmax : max 1 destination.maxOpen = destination.maxOpen := Nat.max_eq_right hlimit
  have hexisting : held = (inventory.existing middle.world).val := by
    apply Multiset.eq_of_le_of_card_le
    · rw [← hmiddle.parts, hheld]
      exact Multiset.le_add_left _ _
    · rw [hall, ← hmax]
      exact hmiddle.few
  have hcard : (inventory.existing middle.world).card = destination.maxOpen := by
    rw [Finset.card_def, ← hexisting, hall]
  have hsame : inventory.existing middle.world = inventory.existing later.world := by
    apply Finset.eq_of_subset_of_card_le (existing_mono inventory hfrom)
    rw [hcard, ← hmax]
    exact hlater.few
  rw [← hsame, hexisting]

end Inventory

end SqlPipe
