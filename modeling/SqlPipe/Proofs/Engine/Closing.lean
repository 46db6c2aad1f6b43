import SqlPipe.Proofs.Engine.Cancellation
import SqlPipe.Proofs.Engine.Custody
import SqlPipe.Proofs.Engine.Waiting

/-!
# Closing

Closing ends an engine in full, whatever becomes of the last flush: the rows that waited are gone,
an open transaction is given up, and every connection goes back before the destination is closed.

Afterwards nothing is sent any more.  A statement needs a connection, an engine that holds none has
to check one out, and a destination that is closed refuses every checkout.
-/

namespace SqlPipe

variable {σ : Type} {destination : Destination σ} {closed : σ → Prop}

/-- Closing leads to states in which every checkout is refused, and no refusal leads out of them. -/
structure Destination.ClosesForGood (destination : Destination σ) (closed : σ → Prop) : Prop where
  close : ∀ world, closed (destination.close world)
  acquire : ∀ world, closed world → ∃ failure later,
    destination.acquire world = (.error failure, later) ∧ closed later

/-- The call does not open a closed destination again. -/
def Call.KeepsClosed (closed : σ → Prop) : Call σ → Prop
  | .exec _ | .flush | .close => True
  | .meanwhile change => ∀ world, closed world → closed (change world)

theorem Action.Inner.sentBy?_eq_none {action : Action} (hinner : action.Inner) :
    Journal.sentBy? action = none := by
  cases action with
  | sent => exact hinner.elim
  | _ => rfl

theorem Action.Inner.held_after {action : Action} (hinner : action.Inner) (ledger : Ledger) :
    (ledger.after action).held = ledger.held := by
  cases action with
  | acquired | sent | released | closed => exact hinner.elim
  | _ => rfl

/-! ## Lines at their end -/

namespace Line

variable {line later : Line σ}

/-- The destination is closed, and no connection is checked out. -/
structure Ended (closed : σ → Prop) (line : Line σ) : Prop where
  world : closed line.world
  held : line.journal.ledger.held = 0

/-- The steps that are left can neither get a connection nor use one. -/
theorem Step.ended
    (hgood : destination.ClosesForGood closed) (hstep : Step destination line later)
    (hended : line.Ended closed) :
    later.Ended closed ∧ later.journal.messages = line.journal.messages := by
  obtain ⟨hworld, hheld⟩ := hended
  have hnone : ∀ connection, connection ∉ line.journal.ledger.held := by
    intro connection
    rw [hheld]
    exact Multiset.notMem_zero connection
  obtain ⟨failure, world, hrefused, hstill⟩ := hgood.acquire line.world hworld
  cases hstep with
  | acquired hacquire =>
      rw [hrefused] at hacquire
      cases hacquire
  | refused hacquire =>
      rw [hrefused] at hacquire
      cases hacquire
      exact ⟨⟨hstill, hheld⟩, rfl⟩
  | sent hallowed => exact (hnone _ (Ledger.serves_of_allows_sent hallowed).1).elim
  | released hallowed => exact (hnone _ hallowed.2).elim
  | inner hinner =>
      refine ⟨⟨hworld, (hinner.held_after _).trans hheld⟩, ?_⟩
      rw [note, Journal.messages_cons, hinner.sentBy?_eq_none, Option.toList_none,
        List.append_nil]

theorem ended_of_steps
    (hgood : destination.ClosesForGood closed)
    (hsteps : Relation.ReflTransGen (Step destination) line later)
    (hended : line.Ended closed) :
    later.Ended closed ∧ later.journal.messages = line.journal.messages := by
  induction hsteps with
  | refl => exact ⟨hended, rfl⟩
  | tail _ hstep ih =>
      obtain ⟨hmiddle, hsame⟩ := ih
      obtain ⟨hlater, hstill⟩ := hstep.ended hgood hmiddle
      exact ⟨hlater, hstill.trans hsame⟩

end Line

namespace Engine

variable {engine : Engine σ} {arrived : List Insert}

/-! ## What closing leaves -/

/-- Closing leaves a sink that holds nothing, on a line that holds nothing. -/
structure Closed (engine : Engine σ) : Prop where
  buffers : engine.sink.buffers = []
  sentry : engine.sink.sentry = none
  deferred : engine.sink.deferred = []
  pinned : engine.sink.pinned = none
  held : engine.line.journal.ledger.held = 0
  head : engine.line.journal.head? = some .closed

theorem Consistent.closed_close (hconsistent : engine.Consistent destination arrived) :
    (engine.close destination).2.Closed := by
  obtain ⟨bare, hbare, heq⟩ := hconsistent.settled.close_eq
  obtain ⟨outgoing, turn, hleads⟩ := hbare.reached
  rw [heq]
  exact ⟨hbare.buffers, hbare.sentry, hbare.deferred, hbare.pinned,
    congrArg Ledger.held hleads.ledger_eq, rfl⟩

theorem buffered_close (batchCap : ℕ) (world : σ) (calls : List (Call σ)) :
    (((fresh batchCap world).run destination calls).close destination).2.sink.buffered = 0 := by
  rcases Nat.lt_or_ge 1 destination.maxOpen with hmany | hsingle
  · have hfresh : (fresh batchCap world).sink.Metered (fresh batchCap world).sink.batchCap :=
      Sink.metered_of_empty rfl rfl rfl
    have hclosed : (((fresh batchCap world).run destination calls).close destination).2.sink.Metered
        (fresh batchCap world).sink.batchCap := metered_close (metered_run hfresh hmany calls)
    rw [hclosed.counted, (consistent_run_fresh batchCap world calls).closed_close.buffers,
      rowCount_nil]
  · exact ((inStep_fresh batchCap world).run hsingle calls).close.2.buffered

/-! ## What is asked of a closed engine -/

theorem Consistent.ended_answer
    (hconsistent : engine.Consistent destination arrived)
    (hgood : destination.ClosesForGood closed) (hended : engine.line.Ended closed)
    {call : Call σ} (hkeep : call.KeepsClosed closed) :
    (engine.answer destination call).2.line.Ended closed ∧
      (engine.answer destination call).2.messages = engine.messages := by
  have hsettled := hconsistent.settled
  cases call with
  | exec text => exact Line.ended_of_steps hgood (hsettled.exec text).steps hended
  | flush => exact Line.ended_of_steps hgood hsettled.flush.steps hended
  | close =>
      obtain ⟨bare, hbare, heq⟩ := hsettled.close_eq
      obtain ⟨outgoing, turn, hleads⟩ := hbare.reached
      have hclose : (engine.answer destination .close).2 =
          { bare with line := bare.line.close destination } := heq
      obtain ⟨hbefore, hsame⟩ := Line.ended_of_steps hgood hleads.steps hended
      rw [hclose]
      exact ⟨⟨hgood.close _, hbefore.held⟩, (Line.messages_close bare.line).trans hsame⟩
  | meanwhile change => exact ⟨⟨hkeep _ hended.world, hended.held⟩, rfl⟩

theorem Consistent.ended_run
    (hconsistent : engine.Consistent destination arrived)
    (hgood : destination.ClosesForGood closed) (hended : engine.line.Ended closed)
    {calls : List (Call σ)} (hkeep : ∀ call ∈ calls, call.KeepsClosed closed) :
    (engine.run destination calls).line.Ended closed ∧
      (engine.run destination calls).messages = engine.messages := by
  induction calls generalizing engine arrived with
  | nil => exact ⟨hended, rfl⟩
  | cons call calls ih =>
      obtain ⟨hcall, hcalls⟩ := List.forall_mem_cons.mp hkeep
      obtain ⟨hanswer, hsame⟩ := hconsistent.ended_answer hgood hended hcall
      obtain ⟨hrest, hstill⟩ := ih (hconsistent.answer call) hanswer hcalls
      exact ⟨hrest, hstill.trans hsame⟩

/-! ## The end of a run -/

theorem closesForGood_rehearsal (dialect : Dialect) (maxOpen : ℕ) (overlaps : Bool) :
    (Rehearsal.destination dialect maxOpen overlaps).ClosesForGood (·.closed = true) where
  close _ := rfl
  acquire world hclosed := ⟨.connection "pool is closed", world, if_pos hclosed, hclosed⟩

end Engine

end SqlPipe
