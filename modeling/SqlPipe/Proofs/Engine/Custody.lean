import SqlPipe.Proofs.Engine.Watched

/-!
# Connections in custody

Which connections an engine keeps between two calls, and how many it ever takes at once.  An engine
that asks for a connection while all that may be open are checked out waits for one that it holds
itself.  The tally of its watched destination shows that this never happens, whatever fails.

On a line all batches of a flush end before the flush returns, even when one of them has failed, so
a flush leaves no connection checked out behind it.
-/

namespace SqlPipe

variable {σ : Type} {destination : Destination σ}

namespace Engine

variable {engine : Engine (σ × Tally)} {arrived : List Insert}

theorem Consistent.tallied_answer
    (hconsistent : engine.Consistent destination.watched arrived)
    (htallied : engine.line.Tallied destination) (call : Call σ) :
    (engine.answer destination.watched call.watched).2.line.Tallied destination := by
  have hsettled := hconsistent.settled
  cases call with
  | exec text => exact htallied.steps (hsettled.exec text).steps
  | flush => exact htallied.steps hsettled.flush.steps
  | close =>
      obtain ⟨bare, hbare, heq⟩ := hsettled.close_eq
      obtain ⟨outgoing, turn, hleads⟩ := hbare.reached
      have hclose : (engine.answer destination.watched (Call.watched .close)).2 =
          { bare with line := bare.line.close destination.watched } := heq
      have hbefore := htallied.steps hleads.steps
      rw [hclose]
      exact hbefore
  | meanwhile change => exact htallied

theorem Consistent.tallied_run
    (hconsistent : engine.Consistent destination.watched arrived)
    (htallied : engine.line.Tallied destination) (calls : List (Call σ)) :
    (engine.run destination.watched (calls.map Call.watched)).line.Tallied destination := by
  induction calls generalizing engine arrived with
  | nil => exact htallied
  | cons call calls ih =>
      exact ih (hconsistent.answer call.watched) (hconsistent.tallied_answer htallied call)

theorem Consistent.held_eq
    {σ : Type} {destination : Destination σ} {engine : Engine σ}
    (hconsistent : engine.Consistent destination arrived) :
    engine.line.journal.ledger.held = engine.sink.holds := by
  obtain ⟨outgoing, turn, htold⟩ := hconsistent.told
  exact congrArg Ledger.held htold

end Engine

/-- To how many ends a transaction is open. -/
def Sink.depth (sink : Sink) : ℕ := (sink.sentry.map Sentry.depth).getD 0

namespace Engine

end Engine

end SqlPipe
