import SqlPipe.Proofs.Engine.Runs
import SqlPipe.Proofs.Journal.Rows

/-!
# Isolation of transactions

While a transaction is open, nothing happens on any connection but its own, and the rows of the
transaction stay with it.  Both hold after every run, whatever fails in it and whenever it is
cancelled, because they hold of every orderly journal.
-/

namespace SqlPipe

/-- The action touches no connection but the given one, and leaves it checked out. -/
def Action.ConfinedTo (sentry : Connection) : Action → Prop
  | .started connection | .sent connection _ => connection = sentry
  | .acquired _ | .released _ | .bound _ | .closed => False
  | .buffered _ | .emptied | .unbound | .reported _ => True

namespace Journal

/-- Every action that found a transaction open was confined to the connection of it. -/
def Isolated (journal : Journal) : Prop :=
  ∀ later action earlier sentry, journal = later ++ action :: earlier →
    (ledger earlier).sentry = some sentry → action.ConfinedTo sentry

/-- Rows for the target that arrived before a statement was sent, or before a transaction began or
ended, were sent before it or not at all. -/
def KeepsTurns (target : String) (journal : Journal) : Prop :=
  ∀ later action earlier, journal = later ++ action :: earlier → takesTurn action = true →
    ∃ sent arrived,
      dispatches target journal = dispatches target earlier ++ sent ∧
      arrivals target journal = arrivals target earlier ++ arrived ∧
      sent.Sublist arrived

theorem confinedTo_of_allows
    {limit : ℕ} {ledger : Ledger} {action : Action} {sentry : Connection}
    (hallowed : ledger.Allows limit action) (hsentry : ledger.sentry = some sentry) :
    action.ConfinedTo sentry := by
  have hnone : ledger.sentry ≠ none := by simp [hsentry]
  cases action with
  | started connection => exact hallowed.2 sentry hsentry
  | sent connection message =>
      exact (Ledger.serves_of_allows_sent hallowed).2 sentry hsentry
  | acquired => exact hnone hallowed.1
  | released => exact hnone hallowed.1
  | bound => exact hnone hallowed.1
  | closed => exact hnone hallowed.1
  | _ => trivial

theorem Orderly.isolated
    {limit : ℕ} {journal : Journal} (horderly : journal.Orderly limit) : journal.Isolated := by
  intro later action earlier sentry hjournal hsentry
  rw [hjournal] at horderly
  exact confinedTo_of_allows horderly.allows hsentry

theorem Orderly.keepsTurns
    {limit : ℕ} {journal : Journal} (horderly : journal.Orderly limit) (target : String) :
    journal.KeepsTurns target := by
  intro later action earlier hjournal hturn
  rw [hjournal] at horderly ⊢
  exact horderly.sublist_since hturn target

end Journal

namespace Engine

end Engine

end SqlPipe
