import SqlPipe.Engine.Sink
import Mathlib.Data.Multiset.AddSub

/-!
# The ledger of a journal

What a journal tells of the sink whose actions it holds: the inserts that arrived for the buffers,
the rows that wait, the batches that were taken out of the buffers and are not sent yet, the
connection of an open transaction, the turns, which are the statements sent together with the
beginnings and ends of transactions, and the connections that are checked out.

A journal is orderly when every action in it was allowed by the ledger of what stood before.  The
rules of order are the promises of a sink in one place: a transaction leaves no connection but its
own in use, statements overtake no waiting rows, and never are more connections checked out than
the destination can have open.
-/

namespace SqlPipe

/-- What a journal tells of a sink. -/
structure Ledger where
  /-- The inserts whose rows were put into buffers, in order. -/
  arrived : List Insert
  /-- The rows that wait, as one insert for each target. -/
  waiting : List Insert
  /-- The batches taken out of the buffers that are not sent yet. -/
  outgoing : List Insert
  /-- The connection of an open transaction. -/
  sentry : Option Connection
  /-- How often a statement was sent, or a transaction took or gave up a connection. -/
  turn : ℕ
  /-- The connections that are checked out. -/
  held : Multiset Connection

namespace Ledger

def empty : Ledger := ⟨[], [], [], none, 0, 0⟩

/-- The ledger after one more action.  Batches that were not sent by the next turn, or when rows are
next taken out of the buffers, are never sent. -/
def after (ledger : Ledger) : Action → Ledger
  | .acquired connection => { ledger with held := connection ::ₘ ledger.held }
  | .released connection => { ledger with held := ledger.held.erase connection }
  | .sent _ (.batch insert) => { ledger with outgoing := ledger.outgoing.erase insert }
  | .sent _ (.statement _) => { ledger with outgoing := [], turn := ledger.turn + 1 }
  | .started _ | .closed | .reported _ => ledger
  | .buffered insert =>
      { ledger with
        arrived := ledger.arrived ++ [insert]
        waiting := Sink.addRows insert ledger.waiting }
  | .emptied => { ledger with waiting := [], outgoing := ledger.waiting }
  | .bound connection =>
      { ledger with outgoing := [], sentry := some connection, turn := ledger.turn + 1 }
  | .unbound => { ledger with outgoing := [], sentry := none, turn := ledger.turn + 1 }

def holding (ledger : Ledger) (held : Multiset Connection) : Ledger := { ledger with held }

@[simp] theorem holding_held (ledger : Ledger) : ledger.holding ledger.held = ledger := rfl

def sending (ledger : Ledger) (outgoing : List Insert) : Ledger := { ledger with outgoing }

/-- The ledger some turns later. -/
def onward (ledger : Ledger) (outgoing : List Insert) (turn : ℕ) : Ledger :=
  { ledger with outgoing, turn }

/-- The connection is checked out, and no transaction is open on another one. -/
def Serves (ledger : Ledger) (connection : Connection) : Prop :=
  connection ∈ ledger.held ∧ ∀ sentry, ledger.sentry = some sentry → connection = sentry

/-- The rules of order, for a destination that may have `limit` connections open. -/
def Allows (limit : ℕ) (ledger : Ledger) : Action → Prop
  | .acquired _ => ledger.sentry = none ∧ ledger.held.card < max 1 limit
  | .started connection => ledger.Serves connection
  | .sent connection (.statement _) => ledger.Serves connection ∧ ledger.waiting = []
  | .sent connection (.batch insert) => ledger.Serves connection ∧ insert ∈ ledger.outgoing
  | .released connection => ledger.sentry = none ∧ connection ∈ ledger.held
  | .bound connection =>
      ledger.sentry = none ∧ ledger.waiting = [] ∧ ledger.held = {connection}
  | .unbound => ledger.sentry ≠ none ∧ ledger.waiting = []
  | .closed => ledger.sentry = none ∧ ledger.waiting = [] ∧ ledger.held = 0
  | .buffered _ | .emptied | .reported _ => True

theorem serves_of_allows_sent
    {limit : ℕ} {ledger : Ledger} {connection : Connection} {message : Message}
    (hallowed : ledger.Allows limit (.sent connection message)) :
    ledger.Serves connection := by
  cases message <;> exact hallowed.1

end Ledger

namespace Journal

def ledger : Journal → Ledger
  | [] => .empty
  | action :: earlier => (ledger earlier).after action

/-- Every action was allowed by the ledger of what stood before it. -/
def Orderly (limit : ℕ) : Journal → Prop
  | [] => True
  | action :: earlier => (ledger earlier).Allows limit action ∧ Orderly limit earlier

@[simp] theorem ledger_nil : Journal.ledger [] = .empty := rfl

@[simp] theorem ledger_cons (action : Action) (earlier : Journal) :
    Journal.ledger (action :: earlier) = earlier.ledger.after action := rfl

theorem Orderly.of_append
    {limit : ℕ} {later earlier : Journal}
    (horderly : Journal.Orderly limit (later ++ earlier)) : earlier.Orderly limit := by
  induction later with
  | nil => exact horderly
  | cons action later ih => exact ih horderly.2

theorem Orderly.allows
    {limit : ℕ} {later earlier : Journal} {action : Action}
    (horderly : Journal.Orderly limit (later ++ action :: earlier)) :
    earlier.ledger.Allows limit action :=
  horderly.of_append.1

/-! ## Connections that are checked out -/

/-- During a transaction its connection is the only one that is checked out. -/
theorem Orderly.held_eq_of_sentry
    {limit : ℕ} {journal : Journal} (horderly : journal.Orderly limit) :
    ∀ {sentry : Connection}, journal.ledger.sentry = some sentry →
      journal.ledger.held = {sentry} := by
  induction journal with
  | nil =>
      intro sentry hsentry
      simp [Ledger.empty] at hsentry
  | cons action earlier ih =>
      intro sentry hsentry
      obtain ⟨hallowed, hearlier⟩ := horderly
      have hkept := @ih hearlier sentry
      cases action with
      | acquired connection =>
          simp only [ledger_cons, Ledger.after] at hsentry
          simp [Ledger.Allows, hsentry] at hallowed
      | released connection =>
          simp only [ledger_cons, Ledger.after] at hsentry
          simp [Ledger.Allows, hsentry] at hallowed
      | sent connection message => cases message <;> exact hkept hsentry
      | bound connection =>
          obtain rfl : connection = sentry := by
            simpa [Ledger.after] using hsentry
          exact hallowed.2.2
      | unbound => simp [Ledger.after] at hsentry
      | _ => exact hkept hsentry

/-- Never are more connections checked out than the destination may have open. -/
theorem Orderly.card_held_le
    {limit : ℕ} {journal : Journal} (horderly : journal.Orderly limit) :
    journal.ledger.held.card ≤ max 1 limit := by
  induction journal with
  | nil => simp [Ledger.empty]
  | cons action earlier ih =>
      obtain ⟨hallowed, hearlier⟩ := horderly
      have hkept := ih hearlier
      cases action with
      | acquired connection =>
          have hroom : (Journal.ledger earlier).held.card < max 1 limit := hallowed.2
          simpa [Ledger.after, Nat.succ_le_iff] using hroom
      | released connection =>
          exact (Multiset.card_le_card (Multiset.erase_le _ _)).trans hkept
      | sent connection message => cases message <;> exact hkept
      | _ => exact hkept

end Journal

end SqlPipe
