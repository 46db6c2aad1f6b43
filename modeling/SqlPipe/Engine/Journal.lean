import SqlPipe.Engine.Destination
import SqlPipe.Event
import SqlPipe.Insert

/-!
# The journal

Everything that an engine does with a destination and with the rows that wait for it, and everything
that it reports, in the order in which it happens.  A journal stands last action first, because it
is only ever extended.
-/

namespace SqlPipe

/-- What is sent on a connection. -/
inductive Message
  | statement (text : String)
  | batch (insert : Insert)
  deriving DecidableEq, Repr

def Message.text : Message → String
  | statement text => text
  | batch insert => insert.toSql

/-- What an engine does. -/
inductive Action
  | acquired (connection : Connection)
  | started (connection : Connection)
  /-- A message was sent on a connection and is no longer under way. -/
  | sent (connection : Connection) (message : Message)
  | released (connection : Connection)
  | buffered (insert : Insert)
  | emptied
  | bound (connection : Connection)
  | unbound
  | closed
  | reported (event : Event)
  deriving DecidableEq, Repr

/-- A journal, last action first. -/
abbrev Journal := List Action

namespace Journal

def sentBy? : Action → Option (Connection × Message)
  | .sent connection message => some (connection, message)
  | _ => none

def reportedBy? : Action → Option Event
  | .reported event => some event
  | _ => none

def messages (journal : Journal) : List (Connection × Message) :=
  journal.reverse.filterMap sentBy?

def sends (journal : Journal) : List (Connection × String) :=
  journal.messages.map fun (connection, message) => (connection, message.text)

def events (journal : Journal) : List Event :=
  journal.reverse.filterMap reportedBy?

/-- How many messages are under way after an action, and the most that ever were. -/
def load : Nat × Nat → Action → Nat × Nat
  | (current, most), .started _ => (current + 1, max most (current + 1))
  | (current, most), .sent _ _ => (current - 1, most)
  | level, _ => level

def peak (journal : Journal) : Nat :=
  (journal.reverse.foldl load (0, 0)).2

end Journal

end SqlPipe
