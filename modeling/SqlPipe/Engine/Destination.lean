import SqlPipe.Dialect
import SqlPipe.Failure

/-!
# Destinations

A destination hands out connections, runs statements on them and takes them back.  Its own state is
opaque: an engine sees only what the operations answer.
-/

namespace SqlPipe

abbrev Connection := Nat

/-- What becomes of the question whether a connection is alive: an answer after some milliseconds,
or no answer at all. -/
structure Response where
  delay : Option Nat
  outcome : Except Failure Unit
  deriving Repr

/-- A database that statements are delivered to, with states in `σ`. -/
structure Destination (σ : Type) where
  dialect : Dialect
  /-- The most connections that may be checked out at once. -/
  maxOpen : Nat
  /-- Executions on several connections are under way at the same time. -/
  overlaps : Bool
  acquire : σ → Except Failure Connection × σ
  execute : Connection → String → σ → Except Failure Unit × σ
  ping : Connection → σ → Response × σ
  release : Connection → σ → σ
  close : σ → σ
  cancelled : σ → Bool

end SqlPipe
