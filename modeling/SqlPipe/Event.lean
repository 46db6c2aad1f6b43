/-!
# Events

What the library reports of its progress to whoever watches it.
-/

namespace SqlPipe

inductive Level
  | error
  | warning
  | info
  | debug
  | trace
  deriving DecidableEq, Repr

/-- A report of progress. -/
structure Event where
  level : Level
  message : String
  deriving DecidableEq, Repr

end SqlPipe
