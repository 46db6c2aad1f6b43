import SqlPipe.Engine.Sink

/-!
# Roles of statements

What a statement is to a sink depends on its text and the dialect alone: it is refused, passed over,
taken apart into rows that wait, or delivered behind a flush.  The equation for `Engine.exec` says
what a sink does in each of these roles.
-/

namespace SqlPipe

/-- What a statement is to a sink. -/
inductive Role
  /-- The statement cannot be read. -/
  | refused (failure : Failure)
  /-- The statement is of unknown class. -/
  | skipped
  /-- The rows of the statement can wait. -/
  | rows (insert : Insert)
  /-- The statement has to stay behind all rows that arrived before it. -/
  | barrier (statementClass : StatementClass)

def Role.insert? : Role → Option Insert
  | .rows insert => some insert
  | _ => none

def Role.isBarrier : Role → Bool
  | .barrier _ => true
  | _ => false

def Role.isSession : Role → Bool
  | .barrier (.manipulation .everySession) => true
  | _ => false

/-- The role of a statement that was read. -/
def Classify.Parsed.role (dialect : Dialect) (parsed : Parsed) : Role :=
  if parsed.statementClass = .unknown then .skipped
  else
    match parsed.toInsert? dialect with
    | some insert => .rows insert
    | none => .barrier parsed.statementClass

/-- The role of a statement. -/
def Classify.roleOf (dialect : Dialect) (text : String) : Role :=
  match (parse dialect text).1 with
  | .error failure => .refused failure
  | .ok parsed => parsed.role dialect

/-- The rows that the buffers of a destination take from a statement.  A destination of one
connection has no use for buffers. -/
def Destination.arrival {σ : Type} (destination : Destination σ) (text : String) : List Insert :=
  if destination.maxOpen ≤ 1 then []
  else (Classify.roleOf destination.dialect text).insert?.toList

namespace Classify

theorem text_of_parse
    {dialect : Dialect} {text : String} {parsed : Parsed}
    (hparse : (parse dialect text).1 = .ok parsed) : parsed.text = text := by
  unfold parse at hparse
  split at hparse
  · unfold parseByGrammar at hparse
    split at hparse
    · cases hparse
      rfl
    · cases hparse
      rfl
    · dsimp only at hparse
      split at hparse
      · cases hparse
      · cases hparse
        rfl
  · cases hparse
    rfl

theorem ne_unknown_of_roleOf
    {dialect : Dialect} {text : String} {statementClass : StatementClass}
    (hrole : roleOf dialect text = .barrier statementClass) : statementClass ≠ .unknown := by
  unfold roleOf Parsed.role at hrole
  split at hrole
  · cases hrole
  · split at hrole
    · cases hrole
    next hknown =>
      split at hrole
      · cases hrole
      · cases hrole
        exact hknown

end Classify

namespace Engine

variable {σ : Type} (destination : Destination σ)

/-- Sends a statement to the connections that its class asks for. -/
def deliver (engine : Engine σ) (statementClass : StatementClass) (text : String) :
    Outcome × Engine σ :=
  match statementClass with
  | .unknown => (.ok (), engine)
  | .transaction .opening => engine.begin destination text
  | .transaction .closing => engine.finish destination text
  | .manipulation .everySession => engine.broadcast destination text
  | .control | .definition | .manipulation .anySession => engine.runOnce destination text

variable {destination}

/-- Rows wait, and everything else of a known class is delivered behind a flush. -/
theorem route_eq
    (engine : Engine σ) {parsed : Classify.Parsed} (hknown : parsed.statementClass ≠ .unknown) :
    engine.route destination parsed =
      match parsed.toInsert? destination.dialect with
      | some insert => engine.buffer destination insert
      | none => engine.flushed destination
          (·.deliver destination parsed.statementClass parsed.text) := by
  unfold route
  dsimp only
  split
  next hclass => exact absurd hclass hknown
  next hclass => simp [Classify.Parsed.toInsert?, hclass, deliver]
  next hclass => simp [Classify.Parsed.toInsert?, hclass, deliver]
  next hclass => simp [Classify.Parsed.toInsert?, hclass, deliver]
  next hclass => simp [Classify.Parsed.toInsert?, hclass, deliver]
  next hclass => simp [Classify.Parsed.toInsert?, hclass, deliver]
  next hclass =>
    rw [hclass]
    rfl

/-- What a sink does with a statement, by its role. -/
theorem exec_eq (engine : Engine σ) (text : String) :
    engine.exec destination text =
      let engine := engine.reportAll (Classify.parse destination.dialect text).2
      match Classify.roleOf destination.dialect text with
      | .refused failure => (.error failure, engine)
      | .skipped => (.ok (), engine.skip text)
      | .rows insert =>
          if destination.maxOpen ≤ 1 then engine.runPinned destination text
          else engine.buffer destination insert
      | .barrier statementClass =>
          if destination.maxOpen ≤ 1 then engine.runPinned destination text
          else engine.flushed destination (·.deliver destination statementClass text) := by
  unfold exec Classify.roleOf
  cases hparse : Classify.parse destination.dialect text with
  | mk parsed events =>
      cases parsed with
      | error failure => rfl
      | ok parsed =>
          have htext : parsed.text = text :=
            Classify.text_of_parse (congrArg Prod.fst hparse)
          dsimp only
          by_cases hclass : parsed.statementClass = .unknown
          · simp [Classify.Parsed.role, hclass]
          · rw [if_neg hclass, route_eq _ hclass, htext, Classify.Parsed.role, if_neg hclass]
            cases parsed.toInsert? destination.dialect <;> rfl

end Engine

end SqlPipe
