import SqlPipe.Dialect

/-!
# Statements

A statement is a text in a dialect.  Its class decides how it is delivered: on which connections it
runs, and whether rows waiting in front of it have to be sent first.
-/

namespace SqlPipe

structure Statement where
  text : String
  dialect : Dialect
  deriving DecidableEq, Repr

inductive Boundary
  | opening
  | closing
  deriving DecidableEq, Repr

/-- How far the effect of a manipulation reaches. -/
inductive Scope
  /-- The effect does not depend on the session that runs the statement. -/
  | anySession
  /-- The effect is a setting of the session, so that every session needs it. -/
  | everySession
  deriving DecidableEq, Repr

inductive StatementClass
  | unknown
  | transaction (boundary : Boundary)
  | control
  | definition
  | manipulation (scope : Scope)
  deriving DecidableEq, Repr, Inhabited

namespace StatementClass

def describe : StatementClass → String
  | unknown => "Unknown"
  | transaction .opening => "TransactionControl(Begin)"
  | transaction .closing => "TransactionControl(End)"
  | control => "ControlLanguage"
  | definition => "DefinitionLanguage"
  | manipulation .anySession => "Manipulation(SingleSession)"
  | manipulation .everySession => "Manipulation(MultiSession)"

end StatementClass

end SqlPipe
