import SqlPipe.Sql.Token

/-!
# Syntax errors

Why a text is not SQL, and the wording of it.
-/

namespace SqlPipe.Sql

/-- The causes for which a text is refused. -/
inductive SyntaxError
  | tooDeep
  | lexical (reason : String) (place : Place)
  /-- Another token stands where something is needed; no token stands at the end. -/
  | expected (what : String) (found : Option Located)
  | unsupported (reason : String) (place : Option Place)
  deriving Repr

def placeText : Option Place → String
  | some place => place.text
  | none => ""

def foundText : Option Located → String
  | some found => found.token.text ++ found.place.text
  | none => "EOF"

def SyntaxError.message : SyntaxError → String
  | tooDeep => "sql parser error: recursion limit exceeded"
  | lexical reason place => "sql parser error: " ++ reason ++ place.text
  | expected what found => "sql parser error: Expected: " ++ what ++ ", found: " ++ foundText found
  | unsupported reason place => "sql parser error: " ++ reason ++ placeText place

end SqlPipe.Sql
