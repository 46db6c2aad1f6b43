import SqlPipe.Sql.Grammar.Manipulation

/-!
# Merges

A merge compares two tables row by row.  Each of its clauses tells what to do with the rows that
match, with those that only the source has, and with those that only the target has.
-/

namespace SqlPipe.Sql.Merge

open SqlPipe.Sql.Parser

variable (below : Productions)

/-- Which rows a clause is about. -/
inductive Match
  | matched
  | notMatched
  | notMatchedByTarget
  | notMatchedBySource

def Match.text : Match → String
  | .matched => "MATCHED"
  | .notMatched => "NOT MATCHED"
  | .notMatchedByTarget => "NOT MATCHED BY TARGET"
  | .notMatchedBySource => "NOT MATCHED BY SOURCE"

def Match.onlyAdds : Match → Bool
  | .notMatched | .notMatchedByTarget => true
  | .matched | .notMatchedBySource => false

def rows : Parser Match := do
  let missing ← keyword? "NOT"
  keyword "MATCHED"
  if !missing then pure .matched
  else if ← keywords? ["BY", "SOURCE"] then pure .notMatchedBySource
  else if ← keywords? ["BY", "TARGET"] then pure .notMatchedByTarget
  else pure .notMatched

def update : Parser String := do
  keyword "SET"
  let assignments ← Manipulation.assignments below
  let condition ← behind? "WHERE" below.expressionText
  let deleted ←
    if ← keyword? "DELETE" then
      keyword "WHERE"
      some <$> below.expressionText
    else pure none
  pure (phrase ["UPDATE SET", assignments, clause "WHERE" condition, clause "DELETE WHERE" deleted])

def insertion : Parser String := do
  let empty ← among [.mysql] (symbols? ["(", ")"])
  let columns ← if !empty && (← atSymbol "(") then qualifiedColumns else pure []
  let values ←
    if ← among [.oracle] (keyword? "ROW") then pure "ROW"
    else
      keyword "VALUES"
      Body.text <$> Query.rowList below "VALUES"
  let condition ← behind? "WHERE" below.expressionText
  pure (phrase ["INSERT", wordIf (!columns.isEmpty) ("(" ++ qualifiedNameList columns ++ ")"),
    values, clause "WHERE" condition])

def action (rows : Match) : Parser String := do
  let refused word :=
    throw (.unsupported (word ++ " is not allowed in a " ++ rows.text ++ " merge clause") none)
  match ← anyKeyword? ["UPDATE", "INSERT", "DELETE"] with
  | some "UPDATE" => if rows.onlyAdds then refused "UPDATE" else update below
  | some "DELETE" => if rows.onlyAdds then refused "DELETE" else pure "DELETE"
  | some _ => if rows.onlyAdds then insertion below else refused "INSERT"
  | none => throw (.unsupported "expected UPDATE, DELETE or INSERT in merge clause" none)

def clause? : Parser (Option String) := do
  if ← keyword? "WHEN" then
    let rows ← rows
    let condition ← behind? "AND" below.expressionText
    keyword "THEN"
    let action ← action below rows
    pure (some (phrase ["WHEN", rows.text, clause "AND" condition, "THEN", action]))
  else pure none

def report? : Parser (Option String) := do
  if ← keyword? "RETURNING" then return some ("RETURNING " ++ (← Selection.columnList below))
  else if ← keyword? "OUTPUT" then
    let columns ← Selection.columnList below
    return some (phrase ["OUTPUT", columns, (← behind? "INTO" Selection.target).getD ""])
  else pure none

/-- A merge behind its keyword.  A blank stands behind the condition, even if nothing follows. -/
def merge : Parser String := do
  let into ← keyword? "INTO"
  let target ← below.tableFactor
  keyword "USING"
  let source ← below.tableFactor
  keyword "ON"
  let condition ← below.expressionText
  let clauses ← many (clause? below)
  let report ← report? below
  let head := phrase ["MERGE", wordIf into "INTO", target.text, "USING", source.text, "ON",
    condition]
  let report := match report with
    | some report => " " ++ report
    | none => ""
  pure (head ++ " " ++ phrase clauses ++ report)

def manipulation? : Parser (Option String) := do
  match ← anyKeyword? ["INSERT", "UPDATE", "DELETE", "MERGE"] with
  | some "INSERT" => return some (← Manipulation.insert below false).text
  | some "UPDATE" => some <$> Manipulation.update below
  | some "DELETE" => some <$> Manipulation.delete below
  | some _ => some <$> merge below
  | none => pure none

end SqlPipe.Sql.Merge
