import SqlPipe.Sql.Grammar.DataType
import SqlPipe.Sql.Tree

/-!
# Productions that nest

Expressions, queries, tables and statements stand inside one another.  A grammar for one level of
nesting is given the productions of the level below, so that nesting is bounded by the number of
levels.
-/

namespace SqlPipe.Sql

/-- The productions of one level of nesting. -/
structure Productions where
  expr : Nat → Parser Expr
  query : Parser Query
  tableFactor : Parser Relation
  statement : Parser Tree

namespace Productions

def exhausted : Productions where
  expr _ := throw .tooDeep
  query := throw .tooDeep
  tableFactor := throw .tooDeep
  statement := throw .tooDeep

variable (below : Productions)

def expression : Parser Expr := below.expr 0

def expressionText : Parser String := Expr.text <$> below.expression

def expressionList : Parser String :=
  commaList <$> Parser.commaSeparated below.expressionText

def filling? : Parser String := do
  if ← Parser.among [.oracle] (Parser.keywords? ["WITH", "FILL"]) then
    let from_ ← Parser.behind? "FROM" below.expressionText
    let to_ ← Parser.behind? "TO" below.expressionText
    let step ← Parser.behind? "STEP" below.expressionText
    pure (phrase ["WITH FILL", clause "FROM" from_, clause "TO" to_, clause "STEP" step])
  else pure ""

def direction? : Parser String := do
  let direction := (← Parser.anyKeyword? ["ASC", "DESC"]).getD ""
  let nulls ←
    if ← Parser.keywords? ["NULLS", "FIRST"] then pure "NULLS FIRST"
    else if ← Parser.keywords? ["NULLS", "LAST"] then pure "NULLS LAST"
    else pure ""
  pure (phrase [direction, nulls])

def orderItem : Parser String := do
  let text ← below.expressionText
  let direction ← direction?
  pure (phrase [text, direction, ← below.filling?])

def orderItems : Parser String :=
  commaList <$> Parser.commaSeparated below.orderItem

def settings? : Parser (Option String) := do
  if (← Parser.dialect) == .oracle then
    let settings ← Parser.behind? "SETTINGS" (Parser.commaSeparated do
      let name ← Parser.identifier
      Parser.symbol "="
      return name.text ++ " = " ++ (← below.expressionText))
    pure (settings.map fun settings => "SETTINGS " ++ commaList settings)
  else pure none

end Productions

end SqlPipe.Sql
