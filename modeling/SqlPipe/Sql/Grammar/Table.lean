import SqlPipe.Sql.Grammar.Reshaping
import SqlPipe.Sql.Grammar.TableFunction

/-!
# Tables

What a query reads: named tables, results of queries and functions, and joins of them.
-/

namespace SqlPipe.Sql.Table

open SqlPipe.Sql.Parser

variable (below : Productions)

/-! ## Named tables -/

def version? : Parser String := do
  if (← dialect) == .sqlServer then
    if ← keywords? ["FOR", "SYSTEM_TIME", "AS", "OF"] then
      return "FOR SYSTEM_TIME AS OF " ++ (← below.expressionText)
    else if ← atAnyKeyword ["AT", "BEFORE"] then
      let name ← qualifiedName
      Expr.text <$> Call.call below name.text
    else pure ""
  else pure ""

def partitions? : Parser String := do
  if ← among [.mysql, .oracle] (keyword? "PARTITION") then
    let names ← parenthesized (commaSeparatedBefore identifier ")")
    pure (if names.isEmpty then "" else "PARTITION (" ++ nameList names ++ ")")
  else pure ""

def sampleSize (enclosed : Bool) : Parser String := do
  let amount ←
    match ← maybe below.expressionText with
    | some text => pure text
    | none =>
        match (← get) with
        | ⟨.word value _ _, _, _⟩ :: _ =>
            advance
            pure value
        | _ => unsupported "Expecting number or byte length e.g. 100M"
  let unit := (← anyKeyword? ["ROWS", "PERCENT"]).getD ""
  let text := phrase [amount, unit]
  pure (if enclosed then "(" ++ text ++ ")" else text)

def sampleShare : Parser String := do
  let share ← numberOrParameter
  keywords ["OUT", "OF"]
  let shares ← numberOrParameter
  let on_ ← behind? "ON" below.expressionText
  pure ("(" ++ phrase ["BUCKET", share, "OUT OF", shares, clause "ON" on_] ++ ")")

def sample? : Parser String := do
  match ← anyKeyword? ["TABLESAMPLE", "SAMPLE"] with
  | none => pure ""
  | some word =>
      let method := (← anyKeyword? ["BERNOULLI", "ROW", "SYSTEM", "BLOCK"]).getD ""
      let enclosed ← symbol? "("
      let shared ← if enclosed then keyword? "BUCKET" else pure false
      let extent ← if shared then sampleShare below else sampleSize below enclosed
      if enclosed then symbol ")"
      let seed ←
        match ← anyKeyword? ["REPEATABLE", "SEED"] with
        | some word => pure (word ++ " (" ++ (← parenthesized numberOrParameter) ++ ")")
        | none => pure ""
      let offset ← behind? "OFFSET" below.expressionText
      let size := if shared then [seed, extent] else [extent, seed]
      pure (phrase ([word, method] ++ size ++ [clause "OFFSET" offset]))

def indexHint? : Parser (Option String) := do
  match ← anyKeyword? ["USE", "IGNORE", "FORCE"] with
  | none => pure none
  | some word =>
      let kind ← anyKeyword ["INDEX", "KEY"]
      let scope ←
        if ← keyword? "FOR" then
          if ← keyword? "JOIN" then pure "FOR JOIN"
          else if ← keywords? ["ORDER", "BY"] then pure "FOR ORDER BY"
          else if ← keywords? ["GROUP", "BY"] then pure "FOR GROUP BY"
          else expected "expected to match FOR/ORDER BY/GROUP BY table hint in for clause"
        else pure ""
      let names ← parenthesized (commaSeparatedBefore identifier ")")
      pure (some (phrase [word, kind, scope, "(" ++ nameList names ++ ")"]))

/-- Advice on the use of indexes; what is none is left to what follows. -/
def indexHints? : Parser String := do
  if (← dialect) == .mysql then
    match ← maybe (many indexHint?) with
    | some hints => pure (phrase hints)
    | none => pure ""
  else pure ""

def hints? : Parser String := do
  if ← atCallOf "WITH" then
    advance
    return "WITH (" ++ (← parenthesized below.expressionList) ++ ")"
  else pure ""

def named : Parser Relation := do
  let name ← qualifiedName
  let partitions ← partitions?
  let version ← version? below
  let arguments ← TableFunction.arguments? below
  let ordinality := wordIf (← keywords? ["WITH", "ORDINALITY"]) "WITH ORDINALITY"
  let otherName ← OtherName.ofTable?
  let indexHints ← indexHints?
  let hints ← hints? below
  let sample ← sample? below
  let table : Relation :=
    ⟨phrase [name.text ++ partitions ++ arguments, ordinality], otherName,
      phrase [indexHints, hints, version, sample], false⟩
  let reshaped ← Reshaping.reshapedTail below table (← read).bound
  if ← among [.oracle] (keyword? "MATCH_RECOGNIZE") then Reshaping.matched below reshaped
  else pure reshaped

/-! ## Joins -/

def constraint? : Parser String := do
  if ← keyword? "ON" then return "ON " ++ (← below.expressionText)
  else if ← keyword? "USING" then return "USING(" ++ qualifiedNameList (← qualifiedColumns) ++ ")"
  else pure ""

/-- What follows `LEFT` or `RIGHT`. -/
def sidedJoin (side : String) : Parser String := do
  match ← anyKeyword? ["OUTER", "SEMI", "ANTI", "JOIN"] with
  | some "JOIN" => pure (side ++ " JOIN")
  | some word =>
      keyword "JOIN"
      pure (phrase [side, word, "JOIN"])
  | none => throw (.unsupported ("expected OUTER, SEMI, ANTI or JOIN after " ++ side) none)

def conditionalJoin? (natural : Bool) : Parser (Option String) := do
  match ← anyKeyword? ["JOIN", "INNER", "LEFT", "RIGHT", "ANTI", "SEMI", "FULL",
    "STRAIGHT_JOIN"] with
  | some "JOIN" => pure (some "JOIN")
  | some "STRAIGHT_JOIN" => pure (some "STRAIGHT_JOIN")
  | some "LEFT" => some <$> sidedJoin "LEFT"
  | some "RIGHT" => some <$> sidedJoin "RIGHT"
  | some word =>
      if word == "FULL" then
        let _ ← keyword? "OUTER"
      keyword "JOIN"
      pure (some (word ++ " JOIN"))
  | none =>
      if natural then
        if ← atKeyword "OUTER" then expected "LEFT, RIGHT, or FULL"
        else expected "a join type after NATURAL"
      else pure none

/-- A join behind `GLOBAL` or without it. -/
def joinBehind? : Parser (Option String) := do
  if ← keyword? "CROSS" then
    if ← keyword? "JOIN" then
      let table ← below.tableFactor
      let condition ← if (← dialect) == .mysql then constraint? below else pure ""
      pure (some (phrase ["CROSS JOIN", table.text, condition]))
    else if ← keyword? "APPLY" then return some ("CROSS APPLY " ++ (← below.tableFactor).text)
    else expected "JOIN or APPLY after CROSS"
  else if ← keyword? "OUTER" then
    keyword "APPLY"
    return some ("OUTER APPLY " ++ (← below.tableFactor).text)
  else if ← keyword? "ASOF" then
    keyword "JOIN"
    let table ← below.tableFactor
    keyword "MATCH_CONDITION"
    let nearest ← parenthesized below.expressionText
    let condition ← constraint? below
    pure (some (phrase ["ASOF JOIN", table.text, "MATCH_CONDITION (" ++ nearest ++ ")", condition]))
  else
    let natural ← keyword? "NATURAL"
    match ← conditionalJoin? natural with
    | none => pure none
    | some words =>
        let table ← below.tableFactor
        let condition ← if natural then pure "" else constraint? below
        let mark := wordIf (natural && words != "STRAIGHT_JOIN") "NATURAL"
        pure (some (phrase [mark, words, table.text, condition]))

/-- One joined table.  `GLOBAL` says nothing without a join. -/
def join? : Parser (Option String) := do
  let everywhere ← keyword? "GLOBAL"
  return (← joinBehind? below).map fun join => phrase [wordIf everywhere "GLOBAL", join]

/-- Tables joined together. -/
structure Joined where
  first : Relation
  joins : List String

def Joined.text (joined : Joined) : String :=
  phrase (joined.first.text :: joined.joins)

def joined : Parser Joined := do
  let first ← below.tableFactor
  pure ⟨first, ← many (join? below)⟩

/-! ## All tables -/

def derived (word : String) : Parser Relation := do
  let query ← below.query
  symbol ")"
  TableFunction.plain (phrase [word, "(" ++ query.text ++ ")"])

/-- A lone table between parentheses.  Its other name may stand inside or outside. -/
def enclosed (table : Relation) : Parser Relation := do
  symbol ")"
  match ← OtherName.ofTable? with
  | "" => pure table
  | otherName =>
      if table.otherName == "" then pure { table with otherName }
      else throw (.unsupported ("duplicate alias " ++ table.otherName) none)

def nested : Parser Relation := do
  match ← maybe (derived below "") with
  | some table => Reshaping.reshapedTail below table (← read).bound
  | none =>
      let joined ← joined below
      if !joined.joins.isEmpty || joined.first.nested then
        symbol ")"
        pure ⟨"(" ++ joined.text ++ ")", ← OtherName.ofTable?, "", true⟩
      else if (← dialect) == .oracle then enclosed joined.first
      else expected "joined table"

def rows : Parser Relation := do
  keyword "VALUES"
  let rows ← commaSeparated do
    let explicit ← keyword? "ROW"
    pure (explicit, ← parenthesized below.expressionList)
  let mark := wordIf (rows.any (·.1)) "ROW"
  let rows := rows.map fun row => mark ++ "(" ++ row.2 ++ ")"
  TableFunction.plain ("(VALUES " ++ commaList rows ++ ")")

def factor : Parser Relation := do
  if ← keyword? "LATERAL" then
    if ← symbol? "(" then derived below "LATERAL" else TableFunction.lateral below
  else if ← keyword? "TABLE" then TableFunction.value below
  else if ← symbol? "(" then nested below
  else if ← among [.oracle] (atCallOf "VALUES") then rows below
  else if ← among [.postgres, .oracle] (keyword? "UNNEST") then
    TableFunction.elements below
  else if ← atCallOf "JSON_TABLE" then advance *> TableFunction.documentRows below
  else if ← atCallOf "OPENJSON" then advance *> TableFunction.opened below
  else if ← atCallOf "XMLTABLE" then advance *> TableFunction.markupRows below
  else named below

def tables : Parser String := do
  let tables ← commaSeparated (joined below)
  pure (commaList (tables.map Joined.text))

end SqlPipe.Sql.Table
