import SqlPipe.Sql.Grammar.Call
import SqlPipe.Sql.Grammar.Operator
import SqlPipe.Sql.Grammar.OtherName

/-!
# Reshaped tables

Tables whose rows are turned into columns or columns into rows, and tables of the matches of a
pattern over rows.
-/

namespace SqlPipe.Sql.Reshaping

open SqlPipe.Sql.Parser

variable (below : Productions)

def reshaped (table : Relation) (text : String) : Parser Relation := do
  pure ⟨phrase [table.text, text], ← OtherName.ofTable?, "", false⟩

def namedExpression : Parser String := do
  let text ← below.expressionText
  let name ← behind? "AS" (Ident.text <$> identifier)
  pure (phrase [text, clause "AS" name])

/-! ## Rows and columns -/

def aggregate : Parser String := do
  match (← get) with
  | ⟨.word value _ _, _, _⟩ :: _ =>
      advance
      let call ← Call.call below value
      let dialect ← dialect
      let name ← OtherName.read? fun explicit word =>
        word != "FOR" && OtherName.namesColumn dialect explicit word
      pure (phrase [call.text, clause "AS" (name.map (·.ident.text))])
  | _ => expected "a function identifier"

def spreadColumns : Parser String := do
  let strength := Binding.between.strength (← dialect)
  let column := Expr.text <$> below.expr strength
  if ← atSymbol "(" then
    let columns ← parenthesized (commaSeparated column)
    pure (match columns with
      | [single] => single
      | _ => "(" ++ commaList columns ++ ")")
  else column

def spreadValues : Parser String := do
  if ← keyword? "ANY" then
    let order ← if ← keywords? ["ORDER", "BY"] then some <$> below.orderItems else pure none
    pure (phrase ["ANY", clause "ORDER BY" order])
  else if ← atAnyKeyword ["SELECT", "WITH"] then Query.text <$> below.query
  else commaList <$> commaSeparated (namedExpression below)

/-- Rows turned into columns, behind `PIVOT`. -/
def pivot (table : Relation) : Parser Relation := do
  symbol "("
  let aggregates ← commaSeparated (aggregate below)
  keyword "FOR"
  let columns ← spreadColumns below
  keyword "IN"
  let values ← parenthesized (spreadValues below)
  let missing ←
    if ← keywords? ["DEFAULT", "ON", "NULL"] then some <$> parenthesized below.expressionText
    else pure none
  symbol ")"
  let missing := missing.map fun text => "(" ++ text ++ ")"
  reshaped table ("PIVOT(" ++ phrase [commaList aggregates, "FOR", columns, "IN",
    "(" ++ values ++ ")", clause "DEFAULT ON NULL" missing] ++ ")")

/-- Columns turned into rows, behind `UNPIVOT`. -/
def unpivot (table : Relation) : Parser Relation := do
  let nulls ← anyKeyword? ["INCLUDE", "EXCLUDE"]
  if nulls.isSome then keyword "NULLS"
  symbol "("
  let value ← below.expressionText
  keyword "FOR"
  let name ← identifier
  keyword "IN"
  let columns ← parenthesized (commaSeparated (namedExpression below))
  symbol ")"
  let word := match nulls with
    | some word => "UNPIVOT " ++ word ++ " NULLS "
    | none => "UNPIVOT"
  reshaped table (word ++ "(" ++ phrase [value, "FOR", name.text, "IN",
    "(" ++ commaList columns ++ ")"] ++ ")")

def reshapedTail (table : Relation) : Nat → Parser Relation
  | 0 => pure table
  | rounds + 1 => do
      match ← anyKeyword? ["PIVOT", "UNPIVOT"] with
      | some "PIVOT" => reshapedTail (← pivot below table) rounds
      | some _ => reshapedTail (← unpivot below table) rounds
      | none => pure table

/-! ## Matches of a pattern -/

def repetition? : Parser (Option String) := do
  if ← symbol? "*" then pure (some "*")
  else if ← symbol? "+" then pure (some "+")
  else if ← symbol? "\x7b" then
    let range ←
      if ← symbol? "," then return some ("\x7b," ++ (← wholeNumber <* symbol "\x7d") ++ "\x7d")
      else
        let least ← wholeNumber
        if ← symbol? "," then
          if ← atSymbol "\x7d" then pure (least ++ ",")
          else return some ("\x7b" ++ least ++ "," ++ (← wholeNumber <* symbol "\x7d") ++ "\x7d")
        else pure least
    symbol "\x7d"
    pure (some ("\x7b" ++ range ++ "\x7d"))
  else pure none

def pattern : Nat → Parser String
  | 0 => throw .tooDeep
  | rounds + 1 => do
      let single : Parser String := do
        match (← get) with
        | ⟨.symbol "^", _, _⟩ :: _ =>
            advance
            pure "^"
        | ⟨.placeholder "$", _, _⟩ :: _ =>
            advance
            pure "$"
        | ⟨.symbol "\x7b", _, _⟩ :: _ =>
            advance
            symbol "-"
            let name ← identifier
            symbol "-"
            symbol "\x7d"
            pure ("\x7b- " ++ name.text ++ " -\x7d")
        | ⟨.word "PERMUTE" none _, _, _⟩ :: _ =>
            advance
            return "PERMUTE(" ++ nameList (← columns) ++ ")"
        | ⟨.symbol "(", _, _⟩ :: _ =>
            return "( " ++ (← parenthesized (pattern rounds)) ++ " )"
        | _ => Ident.text <$> identifier
      let repeated : Parser String := do
        let first ← single
        return String.join (first :: (← many repetition?))
      let first ← repeated
      let others ← many do
        if (← atSymbol ")") || (← atSymbol "|") then pure none else some <$> repeated
      let text := phrase (first :: others)
      if ← symbol? "|" then return text ++ " | " ++ (← pattern rounds) else pure text

def rowsPerMatch? : Parser String := do
  if ← keywords? ["ONE", "ROW", "PER", "MATCH"] then pure "ONE ROW PER MATCH"
  else if ← keywords? ["ALL", "ROWS", "PER", "MATCH"] then
    let mode ←
      if ← keywords? ["SHOW", "EMPTY", "MATCHES"] then pure "SHOW EMPTY MATCHES"
      else if ← keywords? ["OMIT", "EMPTY", "MATCHES"] then pure "OMIT EMPTY MATCHES"
      else if ← keywords? ["WITH", "UNMATCHED", "ROWS"] then pure "WITH UNMATCHED ROWS"
      else pure ""
    pure (phrase ["ALL ROWS PER MATCH", mode])
  else pure ""

def afterMatch? : Parser String := do
  if ← keywords? ["AFTER", "MATCH", "SKIP"] then
    if ← keywords? ["PAST", "LAST", "ROW"] then pure "AFTER MATCH SKIP PAST LAST ROW"
    else if ← keywords? ["TO", "NEXT", "ROW"] then pure "AFTER MATCH SKIP  TO NEXT ROW"
    else if ← keywords? ["TO", "FIRST"] then
      return "AFTER MATCH SKIP TO FIRST " ++ (← identifier).text
    else if ← keywords? ["TO", "LAST"] then
      return "AFTER MATCH SKIP TO LAST " ++ (← identifier).text
    else expected "after match skip option"
  else pure ""

def measure : Parser String := do
  let text ← below.expressionText
  let _ ← keyword? "AS"
  return text ++ " AS " ++ (← identifier).text

def definition : Parser String := do
  let name ← identifier
  keyword "AS"
  return name.text ++ " AS " ++ (← below.expressionText)

/-- The matches of a pattern over the rows of a table, behind `MATCH_RECOGNIZE`. -/
def matched (table : Relation) : Parser Relation := do
  symbol "("
  let parts ←
    if ← keywords? ["PARTITION", "BY"] then some <$> below.expressionList else pure none
  let order ← if ← keywords? ["ORDER", "BY"] then some <$> below.orderItems else pure none
  let measures ← behind? "MEASURES" (commaList <$> commaSeparated (measure below))
  let rows ← rowsPerMatch?
  let after ← afterMatch?
  keyword "PATTERN"
  let pattern ← parenthesized (pattern (← read).bound)
  keyword "DEFINE"
  let definitions ← commaSeparated (definition below)
  symbol ")"
  reshaped table ("MATCH_RECOGNIZE(" ++ phrase [clause "PARTITION BY" parts,
    clause "ORDER BY" order, clause "MEASURES" measures, rows, after,
    "PATTERN (" ++ pattern ++ ")", "DEFINE", commaList definitions] ++ ")")

end SqlPipe.Sql.Reshaping
