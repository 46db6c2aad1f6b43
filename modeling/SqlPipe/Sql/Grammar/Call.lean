import SqlPipe.Sql.Grammar.Interval

/-!
# Calls

Function calls with their argument lists, filters and windows.
-/

namespace SqlPipe.Sql.Call

open SqlPipe.Sql.Parser

variable (below : Productions)

def starredPath (text : String) : Nat → Parser (Option Expr)
  | 0 => pure none
  | rounds + 1 => do
      if ← symbol? "." then
        match (← get) with
        | ⟨.word value quote _, _, _⟩ :: _ =>
            advance
            starredPath (text ++ "." ++ Ident.text ⟨value, quote⟩) rounds
        | ⟨.literal .single inside, _, _⟩ :: _ =>
            advance
            starredPath (text ++ "." ++ Ident.text ⟨inside, some '\x27'⟩) rounds
        | ⟨.symbol "*", _, _⟩ :: _ =>
            advance
            pure (some ⟨text ++ ".*", .wildcard⟩)
        | _ => expected "an identifier or a '*' after '.'"
      else pure none

def wildcard? : Parser (Option Expr) := do
  let tokens ← get
  let path? ident := do
    advance
    match ← starredPath (Ident.text ident) (← read).bound with
    | some path => pure (some path)
    | none =>
        set tokens
        pure none
  match tokens with
  | ⟨.word value quote _, _, _⟩ :: _ => path? ⟨value, quote⟩
  | ⟨.literal .single inside, _, _⟩ :: _ => path? ⟨inside, some '\x27'⟩
  | ⟨.symbol "*", _, _⟩ :: _ =>
      advance
      pure (some ⟨"*", .wildcard⟩)
  | _ => pure none

def starOrExpression : Parser Expr := do
  match ← wildcard? with
  | some path => pure path
  | none => below.expression

def argumentMark : Parser String := do
  if ← keyword? "VALUE" then pure "VALUE"
  else if ← symbol? "=>" then pure "=>"
  else if ← among [.oracle] (symbol? ":=") then pure ":="
  else if ← among [.postgres, .sqlServer] (symbol? ":") then pure ":"
  else expected "argument operator"

def namedArgument : Parser String := do
  let name ←
    if [.postgres, .sqlServer].contains (← dialect) then below.expressionText
    else Ident.text <$> identifier
  let mark ← argumentMark
  let value ← starOrExpression below
  pure (phrase [name, mark, value.text])

def argument : Parser String := do
  match ← maybe (namedArgument below) with
  | some text => pure text
  | none => Expr.text <$> starOrExpression below

def nullClause? : Parser String := do
  if ← keywords? ["NULL", "ON", "NULL"] then pure "NULL ON NULL"
  else if ← keywords? ["ABSENT", "ON", "NULL"] then pure "ABSENT ON NULL"
  else pure ""

def returningClause? : Parser String := do
  if ← keyword? "RETURNING" then return "RETURNING " ++ (← dataType).text else pure ""

def overflowClause? : Parser String := do
  if ← keywords? ["ON", "OVERFLOW"] then
    if ← keyword? "ERROR" then pure "ON OVERFLOW ERROR"
    else
      keyword "TRUNCATE"
      let filler ←
        if ← atAnyKeyword ["WITH", "WITHOUT"] then pure "" else below.expressionText
      let counting ← anyKeyword ["WITH", "WITHOUT"]
      keyword "COUNT"
      pure (phrase ["ON OVERFLOW TRUNCATE", filler, counting, "COUNT"])
  else pure ""

def nullTreatment? : Parser String := do
  match ← anyKeyword? ["IGNORE", "RESPECT"] with
  | some word =>
      keyword "NULLS"
      pure (word ++ " NULLS")
  | none => pure ""

def arguments : Parser String := do
  let dialect ← dialect
  let leading := phrase [← nullClause?, ← returningClause?]
  if ← symbol? ")" then pure ("(" ++ leading ++ ")")
  else
    let treatment := (← anyKeyword? ["ALL", "DISTINCT"]).getD ""
    if treatment == "ALL" && (← atKeyword "DISTINCT") then
      unsupported "Cannot specify both ALL and DISTINCT"
    let values ← commaSeparated (argument below)
    let nulls ← if dialect == .oracle then nullTreatment? else pure ""
    let order ← if ← keywords? ["ORDER", "BY"] then some <$> below.orderItems else pure none
    let limit ← behind? "LIMIT" below.expressionText
    let having ←
      if dialect == .oracle then
        behind? "HAVING" do
          let bound ← anyKeyword ["MIN", "MAX"]
          return bound ++ " " ++ (← below.expressionText)
      else pure none
    let separator ←
      if dialect == .mysql || dialect == .oracle then behind? "SEPARATOR" value else pure none
    let overflow ← overflowClause? below
    let nullClause ← nullClause?
    let returning ← returningClause?
    symbol ")"
    pure ("(" ++ phrase [treatment, commaList values, leading, nulls, clause "ORDER BY" order,
      clause "LIMIT" limit, clause "HAVING" having, clause "SEPARATOR" separator, overflow,
      nullClause, returning] ++ ")")

def frameBound : Parser String := do
  if ← keywords? ["CURRENT", "ROW"] then pure "CURRENT ROW"
  else
    let distance ←
      if ← keyword? "UNBOUNDED" then pure "UNBOUNDED"
      else
        match ← peekAt? 0 with
        | some (.literal .single _) => Expr.text <$> Interval.span below (.plain <$> value)
        | _ => below.expressionText
    match ← anyKeyword? ["PRECEDING", "FOLLOWING"] with
    | some side => pure (distance ++ " " ++ side)
    | none => expected "PRECEDING or FOLLOWING"

def frame : Parser String := do
  match ← anyKeyword? ["ROWS", "RANGE", "GROUPS"] with
  | none => expected "ROWS, RANGE, GROUPS"
  | some units =>
      if ← keyword? "BETWEEN" then
        let low ← frameBound below
        keyword "AND"
        let high ← frameBound below
        pure (phrase [units, "BETWEEN", low, "AND", high])
      else return units ++ " " ++ (← frameBound below)

def window : Parser String := do
  let name ←
    if ← atAnyKeyword ["PARTITION", "ORDER", "ROWS", "RANGE", "GROUPS"] then pure ""
    else
      match ← peekAt? 0 with
      | some (.word ..) => Ident.text <$> identifier
      | _ => pure ""
  let partition ←
    if ← keywords? ["PARTITION", "BY"] then some <$> below.expressionList else pure none
  let order ← if ← keywords? ["ORDER", "BY"] then some <$> below.orderItems else pure none
  let frame ←
    if ← symbol? ")" then pure ""
    else
      let text ← frame below
      symbol ")"
      pure text
  pure ("(" ++ phrase [name, clause "PARTITION BY" partition, clause "ORDER BY" order, frame] ++
    ")")

def over? : Parser String := do
  if ← keyword? "OVER" then
    if ← symbol? "(" then return "OVER " ++ (← window below)
    else return "OVER " ++ (← identifier).text
  else pure ""

def filter? : Parser String := do
  let dialects : List Dialect := [.postgres, .sqlite, .oracle]
  if !dialects.contains (← dialect) then pure ""
  else if ← keyword? "FILTER" then
    if ← symbol? "(" then
      if ← keyword? "WHERE" then
        let condition ← below.expressionText
        symbol ")"
        return "FILTER (WHERE " ++ condition ++ ")"
    pure ""
  else pure ""

def call (name : String) : Parser Expr := do
  symbol "("
  let first ← arguments below
  let second ←
    if ← among [.oracle] (symbol? "(") then arguments below else pure ""
  let group ←
    if ← keywords? ["WITHIN", "GROUP"] then
      symbol "("
      keywords ["ORDER", "BY"]
      let order ← below.orderItems
      symbol ")"
      pure ("WITHIN GROUP (ORDER BY " ++ order ++ ")")
    else pure ""
  let filter ← filter? below
  let nulls ← nullTreatment?
  let window ← over? below
  pure (.plain (phrase [name ++ first ++ second, group, filter, nulls, window]))

end SqlPipe.Sql.Call
