import SqlPipe.Sql.Grammar.Operator
import SqlPipe.Sql.Grammar.Table

/-!
# Selections

Columns computed from the rows of tables, with what chooses, groups and relates the rows.
-/

namespace SqlPipe.Sql.Selection

open SqlPipe.Sql.Parser

variable (below : Productions)

/-! ## Columns -/

def replacement : Parser String := do
  let text ← below.expressionText
  let explicit ← keyword? "AS"
  return phrase [text, wordIf explicit "AS", (← identifier).text]

def renamedColumn : Parser String := do
  let name ← identifier
  keyword "AS"
  return name.text ++ " AS " ++ (← identifier).text

def oneOrMore (word : String) (item : Parser String) : Parser String := do
  if ← atSymbol "(" then
    return word ++ " (" ++ commaList (← parenthesized (commaSeparated item)) ++ ")"
  else return word ++ " " ++ (← item)

def starOptions : Parser String := do
  if (← dialect) != .oracle then return ""
  let column := Ident.text <$> identifier
  let like ←
    if ← keyword? "ILIKE" then
      match (← get) with
      | ⟨.literal .single inside, _, _⟩ :: _ =>
          advance
          pure ("ILIKE " ++ betweenQuotes '\x27' inside)
      | _ => expected "ilike pattern"
    else pure ""
  let excluded ←
    if ← onlyIf (like == "") (keyword? "EXCLUDE") then oneOrMore "EXCLUDE" column else pure ""
  let excepted ←
    if ← keyword? "EXCEPT" then
      let names ← if ← atSymbol "(" then columns else List.singleton <$> identifier
      pure ("EXCEPT (" ++ nameList names ++ ")")
    else pure ""
  let replaced ←
    if ← keyword? "REPLACE" then
      if ← atSymbol "(" then oneOrMore "REPLACE" (replacement below)
      else expected "( after REPLACE but"
    else pure ""
  let renamed ← if ← keyword? "RENAME" then oneOrMore "RENAME" renamedColumn else pure ""
  pure (phrase [like, excluded, excepted, replaced, renamed])

def column : Parser String := do
  let selected ← Call.starOrExpression below
  match selected.shape with
  | .wildcard => return phrase [selected.text, ← starOptions below]
  | .equation left right =>
      if (← dialect) == .sqlServer then pure (right ++ " AS " ++ left)
      else withName selected.text
  | .name =>
      if String.ofList (selected.text.toList.map Char.toLower) == "from" then
        unsupported ("Expected an expression, found: " ++ selected.text)
      else withName selected.text
  | _ => withName selected.text
where
  withName (text : String) : Parser String := do
    let name ← OtherName.ofColumn?
    pure (phrase [text, clause "AS" (name.map (·.ident.text))])

def atEnd : Parser Bool := do
  match ← peekAt? 0 with
  | none => pure true
  | some (.symbol mark) => pure ([")", ";", "]", "\x7d"].contains mark)
  | some token => pure (OtherName.endingColumn.contains token.keyword)

/-- The selected columns.  Where the dialect allows it, a comma may end them. -/
def columnsTail (read : List String) : Nat → Parser String
  | 0 => pure (commaList read.reverse)
  | rounds + 1 => do
      if ← symbol? "," then
        if ← among [.oracle] atEnd then pure (commaList read.reverse)
        else columnsTail ((← column below) :: read) rounds
      else pure (commaList read.reverse)

def columnList : Parser String := do
  columnsTail below [← column below] (← read).bound

def distinction : Parser String := do
  if ← keyword? "ALL" then
    if ← atKeyword "DISTINCT" then unsupported "Cannot specify both ALL and DISTINCT"
    else pure ""
  else if ← keyword? "DISTINCT" then
    if ← keyword? "ON" then
      let columns ← parenthesized (commaSeparatedBefore below.expressionText ")")
      pure ("DISTINCT ON (" ++ commaList columns ++ ")")
    else pure "DISTINCT"
  else pure ""

def top : Parser String := do
  if ← keyword? "TOP" then
    let quantity ←
      if ← atSymbol "(" then pure ("(" ++ (← parenthesized below.expressionText) ++ ")")
      else wholeNumber
    let percent := wordIf (← keyword? "PERCENT") "PERCENT"
    let ties := wordIf (← keywords? ["WITH", "TIES"]) "WITH TIES"
    pure (phrase ["TOP", quantity, percent, ties])
  else pure ""

/-- Where selected rows go, behind `INTO`. -/
def target : Parser String := do
  let temporary := (← anyKeyword? ["TEMP", "TEMPORARY"]).isSome
  let unlogged ← keyword? "UNLOGGED"
  let table ← keyword? "TABLE"
  let name ← qualifiedName
  pure (phrase ["INTO", wordIf temporary "TEMPORARY", wordIf unlogged "UNLOGGED",
    wordIf table "TABLE", name.text])

/-! ## Rows -/

def lateralView? : Parser (Option String) := do
  if ← keywords? ["LATERAL", "VIEW"] then
    let outer ← keyword? "OUTER"
    let function ← below.expressionText
    let name ← qualifiedName
    let reserved := ["WHERE", "GROUP", "CLUSTER", "HAVING", "LATERAL"]
    let columns ← commaSeparated
      (OtherName.read? fun explicit word => explicit || !reserved.contains word)
    let columns := columns.filterMap id
    pure (some (phrase ["LATERAL VIEW", wordIf outer "OUTER", function, name.text,
      wordIf (!columns.isEmpty) ("AS " ++ nameList (columns.map OtherName.ident))]))
  else pure none

def tuple : Parser (List String) :=
  parenthesized (commaSeparatedBefore below.expressionText ")")

def tupleOrSingle : Parser (List String) := do
  if ← atSymbol "(" then tuple below else List.singleton <$> below.expressionText

def tupleText (parts : List String) : String := "(" ++ commaList parts ++ ")"

def liftedText : List String → String
  | [single] => single
  | parts => tupleText parts

def groupItem : Parser String := do
  if [.postgres, .oracle].contains (← dialect) then
    let lifted word : Parser String := do
      let tuples ← parenthesized (commaSeparated (tupleOrSingle below))
      pure (word ++ " (" ++ commaList (tuples.map liftedText) ++ ")")
    if ← keywords? ["GROUPING", "SETS"] then
      let tuples ← parenthesized (commaSeparated (tuple below))
      pure ("GROUPING SETS (" ++ commaList (tuples.map tupleText) ++ ")")
    else if ← keyword? "CUBE" then lifted "CUBE"
    else if ← keyword? "ROLLUP" then lifted "ROLLUP"
    else if ← symbols? ["(", ")"] then pure "()"
    else below.expressionText
  else below.expressionText

def groupModifier? : Parser (Option String) := do
  if ← among [.mysql, .oracle] (keyword? "WITH") then
    return some ("WITH " ++ (← anyKeyword ["ROLLUP", "CUBE", "TOTALS"]))
  else pure none

def grouping? : Parser String := do
  if ← keywords? ["GROUP", "BY"] then
    let items ←
      if ← keyword? "ALL" then pure "ALL" else commaList <$> commaSeparated (groupItem below)
    let modifiers ← many groupModifier?
    let sets ←
      if ← keywords? ["GROUPING", "SETS"] then
        let tuples ← parenthesized (commaSeparated (tupleOrSingle below))
        pure ("GROUPING SETS (" ++ commaList (tuples.map tupleText) ++ ")")
      else pure ""
    pure (phrase (["GROUP BY", items] ++ modifiers ++ [sets]))
  else pure ""

def byClause? (word : String) (items : Parser String) : Parser String := do
  if ← keywords? [word, "BY"] then return word ++ " BY " ++ (← items) else pure ""

def namedWindow : Parser String := do
  let name ← identifier
  keyword "AS"
  if ← symbol? "(" then return name.text ++ " AS " ++ (← Call.window below)
  else if (← dialect) == .oracle then return name.text ++ " AS " ++ (← identifier).text
  else expected "("

def windows? : Parser String := do
  let windows : Parser String := do
    return clause "WINDOW" (← behind? "WINDOW" (commaList <$> commaSeparated (namedWindow below)))
  let qualify : Parser String := do
    return clause "QUALIFY" (← behind? "QUALIFY" below.expressionText)
  if ← atKeyword "QUALIFY" then
    let first ← qualify
    return phrase [first, ← windows]
  else
    let first ← windows
    return phrase [first, ← qualify]

def relations : Parser String := do
  keywords ["CONNECT", "BY"]
  withReader (fun context => { context with hierarchical := true }) below.expressionList

def roots : Parser String := do
  keywords ["START", "WITH"]
  below.expressionText

def hierarchy? : Parser String := do
  let (roots, relations) ←
    if ← among [.sqlServer, .oracle] (atKeyword "CONNECT") then
      let relations ← relations below
      pure (← roots below, relations)
    else if ← among [.sqlServer, .oracle] (atKeyword "START") then
      let roots ← roots below
      pure (roots, ← relations below)
    else return ""
  pure (phrase ["START WITH", roots, "CONNECT BY", relations])

/-! ## Selections -/

/-- A selection behind its keyword.  `tables` are those that stand in front of it. -/
def behindSelect (tables : Option String) : Parser String := do
  let dialect ← dialect
  let once ← distinction below
  let top ← top below
  let columns ←
    if ← among [.postgres, .oracle] (atKeyword "FROM") then pure ""
    else columnList below
  let target ← behind? "INTO" target
  let from_ ← if tables.isNone then behind? "FROM" (Table.tables below) else pure none
  let views ← many (lateralView? below)
  let prewhere ←
    if dialect == .oracle then behind? "PREWHERE" below.expressionText else pure none
  let where_ ← behind? "WHERE" below.expressionText
  let group ← grouping? below
  let cluster ← byClause? "CLUSTER" below.expressionList
  let distribute ← byClause? "DISTRIBUTE" below.expressionList
  let sort ← byClause? "SORT" below.orderItems
  let having ← behind? "HAVING" below.expressionText
  let windows ← windows? below
  let hierarchy ← hierarchy? below
  pure (phrase ([clause "FROM" tables, "SELECT", once, top, columns, target.getD "",
    clause "FROM" from_] ++ views ++ [clause "PREWHERE" prewhere, clause "WHERE" where_, group,
    cluster, distribute, sort, clause "HAVING" having, windows, hierarchy]))

def selection? : Parser (Option String) := do
  if ← keyword? "SELECT" then some <$> behindSelect below none
  else if ← among [.oracle] (keyword? "FROM") then
    let tables ← Table.tables below
    if ← keyword? "SELECT" then some <$> behindSelect below (some tables)
    else pure (some ("FROM " ++ tables))
  else pure none

end SqlPipe.Sql.Selection
