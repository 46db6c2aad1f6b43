import SqlPipe.Sql.Grammar.Selection

/-!
# Queries

Selections, lists of rows, and their unions, with what may stand in front of and behind them.
-/

namespace SqlPipe.Sql.Query

open SqlPipe.Sql.Parser

variable (below : Productions)

def row : Parser (Bool × Row) := do
  let explicit ← keyword? "ROW"
  symbol "("
  if ← among [.mysql] (symbol? ")") then pure (explicit, ⟨[]⟩)
  else
    let values ← commaSeparated below.expressionText
    symbol ")"
    pure (explicit, ⟨values⟩)

def rowList (word : String) : Parser Body := do
  let rows ← commaSeparated (row below)
  let mark := if rows.any (·.1) then "ROW" else ""
  let rows := rows.map (·.2)
  pure ⟨word ++ " " ++ commaList (rows.map fun row => mark ++ row.render), some rows⟩

/-- A table as it is, behind its keyword.  The qualifier and the name lose their quotes, and three
tokens are passed whatever they are. -/
def wholeTable : Parser String := do
  let tokens ← get
  modify (List.drop 3)
  let name what : Option Located → Parser String
    | some ⟨.word value _ _, _, _⟩ => pure value
    | found => throw (.expected what found)
  if tokens[1]?.map Located.token == some (.symbol ".") then
    let qualifier ← name "Schema name" tokens[0]?
    return "TABLE " ++ qualifier ++ "." ++ (← name "Table name" tokens[2]?)
  else return "TABLE " ++ (← name "Table name" tokens[0]?)

def primary : Parser Body := do
  match ← Selection.selection? below with
  | some text => pure ⟨text, none⟩
  | none =>
      if ← symbol? "(" then
        let query ← below.query
        symbol ")"
        pure ⟨"(" ++ query.text ++ ")", none⟩
      else
        match ← anyKeyword? ["VALUES", "VALUE", "TABLE"] with
        | some "TABLE" => return ⟨← wholeTable, none⟩
        | some word => rowList below word
        | none => expected "SELECT, VALUES, or a subquery in the query body"

def unionMode : Parser String := do
  if ← keywords? ["DISTINCT", "BY", "NAME"] then pure "DISTINCT BY NAME"
  else if ← keywords? ["BY", "NAME"] then pure "BY NAME"
  else if ← keyword? "ALL" then
    return phrase ["ALL", wordIf (← keywords? ["BY", "NAME"]) "BY NAME"]
  else return wordIf (← keyword? "DISTINCT") "DISTINCT"

def unions
    (words : List String) (operand : String → Parser Body) (left : Body) : Nat → Parser Body
  | 0 => pure left
  | rounds + 1 => do
      match ← anyKeyword? words with
      | some word =>
          let mode ← unionMode
          let right ← operand word
          unions words operand ⟨phrase [left.text, word, mode, right.text], none⟩ rounds
      | none => pure left

def intersections : Parser Body := do
  unions ["INTERSECT"] (fun _ => primary below) (← primary below) (← read).bound

def wholeBody : Parser Body := do
  let operand word := if word == "INTERSECT" then primary below else intersections below
  unions ["UNION", "EXCEPT", "MINUS", "INTERSECT"] operand (← primary below) (← read).bound

def commonTable : Parser String := do
  let name ← identifier
  let columns ← if ← atKeyword "AS" then pure "" else OtherName.tableColumns?
  keyword "AS"
  let mode ←
    if (← dialect) == .postgres then
      if ← keyword? "MATERIALIZED" then pure "MATERIALIZED"
      else if ← keywords? ["NOT", "MATERIALIZED"] then pure "NOT MATERIALIZED"
      else pure ""
    else pure ""
  let query ← parenthesized below.query
  let from_ ← behind? "FROM" (Ident.text <$> identifier)
  pure (phrase [name.text, columns, "AS", mode, "(" ++ query.text ++ ")", clause "FROM" from_])

def commonTables : Parser String := do
  let recursive := wordIf (← keyword? "RECURSIVE") "RECURSIVE"
  let tables ← commaSeparated (commonTable below)
  pure (phrase ["WITH", recursive, commaList tables])

def interpolation : Parser String := do
  let column ← identifier
  let value ← behind? "AS" below.expressionText
  pure (phrase [column.text, clause "AS" value])

def order? : Parser (Option String) := do
  if ← keywords? ["ORDER", "BY"] then
    let items ← below.orderItems
    let filled ←
      if ← among [.oracle] (keyword? "INTERPOLATE") then
        if ← atSymbol "(" then
          let columns ← parenthesized (commaSeparatedBefore (interpolation below) ")")
          pure ("INTERPOLATE (" ++ commaList columns ++ ")")
        else pure "INTERPOLATE"
      else pure ""
    pure (some (phrase ["ORDER BY", items, filled]))
  else pure none

def offset : Parser String := do
  let count ← below.expressionText
  pure (phrase ["OFFSET", count, (← anyKeyword? ["ROW", "ROWS"]).getD ""])

/-- The limits on the rows.  A limit on nothing is none. -/
def limit? : Parser (Option String) := do
  let dialect ← dialect
  let early ← behind? "OFFSET" (offset below)
  if ← keyword? "LIMIT" then
    let count ← if ← keyword? "ALL" then pure none else some <$> below.expressionText
    if ← onlyIf (early.isNone && count.isSome) (among [.mysql, .sqlite, .oracle] (symbol? ",")) then
      return some ("LIMIT " ++ count.getD "" ++ ", " ++ (← below.expressionText))
    else
      let by_ ←
        if dialect == .oracle then behind? "BY" below.expressionList else pure none
      let late ← if early.isNone then behind? "OFFSET" (offset below) else pure none
      let skipped := early <|> late
      if count.isNone && skipped.isNone && by_.isNone then pure none
      else pure (some (phrase [clause "LIMIT" count, skipped.getD "", clause "BY" by_]))
  else pure early

def fetched : Parser String := do
  let _ ← anyKeyword? ["FIRST", "NEXT"]
  let quantity ←
    if (← anyKeyword? ["ROW", "ROWS"]).isSome then pure ""
    else
      let quantity ← value
      let percent := wordIf (← keyword? "PERCENT") "PERCENT"
      let _ ← anyKeyword? ["ROW", "ROWS"]
      pure (phrase [quantity, percent])
  let extent ←
    if ← keyword? "ONLY" then pure "ONLY"
    else if ← keywords? ["WITH", "TIES"] then pure "WITH TIES"
    else pure "ONLY"
  pure (phrase ["FETCH FIRST", quantity, "ROWS", extent])

/-! ## Locks and documents -/

def quotedName : Parser String := do
  return "('" ++ (← parenthesized stringLiteral) ++ "')"

/-- Options with commas in front of them.  A comma with no option behind it is passed over. -/
def documentOptions (option : Parser (Option (String × String))) :
    Parser (List (String × String)) := do
  let options ← many do
    if ← symbol? "," then some <$> option else pure none
  pure (options.filterMap id)

def optionsText (kinds : List String) (options : List (String × String)) : String :=
  String.join (kinds.filterMap fun kind =>
    (options.reverse.lookup kind).map fun text => ", " ++ text)

def markup : Parser String := do
  let named word : Parser String := do
    if ← atSymbol "(" then return word ++ (← quotedName) else pure word
  let shape ←
    match ← anyKeyword? ["RAW", "AUTO", "EXPLICIT", "PATH"] with
    | some "RAW" => named "RAW"
    | some "PATH" => named "PATH"
    | some word => pure word
    | none => throw (.unsupported "Expected FOR XML [RAW | AUTO | EXPLICIT | PATH ]" none)
  let options ← documentOptions do
    match ← anyKeyword? ["ELEMENTS", "BINARY", "ROOT", "TYPE"] with
    | some "BINARY" =>
        keyword "BASE64"
        pure (some ("BINARY", "BINARY BASE64"))
    | some "ROOT" => return some ("ROOT", "ROOT" ++ (← quotedName))
    | some word => pure (some (word, word))
    | none => pure none
  pure ("FOR XML " ++ shape ++ optionsText ["BINARY", "TYPE", "ROOT", "ELEMENTS"] options)

def json : Parser String := do
  let shape ←
    match ← anyKeyword? ["AUTO", "PATH"] with
    | some word => pure word
    | none => throw (.unsupported "Expected FOR JSON [AUTO | PATH ]" none)
  let options ← documentOptions do
    match ← anyKeyword? ["ROOT", "INCLUDE_NULL_VALUES", "WITHOUT_ARRAY_WRAPPER"] with
    | some "ROOT" => return some ("ROOT", "ROOT" ++ (← quotedName))
    | some word => pure (some (word, word))
    | none => pure none
  pure ("FOR JSON " ++ shape ++
    optionsText ["ROOT", "INCLUDE_NULL_VALUES", "WITHOUT_ARRAY_WRAPPER"] options)

/-- How rows are locked, behind `FOR`. -/
def lock : Parser String := do
  let mode ← anyKeyword ["UPDATE", "SHARE"]
  let of_ ← behind? "OF" (QualifiedName.text <$> qualifiedName)
  let wait ←
    if ← keyword? "NOWAIT" then pure "NOWAIT"
    else if ← keywords? ["SKIP", "LOCKED"] then pure "SKIP LOCKED"
    else pure ""
  pure (phrase ["FOR", mode, clause "OF" of_, wait])

def locksTail (read : List String) : Nat → Parser (List String × Option String)
  | 0 => pure (read.reverse, none)
  | rounds + 1 => do
      if ← keyword? "FOR" then
        match ← anyKeyword? ["XML", "JSON", "BROWSE"] with
        | some "XML" => return (read.reverse, some (← markup))
        | some "JSON" => return (read.reverse, some (← json))
        | some _ => pure (read.reverse, some "FOR BROWSE")
        | none => locksTail ((← lock) :: read) rounds
      else pure (read.reverse, none)

def format? : Parser (Option String) := do
  if ← among [.oracle] (keyword? "FORMAT") then
    if ← keyword? "NULL" then pure (some "FORMAT NULL")
    else return some ("FORMAT " ++ (← identifier).text)
  else pure none

/-- A query.  `manipulation` reads a statement that may stand in place of the body behind common
table expressions. -/
def query (manipulation : Parser (Option String)) : Parser Query := do
  let head ← behind? "WITH" (commonTables below)
  match ← manipulation with
  | some text => pure { Query.ofBody ⟨text, none⟩ with head }
  | none =>
      let body ← wholeBody below
      let order ← order? below
      let limit ← limit? below
      let settings ← below.settings?
      let fetch ← behind? "FETCH" fetched
      let (locks, document) ← locksTail [] (← read).bound
      let format ← format?
      pure ⟨head, body, order, limit, settings, fetch, locks, document, format⟩

end SqlPipe.Sql.Query
