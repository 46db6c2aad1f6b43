import SqlPipe.Sql.Grammar.Query

/-!
# Manipulations

Inserts, updates and deletions.  An insert is read into its parts, because it may be batched; the
others are read into their normal form.
-/

namespace SqlPipe.Sql.Manipulation

open SqlPipe.Sql.Parser

variable (below : Productions)

/-! ## Parts of manipulations -/

def assignment : Parser String := do
  let target ←
    if ← atSymbol "(" then pure ("(" ++ qualifiedNameList (← qualifiedColumns) ++ ")")
    else QualifiedName.text <$> qualifiedName
  symbol "="
  return target ++ " = " ++ (← below.expressionText)

def assignments : Parser String := commaList <$> commaSeparated (assignment below)

def returning? : Parser (Option String) :=
  behind? "RETURNING" (commaList <$> commaSeparated (Selection.column below))

def conflict? : Parser (Option String) := do
  if ← keyword? "REPLACE" then pure (some "OR REPLACE")
  else if ← atKeyword "OR" then
    let word ← peekKeywordAt 1
    if ["REPLACE", "ROLLBACK", "ABORT", "FAIL", "IGNORE"].contains word then
      modify (List.drop 2)
      pure (some ("OR " ++ word))
    else pure none
  else pure none

/-! ## Inserts -/

def onConflict : Parser String := do
  let target ←
    if ← keywords? ["ON", "CONSTRAINT"] then pure (" ON CONSTRAINT " ++ (← qualifiedName).text)
    else if ← atSymbol "(" then pure ("(" ++ nameList (← columns) ++ ")")
    else pure ""
  keyword "DO"
  let action ←
    if ← keyword? "NOTHING" then pure "DO NOTHING"
    else
      keywords ["UPDATE", "SET"]
      let assignments ← assignments below
      let condition ← behind? "WHERE" below.expressionText
      pure (phrase ["DO UPDATE SET", assignments, clause "WHERE" condition])
  pure ("ON CONFLICT" ++ target ++ " " ++ action)

def onConflict? : Parser (Option String) := do
  if ← keyword? "ON" then
    if ← keyword? "CONFLICT" then some <$> onConflict below
    else
      keywords ["DUPLICATE", "KEY", "UPDATE"]
      return some ("ON DUPLICATE KEY UPDATE " ++ (← assignments below))
  else pure none

def target : Parser InsertTarget := do
  if ← among [.oracle] (keyword? "FUNCTION") then
    let name ← qualifiedName
    return .function (← Call.call below name.text).text
  else .table <$> qualifiedName

def insertHead (replacing : Bool) : Parser InsertTree := do
  let dialect ← dialect
  let generous := dialect == .mysql || dialect == .oracle
  let conflict ← conflict?
  let priority ←
    if generous then anyKeyword? ["LOW_PRIORITY", "DELAYED", "HIGH_PRIORITY"] else pure none
  let ignoring ← if generous then keyword? "IGNORE" else pure false
  let overwriting ← keyword? "OVERWRITE"
  let into ← keyword? "INTO"
  let _ ← keyword? "LOCAL"
  let table ← keyword? "TABLE"
  let target ← target below
  let targetName ←
    if dialect == .postgres then behind? "AS" (Ident.text <$> identifier) else pure none
  pure {
    replacing, conflict, priority, ignoring, overwriting, into, table, target, targetName
    columns := []
    partition := none
    source := .unstated
    rowName := none
    onConflict := none
    returning := none }

def insertSource : Parser InsertSource := do
  if ← atAnyKeyword ["FORMAT", "SETTINGS"] then pure .unstated
  else if ← among [.mysql, .oracle] (keyword? "SET") then
    .assignments <$> assignments below
  else .query <$> below.query

def insertBody (head : InsertTree) : Parser InsertTree := do
  if ← keywords? ["DEFAULT", "VALUES"] then pure head
  else
    let atQuery := (← atSymbol "(") && (← peekKeywordAt 1) == "SELECT"
    let columns ← if atQuery then pure [] else columns? ((← dialect) == .mysql)
    let partition ←
      if atQuery then pure none else behind? "PARTITION" (parenthesized below.expressionList)
    let partition := partition.map fun values => "PARTITION (" ++ values ++ ")"
    pure { head with columns, partition, source := ← insertSource below }

def rowName? : Parser (Option String) := do
  if [.mysql, .oracle].contains (← dialect) then
    behind? "AS" do
      let name ← qualifiedName
      let columns ← columns? false
      pure (phrase [name.text, wordIf (!columns.isEmpty) ("(" ++ nameList columns ++ ")")])
  else pure none

def insert (replacing : Bool) : Parser InsertTree := do
  let tree ← insertBody below (← insertHead below replacing)
  let rowName ← rowName?
  let onConflict ← onConflict? below
  let returning ← returning? below
  pure { tree with rowName, onConflict, returning }

/-! ## Updates and deletions -/

def update : Parser String := do
  let conflict ← conflict?
  let tables ← Table.joined below
  let early ← behind? "FROM" (Table.tables below)
  keyword "SET"
  let assignments ← assignments below
  let late ← if early.isNone then behind? "FROM" (Table.tables below) else pure none
  let condition ← behind? "WHERE" below.expressionText
  let returning ← returning? below
  let limit ← behind? "LIMIT" below.expressionText
  pure (phrase ["UPDATE", conflict.getD "", tables.text, clause "FROM" early, "SET", assignments,
    clause "FROM" late, clause "WHERE" condition, clause "RETURNING" returning,
    clause "LIMIT" limit])

def deletionTables : Parser String := do
  if ← keyword? "FROM" then return "FROM " ++ (← Table.tables below)
  else if (← dialect) == .oracle then Table.tables below
  else
    let names ← commaSeparated qualifiedName
    keyword "FROM"
    return phrase [qualifiedNameList names, "FROM", ← Table.tables below]

def delete : Parser String := do
  let tables ← deletionTables below
  let using_ ← behind? "USING" (Table.tables below)
  let condition ← behind? "WHERE" below.expressionText
  let returning ← returning? below
  let order ← if ← keywords? ["ORDER", "BY"] then some <$> below.orderItems else pure none
  let limit ←
    if ← keyword? "LIMIT" then
      if ← keyword? "ALL" then pure none else some <$> below.expressionText
    else pure none
  pure (phrase ["DELETE", tables, clause "USING" using_, clause "WHERE" condition,
    clause "RETURNING" returning, clause "ORDER BY" order, clause "LIMIT" limit])

end SqlPipe.Sql.Manipulation
