import SqlPipe.Sql.Grammar.Call
import SqlPipe.Sql.Grammar.OtherName

/-!
# Table functions

Tables that are made from values: the elements of arrays, and the parts of documents.
-/

namespace SqlPipe.Sql.TableFunction

open SqlPipe.Sql.Parser

variable (below : Productions)

def plain (front : String) : Parser Relation := do
  pure ⟨front, ← OtherName.ofTable?, "", false⟩

/-- The value of an expression as a table, behind `TABLE`. -/
def value : Parser Relation := do
  let inside ← parenthesized below.expressionText
  plain ("TABLE(" ++ inside ++ ")")

def arguments (written : List String) : Nat → Parser String
  | 0 => expected ")"
  | rounds + 1 => do
      let closed texts := do
        symbol ")"
        pure ("(" ++ commaList (List.reverse texts) ++ ")")
      match ← below.settings? with
      | some settings => closed (settings :: written)
      | none =>
          let argument ← Call.argument below
          if ← symbol? "," then arguments (argument :: written) rounds
          else closed (argument :: written)

def arguments? : Parser String := do
  if ← symbol? "(" then
    if ← symbol? ")" then pure "()" else arguments below [] (← read).bound
  else pure ""

/-- A function that may see the tables in front of it, behind `LATERAL`. -/
def lateral : Parser Relation := do
  let name ← qualifiedName
  symbol "("
  let inside ← commaSeparatedBefore (Call.argument below) ")"
  symbol ")"
  plain ("LATERAL " ++ name.text ++ "(" ++ commaList inside ++ ")")

/-- The mark of an element's place in its array.  A lone `WITH` says nothing. -/
def offset? : Parser String := do
  if ← keyword? "WITH" then
    if ← keyword? "OFFSET" then
      let reserved := OtherName.endingColumn
      match ← OtherName.read? fun explicit word => explicit || !reserved.contains word with
      | some name => pure ("WITH OFFSET AS " ++ name.ident.text)
      | none => pure "WITH OFFSET"
    else pure ""
  else pure ""

/-- The elements of arrays, behind `UNNEST`. -/
def elements : Parser Relation := do
  let arrays ← parenthesized below.expressionList
  let ordinality := wordIf (← keywords? ["WITH", "ORDINALITY"]) "WITH ORDINALITY"
  let name ← OtherName.ofTable?
  pure ⟨phrase ["UNNEST(" ++ arrays ++ ")", ordinality], name, ← offset?, false⟩

/-! ## Documents -/

def fallback? : Parser (Option (String × Bool)) := do
  let text? ←
    match ← anyKeyword? ["NULL", "ERROR", "DEFAULT"] with
    | some "DEFAULT" => (some ∘ ("DEFAULT " ++ ·)) <$> Parser.value
    | other => pure other
  match text? with
  | none => pure none
  | some text =>
      keyword "ON"
      let missing ← keyword? "EMPTY"
      unless missing do keyword "ERROR"
      pure (some (text, missing))

def fallbackText (fallbacks : List (String × Bool)) (missing : Bool) : String :=
  match (fallbacks.filter (·.2 == missing)).getLast? with
  | some (text, _) => text ++ if missing then " ON EMPTY" else " ON ERROR"
  | none => ""

def documentColumn : Nat → Parser String
  | 0 => throw .tooDeep
  | rounds + 1 => do
      if ← keyword? "NESTED" then
        let _ ← keyword? "PATH"
        let path ← Parser.value
        keyword "COLUMNS"
        let columns ← parenthesized (commaSeparated (documentColumn rounds))
        pure ("NESTED PATH " ++ path ++ " COLUMNS (" ++ commaList columns ++ ")")
      else
        let name ← identifier
        if ← keyword? "FOR" then
          keyword "ORDINALITY"
          pure (name.text ++ " FOR ORDINALITY")
        else
          let type ← dataType
          let exists_ := wordIf (← keyword? "EXISTS") "EXISTS"
          keyword "PATH"
          let path ← Parser.value
          let fallbacks ← many fallback?
          pure (phrase [name.text, type.text, exists_, "PATH", path, fallbackText fallbacks true,
            fallbackText fallbacks false])

/-- The rows of a document, behind `JSON_TABLE`. -/
def documentRows : Parser Relation := do
  symbol "("
  let document ← below.expressionText
  symbol ","
  let path ← Parser.value
  keyword "COLUMNS"
  let bound := (← read).bound
  let columns ← parenthesized (commaSeparated (documentColumn bound))
  symbol ")"
  plain ("JSON_TABLE(" ++ document ++ ", " ++ path ++ " COLUMNS(" ++ commaList columns ++ "))")

def openedColumn : Parser String := do
  let name ← identifier
  let type ← dataType
  let path ← match (← get) with
    | ⟨.literal .single inside, _, _⟩ :: _ =>
        advance
        pure (betweenQuotes '\x27' inside)
    | _ => pure ""
  let nested ← keyword? "AS"
  if nested then keyword "JSON"
  pure (phrase [name.text, type.text, path, wordIf nested "AS JSON"])

/-- An opened document, behind `OPENJSON`. -/
def opened : Parser Relation := do
  symbol "("
  let document ← below.expressionText
  let path ← if ← symbol? "," then some <$> Parser.value else pure none
  symbol ")"
  let columns ← behind? "WITH" (parenthesized (commaSeparated openedColumn))
  let columns := columns.map fun columns => "(" ++ commaList columns ++ ")"
  plain (phrase ["OPENJSON(" ++ commaList (document :: path.toList) ++ ")", clause "WITH" columns])

def passed : Parser String := do
  let byValue ← if ← keyword? "BY" then keyword? "VALUE" else pure false
  let value ← below.expressionText
  let name ← behind? "AS" (Ident.text <$> identifier)
  pure (phrase [wordIf byValue "BY VALUE", value, clause "AS" name])

def markupColumn : Parser String := do
  let name ← identifier
  if ← keyword? "FOR" then
    keyword "ORDINALITY"
    pure (name.text ++ " FOR ORDINALITY")
  else
    let type ← dataType
    let path ← behind? "PATH" below.expressionText
    let otherwise_ ← behind? "DEFAULT" below.expressionText
    let required ← keywords? ["NOT", "NULL"]
    unless required do
      let _ ← keyword? "NULL"
    pure (phrase [name.text, type.text, clause "PATH" path, clause "DEFAULT" otherwise_,
      wordIf required "NOT NULL"])

def markupNamespace : Parser String := do
  let place ← below.expressionText
  keyword "AS"
  return place ++ " AS " ++ (← identifier).text

/-- The rows of a marked-up document, behind `XMLTABLE`. -/
def markupRows : Parser Relation := do
  symbol "("
  let spaces ←
    behind? "XMLNAMESPACES" (parenthesized (commaSeparated (markupNamespace below)) <* symbol ",")
  let row ← below.expressionText
  let passing ← behind? "PASSING" (commaList <$> commaSeparated (passed below))
  keyword "COLUMNS"
  let columns ← commaSeparated (markupColumn below)
  symbol ")"
  let spaces := match spaces with
    | some spaces => "XMLNAMESPACES(" ++ commaList spaces ++ "), "
    | none => ""
  plain ("XMLTABLE(" ++ spaces ++
    phrase [row, clause "PASSING" passing, "COLUMNS", commaList columns] ++ ")")

end SqlPipe.Sql.TableFunction
