import SqlPipe.Sql.Grammar.DataType

/-!
# Other names

A column or a table may be given another name, with or without `AS` in front of it.  A name without
`AS` must not be a word with which the text around it goes on.
-/

namespace SqlPipe.Sql

/-- Another name for something. -/
structure OtherName where
  /-- `AS` stands in front of it. -/
  explicit : Bool
  ident : Ident

namespace OtherName

open SqlPipe.Sql.Parser

def text (name : OtherName) : String :=
  phrase [wordIf name.explicit "AS", name.ident.text]

def endingBoth : List String :=
  ["WITH", "EXPLAIN", "ANALYZE", "SELECT", "WHERE", "GROUP", "SORT", "HAVING", "ORDER", "TOP",
    "LATERAL", "VIEW", "LIMIT", "OFFSET", "FETCH", "UNION", "EXCEPT", "INTERSECT", "MINUS",
    "CLUSTER", "DISTRIBUTE", "RETURNING", "FROM", "END"]

def endingColumn : List String := endingBoth ++ ["EXCLUDE", "INTO"]

def endingTable : List String :=
  endingBoth ++
    ["PIVOT", "UNPIVOT", "ON", "JOIN", "INNER", "CROSS", "FULL", "LEFT", "RIGHT", "NATURAL",
      "USING", "GLOBAL", "ANTI", "SEMI", "OUTPUT", "ASOF", "MATCH_CONDITION", "OUTER", "SET",
      "QUALIFY", "WINDOW", "FOR", "PARTITION", "PREWHERE", "SETTINGS", "FORMAT", "START",
      "CONNECT", "MATCH_RECOGNIZE", "SAMPLE", "TABLESAMPLE", "OPEN"]

def namesColumn (dialect : Dialect) (explicit : Bool) (word : String) : Bool :=
  explicit || !(endingColumn.contains word ||
    (dialect == .sqlServer && ["IF", "ELSE"].contains word))

def namesTable (dialect : Dialect) (explicit : Bool) (word : String) : Bool :=
  explicit || !(endingTable.contains word ||
    (dialect == .mysql && ["USE", "IGNORE", "FORCE", "STRAIGHT_JOIN"].contains word))

/-- Another name, when one comes next.  `names` tells of a word, behind `AS` or not, whether it is
one; quoted text always is. -/
def read? (names : Bool → String → Bool) : Parser (Option OtherName) := do
  let explicit ← keyword? "AS"
  let taken value quote := do
    advance
    pure (some ⟨explicit, ⟨value, quote⟩⟩)
  let none_ := if explicit then expected "an identifier after AS" else pure none
  match (← get) with
  | ⟨.word value quote keyword, _, _⟩ :: _ =>
      if names explicit keyword then taken value quote else none_
  | ⟨.literal .single inside, _, _⟩ :: _ => taken inside (some '\x27')
  | ⟨.literal .double inside, _, _⟩ :: _ => taken inside (some '\x22')
  | _ => none_

def ofColumn? : Parser (Option OtherName) := do read? (namesColumn (← dialect))

def tableColumns? : Parser String := do
  if ← atSymbol "(" then
    let columns ← parenthesized (commaSeparated do
      let column ← identifier
      let type ← maybe dataType
      pure (phrase [column.text, (type.map DataType.text).getD ""]))
    pure ("(" ++ commaList columns ++ ")")
  else pure ""

def ofTable? : Parser String := do
  match ← read? (namesTable (← dialect)) with
  | some name => return phrase [name.text, ← tableColumns?]
  | none => pure ""

end OtherName

end SqlPipe.Sql
