import SqlPipe.Insert
import SqlPipe.Statement
import SqlPipe.Sql.Phrase

/-!
# Parsed statements

What the grammar keeps of a statement.  Expressions are kept in their normal form, that is the text
with which they are written again: nothing asks for their parts.  Inserts are kept in the parts by
which they can be batched, and of any other statement only its kind.
-/

namespace SqlPipe.Sql

/-- What an expression is, as far as its surroundings ask. -/
inductive Shape
  | name
  | path
  /-- `*`, or a path that ends in it. -/
  | wildcard
  /-- An identifier, an equals sign and the normal form of an expression. -/
  | equation (left right : String)
  | other

/-- An expression in normal form. -/
structure Expr where
  text : String
  shape : Shape

def Expr.plain (text : String) : Expr := ⟨text, .other⟩

structure Body where
  text : String
  /-- The rows, when the body is a list of rows. -/
  rows : Option (List Row)

/-- A query, clause by clause in normal form. -/
structure Query where
  head : Option String
  body : Body
  order : Option String
  limit : Option String
  settings : Option String
  fetch : Option String
  locks : List String
  document : Option String
  format : Option String

def Query.ofBody (body : Body) : Query :=
  ⟨none, body, none, none, none, none, [], none, none⟩

def Query.text (query : Query) : String :=
  phrase ([query.head.getD "", query.body.text, query.order.getD "", query.limit.getD "",
    query.settings.getD "", query.fetch.getD ""] ++ query.locks ++
    [query.document.getD "", query.format.getD ""])

structure Relation where
  front : String
  otherName : String
  rest : String
  nested : Bool

def Relation.text (relation : Relation) : String :=
  phrase [relation.front, relation.otherName, relation.rest]

inductive InsertTarget
  | table (name : QualifiedName)
  /-- The rows go into a function. -/
  | function (text : String)

def InsertTarget.text : InsertTarget → String
  | table name => name.text
  | function text => text

inductive InsertSource
  | query (query : Query)
  /-- One row, value by value. -/
  | assignments (text : String)
  /-- Nothing is said. -/
  | unstated

/-- An insert in parts.  The parts that nothing asks for are kept in normal form. -/
structure InsertTree where
  replacing : Bool
  /-- What to do on a conflict, in front of the target. -/
  conflict : Option String
  priority : Option String
  ignoring : Bool
  overwriting : Bool
  into : Bool
  table : Bool
  target : InsertTarget
  /-- Another name of the target. -/
  targetName : Option String
  columns : List Ident
  partition : Option String
  source : InsertSource
  /-- Another name of the new row. -/
  rowName : Option String
  /-- What to do on a conflict, behind the rows. -/
  onConflict : Option String
  returning : Option String

def InsertTree.opening (tree : InsertTree) : String :=
  match tree.conflict with
  | some conflict => phrase ["INSERT", conflict, "INTO"]
  | none =>
      phrase [if tree.replacing then "REPLACE" else "INSERT", tree.priority.getD "",
        wordIf tree.ignoring "IGNORE", wordIf tree.overwriting "OVERWRITE",
        wordIf tree.into "INTO", wordIf tree.table "TABLE"]

def InsertTree.sourceText (tree : InsertTree) : String :=
  match tree.source with
  | .query query => query.text
  | .assignments text => "SET " ++ text
  | .unstated => if tree.columns.isEmpty then "DEFAULT VALUES" else ""

def InsertTree.text (tree : InsertTree) : String :=
  phrase [tree.opening, tree.target.text, clause "AS" tree.targetName,
    wordIf (!tree.columns.isEmpty) ("(" ++ nameList tree.columns ++ ")"), tree.partition.getD "",
    tree.sourceText, clause "AS" tree.rowName, tree.onConflict.getD "",
    clause "RETURNING" tree.returning]

inductive StatementKind
  | insert
  /-- The class follows from the grammar alone. -/
  | classified (statementClass : StatementClass)
  /-- The class is left to the keywords. -/
  | byKeywords

structure Tree where
  kind : StatementKind
  insert : Option InsertTree

def Tree.ofClass (statementClass : StatementClass) : Tree := ⟨.classified statementClass, none⟩

def Tree.byKeywords : Tree := ⟨.byKeywords, none⟩

end SqlPipe.Sql
