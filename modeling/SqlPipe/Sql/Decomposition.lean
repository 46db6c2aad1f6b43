import SqlPipe.Sql.Grammar

/-!
# Decomposition of inserts

An insert that does no more than append rows is split into its target and its rows.  The target is
written in one way for each dialect, so that inserts into the same columns of the same table have
equal targets.
-/

namespace SqlPipe.Sql

/-- The name that an identifier stands for, without the quotes that it was written in. -/
def Ident.name (ident : Ident) : String :=
  match ident.quote with
  | none => ident.value
  | some quote =>
      let closing := closingQuote quote
      String.ofList (Text.replaceAll [closing, closing] [closing] ident.value.toList)

/-- A name between delimiters, each closing delimiter inside it doubled. -/
def delimited (opening closing : Char) (name : String) : String :=
  String.ofList (opening :: Text.replaceAll [closing] [closing, closing] name.toList ++ [closing])

def Ident.quoted (quoting : Quoting) (ident : Ident) : String :=
  match quoting with
  | .asWritten => ident.text
  | .always opening closing => delimited opening closing ident.name

def QualifiedName.quoted (quoting : Quoting) (name : QualifiedName) : String :=
  ".".intercalate (name.map (Ident.quoted quoting))

/-- The text by which inserts into the same columns of the same table are known.  An insert into a
function has none. -/
def InsertTree.batchTarget? (quoting : Quoting) (tree : InsertTree) : Option String :=
  match tree.target with
  | .function _ => none
  | .table name =>
      let ignoring := if tree.ignoring then "IGNORE " else ""
      let columns :=
        if tree.columns.isEmpty then ""
        else "(" ++ commaList (tree.columns.map (Ident.quoted quoting)) ++ ") "
      some ("INSERT " ++ ignoring ++ "INTO " ++ name.quoted quoting ++ " " ++ columns)

def InsertTree.onlyAppends (tree : InsertTree) : Bool :=
  !tree.replacing && !tree.overwriting && tree.conflict.isNone && tree.priority.isNone &&
    tree.targetName.isNone && tree.partition.isNone && tree.rowName.isNone &&
    tree.onConflict.isNone && tree.returning.isNone

/-- The rows of a query that is no more than a list of them. -/
def Query.plainRows? (query : Query) : Option (List Row) :=
  if query.head.isSome || query.order.isSome || query.limit.isSome then none
  else query.body.rows.filter (!·.isEmpty)

def InsertTree.plainRows? (tree : InsertTree) : Option (List Row) :=
  match tree.source with
  | .query query => if tree.onlyAppends then query.plainRows? else none
  | _ => none

def InsertTree.toInsert? (dialect : Dialect) (tree : InsertTree) : Option Insert :=
  match tree.plainRows?, tree.batchTarget? dialect.quoting with
  | some rows, some target => some ⟨target, rows⟩
  | _, _ => none

def Tree.toInsert? (dialect : Dialect) (tree : Tree) : Option Insert :=
  tree.insert.bind (InsertTree.toInsert? dialect)

def decompose? (dialect : Dialect) (text : String) : Option Insert :=
  match treesOf dialect text with
  | .ok [tree] => tree.toInsert? dialect
  | _ => none

end SqlPipe.Sql
