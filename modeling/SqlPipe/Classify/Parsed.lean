import SqlPipe.Classify.Keywords
import SqlPipe.Event
import SqlPipe.Failure
import SqlPipe.Sql.Decomposition

/-!
# Parsed statements

How each dialect tells the class of a statement.  For PostgreSQL the grammar decides, and the
keywords where the grammar leaves the class open or refuses the text; for the other dialects the
keywords alone decide.
-/

namespace SqlPipe.Classify

/-- A statement with its class, and with its tree when a grammar has read it. -/
structure Parsed where
  text : String
  statementClass : StatementClass
  tree : Option Sql.Tree

def classOfTree? (tree : Sql.Tree) : Option StatementClass :=
  match tree.kind with
  | .insert => some (.manipulation .anySession)
  | .classified statementClass => some statementClass
  | .byKeywords => none

/-- The class by grammar.  A text that the grammar refuses keeps its class by keywords; only a text
that has none and is not blank is a failure. -/
def parseByGrammar (dialect : Dialect) (text : String) : Except Failure Parsed × List Event :=
  match Sql.treesOf dialect text with
  | .ok [] => (.ok ⟨text, .unknown, none⟩, [])
  | .ok (first :: others) =>
      -- the first statement tells the class of the text, but only a lone one can be taken apart
      let statementClass := (classOfTree? first).getD (ofKeywords dialect text)
      (.ok ⟨text, statementClass, if others.isEmpty then some first else none⟩, [])
  | .error error =>
      let statementClass := ofKeywords dialect text
      if statementClass = .unknown && !isBlank text.toList then
        (.error (.parse text error.message), [])
      else
        (.ok ⟨text, statementClass, none⟩,
          [⟨.trace, "Grammar rejected statement, keyword table decided: " ++ error.message⟩])

def parseByKeywords (dialect : Dialect) (text : String) : Except Failure Parsed × List Event :=
  let statementClass := ofKeywords dialect text
  (.ok ⟨text, statementClass, none⟩,
    [⟨.trace, "Previewed " ++ dialect.name ++ " statement as " ++ statementClass.describe⟩])

def parse (dialect : Dialect) (text : String) : Except Failure Parsed × List Event :=
  if dialect = .postgres then parseByGrammar dialect text else parseByKeywords dialect text

/-- The target and the rows of a statement that can wait in a batch.  Only manipulations of any
session can. -/
def Parsed.toInsert? (dialect : Dialect) (parsed : Parsed) : Option Insert :=
  if parsed.statementClass = .manipulation .anySession then
    match parsed.tree with
    | some tree => tree.toInsert? dialect
    | none => Sql.decompose? dialect parsed.text
  else none

end SqlPipe.Classify
