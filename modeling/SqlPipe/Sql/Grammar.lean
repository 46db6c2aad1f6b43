import SqlPipe.Sql.Grammar.Expression
import SqlPipe.Sql.Grammar.Statement
import SqlPipe.Sql.Token.Lexer

/-!
# The grammar

The productions of all levels of nesting tied together, and the statements of a text.
-/

namespace SqlPipe.Sql

def Productions.atDepth : Nat → Productions
  | 0 => .exhausted
  | depth + 1 =>
      let below := atDepth depth
      { expr := Expression.expression below
        query := Query.query below (Merge.manipulation? below)
        tableFactor := Table.factor below
        statement := Statement.statement below }

def nestingLimit : Nat := 50

open SqlPipe.Sql.Parser in
/-- Statements separated by semicolons.  `delimited` tells that a statement may follow. -/
def statementList (read : List Tree) (delimited : Bool) : Nat → Parser (List Tree)
  | 0 => pure read.reverse
  | rounds + 1 => do
      if ← symbol? ";" then statementList read true rounds
      else if (← peek?).isNone then pure read.reverse
      else if !delimited && (← peekKeyword) == "END" then pure read.reverse
      else if !delimited then expected "end of statement"
      else
        let tree ← (Productions.atDepth nestingLimit).statement
        statementList (tree :: read) false rounds

def treesOf (dialect : Dialect) (text : String) : Except SyntaxError (List Tree) := do
  let tokens ← tokensOf (Lexicon.of dialect) text
  let bound := tokens.length + 1
  let (trees, _) ← statementList [] true bound { dialect, bound } tokens
  pure trees

end SqlPipe.Sql
