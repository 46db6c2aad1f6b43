import SqlPipe.Sql.Grammar.Basic

/-!
# Binding strengths

How strongly operators hold their operands.  Of two operators around an operand the stronger one
takes it, and of two equal ones the left one.
-/

namespace SqlPipe.Sql

/-- The classes of operators by strength. -/
inductive Binding
  | period
  | castMark
  | bracket
  | collate
  | timeZone
  | product
  | sum
  | exclusiveOr
  | ampersand
  | caret
  | pipe
  | colon
  | between
  | equality
  | like
  | is
  | special
  | negation
  | conjunction
  | disjunction
  | none
  deriving DecidableEq, Repr

def Binding.strength (dialect : Dialect) : Binding → Nat :=
  if dialect = .postgres then fun
    | .period => 200
    | .castMark => 140
    | .bracket => 130
    | .collate => 120
    | .timeZone => 110
    | .caret => 100
    | .product => 90
    | .sum => 80
    | .exclusiveOr => 75
    | .special | .ampersand | .pipe | .colon => 70
    | .between | .like => 60
    | .equality => 50
    | .is => 40
    | .negation => 30
    | .conjunction => 20
    | .disjunction => 10
    | .none => 0
  else fun
    | .period => 100
    | .castMark | .bracket => 50
    | .collate => 42
    | .timeZone => 41
    | .product => 40
    | .sum => 30
    | .exclusiveOr => 24
    | .ampersand => 23
    | .caret => 22
    | .pipe | .colon => 21
    | .between | .equality => 20
    | .like => 19
    | .is => 17
    | .special => 16
    | .negation => 15
    | .conjunction => 10
    | .disjunction => 5
    | .none => 0

def geometricOperators : List String :=
  ["?-", "##", "&<", "&>", "?-|", "&<|", "|&>", "<->", "<^", ">^", "?#", "?||", "~=", "<<|", "|>>"]

def comparisons : List String :=
  ["=", "<", "<=", "<>", ">", ">=", "==", "~", "~*", "!~", "!~*", "~~", "~~*", "!~~", "!~~*",
    "<=>", ":="]

def containmentOperators : List String :=
  ["->", "->>", "#>", "#>>", "@>", "<@", "#-", "@?", "@@", "?", "?&", "?|"]

def symbolBinding (dialect : Dialect) (symbol : String) : Binding :=
  if dialect = .postgres && ["!", "&&", "^@", "||", "#", ">>", "<<"].contains symbol then .special
  else if symbol == "[" then .bracket
  else if comparisons.contains symbol then .equality
  else if symbol == "|" || geometricOperators.contains symbol then .pipe
  else if ["^", "#", ">>", "<<"].contains symbol then .caret
  else if symbol == "&" then .ampersand
  else if symbol == "+" || symbol == "-" then .sum
  else if ["*", "/", "//", "%", "||"].contains symbol then .product
  else if ["::", "!", "^@", "&&"].contains symbol then .castMark
  else if containmentOperators.contains symbol then .special
  else .none

def keywordBinding (dialect : Dialect) : List String → Binding
  | "OR" :: _ => .disjunction
  | "AND" :: _ => .conjunction
  | "XOR" :: _ => .exclusiveOr
  | "AT" :: "TIME" :: "ZONE" :: _ => .timeZone
  | "NOT" :: "IN" :: _ => .between
  | "NOT" :: "BETWEEN" :: _ => .between
  | "NOT" :: "NULL" :: _ => .is
  | "NOT" :: next :: _ =>
      if ["LIKE", "ILIKE", "RLIKE", "REGEXP", "MATCH", "SIMILAR", "MEMBER"].contains next then .like
      else .none
  | "NOTNULL" :: _ => if dialect = .postgres || dialect = .sqlite then .is else .none
  | "IS" :: _ => .is
  | word :: _ =>
      if ["IN", "BETWEEN", "OVERLAPS", "OPERATOR"].contains word then .between
      else if ["LIKE", "ILIKE", "RLIKE", "REGEXP", "MATCH", "SIMILAR", "MEMBER"].contains word then
        .like
      else if word == "DIV" then .product
      else if word == "COLLATE" then .collate
      else .none
  | [] => .none

def Parser.nextBinding : Parser Binding := do
  let dialect ← Parser.dialect
  match (← get) with
  | ⟨.symbol symbol, _, _⟩ :: _ => pure (symbolBinding dialect symbol)
  | ⟨.customOperator _, _, _⟩ :: _ => pure .special
  | ⟨.word _ none _, _, _⟩ :: _ =>
      pure (keywordBinding dialect
        [← Parser.peekKeyword, ← Parser.peekKeywordAt 1, ← Parser.peekKeywordAt 2])
  | _ => pure .none

def binaryOperator? (dialect : Dialect) : Token → Option String
  | .customOperator text => some text
  | .symbol symbol =>
      let generous := dialect = .postgres || dialect = .oracle
      if symbol == "==" then some "="
      else if symbol == "<<" || symbol == ">>" || symbol == "&&" || symbol == "^@" then
        if generous then some symbol else none
      else if symbol == "#" then if dialect = .postgres then some symbol else none
      else if comparisons.contains symbol || containmentOperators.contains symbol ||
          geometricOperators.contains symbol ||
          ["+", "-", "*", "/", "//", "%", "||", "|", "&", "^"].contains symbol then some symbol
      else none
  | .word _ none keyword =>
      if ["AND", "OR", "XOR", "OVERLAPS"].contains keyword then some keyword else none
  | _ => none

end SqlPipe.Sql
