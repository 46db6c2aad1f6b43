import SqlPipe.Sql.Grammar.SpecialForm

/-!
# Expressions

An expression begins with an operand, goes on with the fields and elements of it, and then with
operators that bind more strongly than what stands in front of it.
-/

namespace SqlPipe.Sql.Expression

open SqlPipe.Sql.Parser

variable (below : Productions)

def prefixText (operator operand : String) : String :=
  if ["#", "@-@", "@@", "?-", "?|"].contains operator then operator ++ " " ++ operand
  else operator ++ operand

def prefixBinding? (dialect : Dialect) (operator : String) : Option Binding :=
  if operator == "-" || operator == "+" then some .product
  else if operator == "~" then some .sum
  else if ["!!", "|/", "||/", "@"].contains operator then
    if dialect = .postgres then some .sum else none
  else if ["#", "@-@", "@@", "?-", "?|"].contains operator then
    if dialect = .postgres || dialect = .oracle then some .sum else none
  else none

def outerMark : List String := ["(", "+", ")"]

def atOuterMark : Parser Bool := do
  if (← dialect) == .sqlServer then atSymbols outerMark else pure false

def named (ident : Ident) : Parser Expr := do
  if ← atOuterMark then return ⟨ident.text, .name⟩
  match (← get) with
  | ⟨.symbol "(", _, _⟩ :: _ => Call.call below ident.text
  | ⟨.literal kind inside, _, _⟩ :: _ =>
      if ident.value.startsWith "_" && [.single, .double, .hex].contains kind then
        advance
        pure (.plain (ident.text ++ " " ++ literalText kind inside))
      else pure ⟨ident.text, .name⟩
  | _ => pure ⟨ident.text, .name⟩

def typedLiteral (operand : Parser Expr) : Parser Expr := do
  match ← dataType with
  | .interval _ => Interval.span below operand
  | .named _ => expected "a literal"
  | .binary text =>
      if (← dialect) == .mysql then
        let operand ← below.expressionText
        pure (.plain ("CAST(" ++ operand ++ " AS BINARY)"))
      else return .plain (text ++ " " ++ (← value))
  | .known text => return .plain (text ++ " " ++ (← value))

def neverNames (dialect : Dialect) : List String :=
  if dialect = .postgres then ["EXISTS", "STRUCT", "TRIM"]
  else ["EXISTS", "INTERVAL", "STRUCT", "TRIM"]

def word (operand : Parser Expr) (ident : Ident) (keyword : String) : Parser Expr := do
  match ← attempt (SpecialForm.announced? below operand ident.text keyword) with
  | .ok (some form) => pure form
  | .ok none => named below ident
  | .error error =>
      if (neverNames (← dialect)).contains keyword then throw error
      else
        match ← attempt (named below ident) with
        | .ok form => pure form
        | .error _ => throw error

def group : Parser Expr := do
  if ← atAnyKeyword ["SELECT", "WITH"] then
    let query ← below.query
    symbol ")"
    pure (.plain ("(" ++ query.text ++ ")"))
  else
    let inside ← below.expressionList
    symbol ")"
    pure (.plain ("(" ++ inside ++ ")"))

def marked (mark : String) : Parser Expr := do
  let dialect ← dialect
  match prefixBinding? dialect mark with
  | some binding =>
      advance
      let operand ← below.expr (binding.strength dialect)
      pure (.plain (prefixText mark operand.text))
  | none =>
      if mark == ":" || mark == "@" then .plain <$> value
      else expected "an expression"

/-- An operand.  Spans of time nest in it without a level of their own, hence the bound. -/
def operand : Nat → Parser Expr
  | 0 => throw .tooDeep
  | rounds + 1 => do
      match ← maybe (typedLiteral below (operand rounds)) with
      | some literal => pure literal
      | none =>
          let dialect ← dialect
          match (← get) with
          | ⟨.word value quote keyword, _, _⟩ :: _ =>
              advance
              word below (operand rounds) ⟨value, quote⟩ keyword
          | ⟨.symbol "(", _, _⟩ :: _ =>
              advance
              group below
          | ⟨.symbol "[", _, _⟩ :: _ =>
              advance
              SpecialForm.array below ""
          | ⟨.symbol "\x7b", _, _⟩ :: _ => SpecialForm.braced below
          | ⟨.symbol mark, _, _⟩ :: _ => marked below mark
          | ⟨.literal kind _, _, _⟩ :: _ =>
              if [.rawSingle, .rawDouble, .rawTripleSingle, .rawTripleDouble].contains kind &&
                  dialect != .oracle then expected "an expression"
              else .plain <$> value
          | ⟨.number .., _, _⟩ :: _ => .plain <$> value
          | ⟨.dollar .., _, _⟩ :: _ => .plain <$> value
          | ⟨.placeholder _, _, _⟩ :: _ => .plain <$> value
          | _ => expected "an expression"

/-! ## Fields and elements -/

def subscript : Parser String := do
  let strength := Binding.colon.strength (← dialect)
  let low? ← if ← symbol? ":" then pure none else some <$> below.expr strength
  let closed ← symbol? "]"
  match low?, closed with
  | some low, true => pure ("[" ++ low.text ++ "]")
  | none, true => pure "[:]"
  | _, false =>
      if low?.isSome then symbol ":"
      let low := (low?.map Expr.text).getD ""
      if ← symbol? "]" then pure ("[" ++ low ++ ":]")
      else
        let high ← below.expr strength
        if ← symbol? "]" then pure ("[" ++ low ++ ":" ++ high.text ++ "]")
        else
          symbol ":"
          if ← symbol? "]" then pure ("[" ++ low ++ ":" ++ high.text ++ "]")
          else
            let stride ← below.expressionText
            symbol "]"
            pure ("[" ++ low ++ ":" ++ high.text ++ ":" ++ stride ++ "]")

def Shape.extend (root next : Shape) : Shape :=
  match root, next with
  | .name, .name => .path
  | .name, .path => .path
  | .path, .name => .path
  | .path, .path => .path
  | .name, .wildcard => .wildcard
  | .path, .wildcard => .wildcard
  | _, _ => .other

def closed (root : Expr) : Parser Expr := do
  if ← atOuterMark then
    modify (List.drop outerMark.length)
    match root.shape with
    | .name | .path => pure (.plain (root.text ++ " (+)"))
    | _ => expected "column identifier before (+)"
  else pure root

def fields (root : Expr) : Nat → Parser Expr
  | 0 => pure root
  | rounds + 1 => do
      let dialect ← dialect
      match (← get) with
      | ⟨.symbol ".", _, _⟩ :: ⟨.symbol "*", _, _⟩ :: _ =>
          if dialect != .postgres then closed root
          else
            modify (List.drop 2)
            match root.shape with
            | .name | .path => pure ⟨root.text ++ ".*", .wildcard⟩
            | _ => expected "an identifier or a '*' after '.'"
      | ⟨.symbol ".", _, _⟩ :: ⟨.literal .single inside, _, _⟩ :: _ =>
          modify (List.drop 2)
          let text := root.text ++ "." ++ Ident.text ⟨inside, some '\x27'⟩
          fields ⟨text, Shape.extend root.shape .name⟩ rounds
      | ⟨.symbol ".", _, _⟩ :: _ =>
          advance
          let field ← below.expr (Binding.period.strength dialect)
          let text := root.text ++ "." ++ field.text
          fields ⟨text, Shape.extend root.shape field.shape⟩ rounds
      | ⟨.symbol "[", _, _⟩ :: _ =>
          advance
          let element ← subscript below
          fields (.plain (root.text ++ element)) rounds
      | _ => closed root

/-! ## Operators -/

/-- What `IS` says of its operand. -/
def isForm (left : Expr) : Parser Expr := do
  let state words := do
    if ← keywords? words then pure (some ("IS " ++ phrase words)) else pure none
  let simple := ["NULL", "TRUE", "FALSE", "UNKNOWN"]
  let word ← peekKeyword
  let next ← peekKeywordAt 1
  let text ←
    if simple.contains word then state [word]
    else if word == "NOT" && simple.contains next then state [word, next]
    else pure none
  match text with
  | some text => pure (.plain (left.text ++ " " ++ text))
  | none =>
      if ← keywords? ["DISTINCT", "FROM"] then
        return .plain (left.text ++ " IS DISTINCT FROM " ++ (← below.expressionText))
      else if ← keywords? ["NOT", "DISTINCT", "FROM"] then
        return .plain (left.text ++ " IS NOT DISTINCT FROM " ++ (← below.expressionText))
      else
        let normalized ← maybe do
          let negated ← keyword? "NOT"
          let form := (← anyKeyword? ["NFC", "NFD", "NFKC", "NFKD"]).getD ""
          keyword "NORMALIZED"
          pure (phrase ["IS", if negated then "NOT" else "", form, "NORMALIZED"])
        match normalized with
        | some text => pure (.plain (left.text ++ " " ++ text))
        | none =>
            expected "[NOT] NULL | TRUE | FALSE | DISTINCT | [form] NORMALIZED FROM after IS"

def membership (left : String) : Parser Expr := do
  if ← keyword? "UNNEST" then
    let array ← parenthesized below.expressionText
    pure (.plain (left ++ " IN UNNEST(" ++ array ++ ")"))
  else
    symbol "("
    let inside ←
      match ← maybe below.query with
      | some query => pure query.text
      | none =>
          if (← dialect) == .sqlite then
            commaList <$> commaSeparatedBefore below.expressionText ")"
          else below.expressionList
    symbol ")"
    pure (.plain (left ++ " IN (" ++ inside ++ ")"))

def patternMatch (left word : String) : Parser Expr := do
  let any := (← keyword? "ANY")
  let pattern ← below.expr (Binding.like.strength (← dialect))
  let escape ← behind? "ESCAPE" value
  pure (.plain (phrase [left, word, if any then "ANY" else "", pattern.text,
    clause "ESCAPE" escape]))

/-- What may follow `NOT` between operands, or stand there alone. -/
def negatable (left : Expr) : Parser Expr := do
  let dialect ← dialect
  let operand := left.text
  let left ← if ← keyword? "NOT" then pure (operand ++ " NOT") else pure operand
  match ← anyKeyword? ["REGEXP", "RLIKE", "NULL", "IN", "BETWEEN", "LIKE", "ILIKE"] with
  | some "IN" => membership below left
  | some "BETWEEN" =>
      let strength := Binding.between.strength dialect
      let low ← below.expr strength
      keyword "AND"
      let high ← below.expr strength
      pure (.plain (phrase [left, "BETWEEN", low.text, "AND", high.text]))
  | some "LIKE" => patternMatch below left "LIKE"
  | some "ILIKE" => patternMatch below left "ILIKE"
  | some "NULL" => pure (.plain (operand ++ " IS NOT NULL"))
  | some word =>
      let pattern ← below.expr (Binding.like.strength dialect)
      pure (.plain (phrase [left, word, pattern.text]))
  | none =>
      if ← keywords? ["SIMILAR", "TO"] then
        let pattern ← below.expr (Binding.like.strength dialect)
        let escape ← behind? "ESCAPE" value
        pure (.plain (phrase [left, "SIMILAR TO", pattern.text, clause "ESCAPE" escape]))
      else expected "IN or BETWEEN after NOT"

def rightSide (left : Expr) (operator : String) (strength : Nat) : Parser Expr := do
  match ← anyKeyword? ["ANY", "ALL", "SOME"] with
  | some word =>
      if !(← atSymbol "(") then symbol "("
      let asQuery := ["SELECT", "WITH"].contains (← peekKeywordAt 1)
      let right ←
        if asQuery then Expr.text <$> below.expr strength
        else
          let inside ← parenthesized (below.expr strength)
          pure ("(" ++ inside.text ++ ")")
      if ["=", "<", "<=", "<>", ">", ">=", "~", "~*", "!~", "!~*", "~~", "~~*", "!~~",
          "!~~*"].contains operator then
        pure (.plain (left.text ++ " " ++ operator ++ " " ++ word ++ right))
      else
        unsupported ("Expected one of [=, >, <, =>, =<, !=, ~, ~*, !~, !~*, ~~, ~~*, !~~, !~~*] " ++
          "as comparison operator, found: " ++ operator)
  | none =>
      let right ← below.expr strength
      let text := left.text ++ " " ++ operator ++ " " ++ right.text
      match left.shape, operator with
      | .name, "=" => pure ⟨text, .equation left.text right.text⟩
      | _, _ => pure (.plain text)

/-- The name of an operator between the parentheses behind `OPERATOR`. -/
def operatorName (text : String) : Nat → Parser String
  | 0 => pure text
  | rounds + 1 => do
      match (← get) with
      | located :: _ =>
          advance
          let text := text ++ located.token.text
          if ← symbol? "." then operatorName (text ++ ".") rounds
          else
            symbol ")"
            pure (text ++ ")")
      | [] =>
          symbol ")"
          pure text

def dialectOperator? (left : Expr) : Parser (Option Expr) := do
  let dialect ← dialect
  let keyword ← peekKeyword
  if dialect == .mysql && keyword == "DIV" then
    advance
    let right ← operand below (← read).bound
    pure (some (.plain (left.text ++ " DIV " ++ right.text)))
  else if dialect == .sqlite && (keyword == "REGEXP" || keyword == "MATCH") then
    advance
    let right ← below.expressionText
    pure (some (.plain (left.text ++ " " ++ keyword ++ " " ++ right)))
  else pure none

def operated (left : Expr) (strength : Nat) : Parser Expr := do
  let dialect ← dialect
  match ← dialectOperator? below left with
  | some form => pure form
  | none =>
      match (← get) with
      | ⟨token, place, _⟩ :: _ =>
          match binaryOperator? dialect token with
          | some operator =>
              advance
              rightSide below left operator strength
          | none =>
              let none_ := throw
                (.unsupported ("No infix parser for token " ++ token.text) (some place))
              match token with
              | .symbol "::" =>
                  advance
                  return .plain (left.text ++ "::" ++ (← dataType).text)
              | .symbol "!" =>
                  if dialect == .postgres then
                    advance
                    pure (.plain (left.text ++ "!"))
                  else none_
              | .word _ _ keyword =>
                  match keyword with
                  | "IS" =>
                      advance
                      isForm below left
                  | "AT" =>
                      advance
                      keywords ["TIME", "ZONE"]
                      let zone ← below.expr strength
                      pure (.plain (left.text ++ " AT TIME ZONE " ++ zone.text))
                  | "NOT" | "IN" | "BETWEEN" | "LIKE" | "ILIKE" | "SIMILAR" | "REGEXP"
                  | "RLIKE" => negatable below left
                  | "NOTNULL" =>
                      advance
                      pure (.plain (left.text ++ " IS NOT NULL"))
                  | "MEMBER" =>
                      advance
                      if ← keyword? "OF" then
                        let array ← parenthesized below.expressionText
                        pure (.plain (left.text ++ " MEMBER OF(" ++ array ++ ")"))
                      else expected "OF after MEMBER"
                  | "COLLATE" =>
                      advance
                      return .plain (left.text ++ " COLLATE " ++ (← qualifiedName).text)
                  | "OPERATOR" =>
                      if dialect == .postgres || dialect == .oracle then
                        advance
                        symbol "("
                        let name ← operatorName "OPERATOR(" (← read).bound
                        rightSide below left name strength
                      else none_
                  | _ => none_
              | _ => none_
      | [] => expected "an operator"

def operators (left : Expr) (strength : Nat) : Nat → Parser Expr
  | 0 => pure left
  | rounds + 1 => do
      let next := (← nextBinding).strength (← dialect)
      if next ≤ strength then pure left
      else
        let left ← operated below left next
        operators left strength rounds

def expression (strength : Nat) : Parser Expr := do
  let bound := (← read).bound
  let first ← operand below bound
  let whole ← fields below first bound
  let collated ←
    if ← keyword? "COLLATE" then
      pure (.plain (whole.text ++ " COLLATE " ++ (← qualifiedName).text))
    else pure whole
  operators below collated strength bound

end SqlPipe.Sql.Expression
