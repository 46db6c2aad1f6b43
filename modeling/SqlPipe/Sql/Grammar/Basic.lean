import SqlPipe.Dialect
import SqlPipe.Sql.Phrase
import SqlPipe.Sql.SyntaxError
import SqlPipe.Text.Numeral

/-!
# Reading phrases

A parser takes tokens from the front of a list and yields a result, or refuses with a syntax error.
Repetition is bounded by the number of tokens of the whole text, which no repetition can reach,
because each round takes a token.
-/

namespace SqlPipe.Sql

/-- What all parsers of one text share. -/
structure Context where
  dialect : Dialect
  bound : Nat
  /-- `PRIOR` is an operator, because the rows of a hierarchy are being related. -/
  hierarchical : Bool := false

/-- A reader of phrases. -/
abbrev Parser := ReaderT Context (StateT (List Located) (Except SyntaxError))

namespace Parser

def dialect : Parser Dialect := return (← read).dialect

def peek? : Parser (Option Located) := return (← get).head?

/-- The token after `n` tokens, which stays. -/
def peekAt? (n : Nat) : Parser (Option Token) :=
  return (← get)[n]?.map Located.token

def advance : Parser Unit := modify List.tail

def expected {α : Type} (what : String) : Parser α := do
  throw (.expected what (← peek?))

def unsupported {α : Type} (reason : String) : Parser α := do
  throw (.unsupported reason ((← peek?).map Located.place))

def peekKeyword : Parser String :=
  return match (← get) with
    | located :: _ => located.token.keyword
    | [] => ""

/-- The keyword of the token after `n` tokens. -/
def peekKeywordAt (n : Nat) : Parser String :=
  return match ← peekAt? n with
    | some token => token.keyword
    | none => ""

def atKeyword (keyword : String) : Parser Bool :=
  return (← peekKeyword) == keyword

def atAnyKeyword (keywords : List String) : Parser Bool :=
  return keywords.contains (← peekKeyword)

def keyword? (keyword : String) : Parser Bool := do
  if (← peekKeyword) == keyword then
    advance
    pure true
  else pure false

def beginsWith : List String → List Located → Bool
  | [], _ => true
  | _ :: _, [] => false
  | keyword :: keywords, located :: rest =>
      located.token.keyword == keyword && beginsWith keywords rest

def keywords? (keywords : List String) : Parser Bool := do
  if beginsWith keywords (← get) then
    modify (List.drop keywords.length)
    pure true
  else pure false

def anyKeyword? (keywords : List String) : Parser (Option String) := do
  let keyword ← peekKeyword
  if keywords.contains keyword then
    advance
    pure (some keyword)
  else pure none

def keyword (keyword : String) : Parser Unit := do
  unless ← keyword? keyword do
    expected keyword

def keywords (keywords : List String) : Parser Unit := keywords.forM keyword

def anyKeyword (keywords : List String) : Parser String := do
  match ← anyKeyword? keywords with
  | some keyword => pure keyword
  | none => expected ("one of " ++ " or ".intercalate keywords)

def atSymbol (symbol : String) : Parser Bool :=
  return match (← get) with
    | located :: _ => located.token == .symbol symbol
    | [] => false

def symbol? (symbol : String) : Parser Bool := do
  if ← atSymbol symbol then
    advance
    pure true
  else pure false

def symbol (symbol : String) : Parser Unit := do
  unless ← symbol? symbol do
    expected symbol

def atSymbols (symbols : List String) : Parser Bool :=
  return ((← get).take symbols.length).map Located.token == symbols.map Token.symbol

def symbols? (symbols : List String) : Parser Bool := do
  if ← atSymbols symbols then
    modify (List.drop symbols.length)
    pure true
  else pure false

def atCallOf (keyword : String) : Parser Bool := do
  if (← peekKeyword) == keyword then return (← peekAt? 1) == some (.symbol "(")
  else pure false

def onlyIf (condition : Bool) (test : Parser Bool) : Parser Bool :=
  if condition then test else pure false

def among (dialects : List Dialect) (test : Parser Bool) : Parser Bool := do
  onlyIf (dialects.contains (← dialect)) test

/-- Runs a parser; a refusal takes back what was passed. -/
def attempt {α : Type} (parser : Parser α) : Parser (Except SyntaxError α) :=
  fun context tokens =>
    match parser context tokens with
    | .ok (value, rest) => .ok (.ok value, rest)
    | .error error => .ok (.error error, tokens)

/-- Runs a parser; a refusal other than for depth takes back what was passed. -/
def maybe {α : Type} (parser : Parser α) : Parser (Option α) := do
  match ← attempt parser with
  | .ok value => pure (some value)
  | .error .tooDeep => throw .tooDeep
  | .error _ => pure none

def commaTail {α : Type} (parser : Parser α) (read : List α) : Nat → Parser (List α)
  | 0 => pure read.reverse
  | rounds + 1 => do
      if ← symbol? "," then
        let value ← parser
        commaTail parser (value :: read) rounds
      else pure read.reverse

def commaSeparated {α : Type} (parser : Parser α) : Parser (List α) := do
  let first ← parser
  commaTail parser [first] (← read).bound

def commaSeparatedBefore {α : Type} (parser : Parser α) (closing : String) :
    Parser (List α) := do
  if ← atSymbol closing then pure [] else commaSeparated parser

def whileSome {α : Type} (parser : Parser (Option α)) (read : List α) : Nat → Parser (List α)
  | 0 => pure read.reverse
  | rounds + 1 => do
      match ← parser with
      | some value => whileSome parser (value :: read) rounds
      | none => pure read.reverse

def many {α : Type} (parser : Parser (Option α)) : Parser (List α) := do
  whileSome parser [] (← read).bound

def parenthesized {α : Type} (parser : Parser α) : Parser α := do
  symbol "("
  let value ← parser
  symbol ")"
  pure value

def behind? {α : Type} (word : String) (parser : Parser α) : Parser (Option α) := do
  if ← keyword? word then some <$> parser else pure none

/-! ## Names -/

/-- An identifier; any word is one. -/
def identifier : Parser Ident := do
  match (← get) with
  | ⟨.word value quote _, _, _⟩ :: _ =>
      advance
      pure ⟨value, quote⟩
  | ⟨.literal .single inside, _, _⟩ :: _ =>
      advance
      pure ⟨inside, some '\x27'⟩
  | ⟨.literal .double inside, _, _⟩ :: _ =>
      advance
      pure ⟨inside, some '\x22'⟩
  | _ => expected "identifier"

/-- The rest of a qualified name.  Where the dialect allows it, the second part may be missing. -/
def nameTail (parts : List Ident) : Nat → Parser QualifiedName
  | 0 => pure parts.reverse
  | rounds + 1 => do
      if ← symbol? "." then
        if ← onlyIf (parts.length == 1) (among [.sqlServer] (symbol? ".")) then
          let part ← identifier
          nameTail (part :: ⟨"", none⟩ :: parts) rounds
        else
          let part ← identifier
          nameTail (part :: parts) rounds
      else pure parts.reverse

def qualifiedName : Parser QualifiedName := do
  let first ← identifier
  nameTail [first] (← read).bound

def columns? (allowEmpty : Bool) : Parser (List Ident) := do
  if ← symbol? "(" then
    if ← onlyIf allowEmpty (symbol? ")") then pure []
    else
      let names ← commaSeparated identifier
      symbol ")"
      pure names
  else pure []

def columns : Parser (List Ident) := parenthesized (commaSeparated identifier)

def qualifiedColumns : Parser (List QualifiedName) := parenthesized (commaSeparated qualifiedName)

/-! ## Numbers -/

def wholeNumber : Parser String := do
  match (← get) with
  | ⟨.number digits false, _, _⟩ :: _ =>
      let refused reason := unsupported ("Could not parse '" ++ digits ++ "' as u64: " ++ reason)
      if !digits.toList.all Char.isDigit then refused "invalid digit found in string"
      else
        let value := digits.toNat?.getD 0
        if value ≤ Text.greatest64 then
          advance
          pure (toString value)
        else refused "number too large to fit in target type"
  | _ => expected "literal int"

end Parser

end SqlPipe.Sql
