import SqlPipe.Sql.Grammar.Basic

/-!
# Values

Literals, the constants that keywords name, and parameters, in normal form.
-/

namespace SqlPipe.Sql

def escapedText (inside : List Char) : List Char :=
  inside.flatMap fun
    | '\x27' => ['\\', '\x27']
    | '\\' => ['\\', '\\']
    | '\n' => ['\\', 'n']
    | '\t' => ['\\', 't']
    | '\r' => ['\\', 'r']
    | c => [c]

/-- Upper-case hexadecimal digits of a number, at least `width` of them. -/
def hexPadded (width n : Nat) : List Char :=
  let digits := (Nat.toDigits 16 n).map Char.toUpper
  List.replicate (width - digits.length) '0' ++ digits

def unicodeText (inside : List Char) : List Char :=
  inside.flatMap fun
    | '\x27' => ['\x27', '\x27']
    | '\\' => ['\\', '\\']
    | c =>
        if c.toNat < 0x80 then [c]
        else if c.toNat ≤ 0xFFFF then '\\' :: hexPadded 4 c.toNat
        else '\\' :: '+' :: hexPadded 6 c.toNat

def literalText (kind : Literal) (inside : String) : String :=
  match kind with
  | .single => betweenQuotes '\x27' inside
  | .double => betweenQuotes '\x22' inside
  | .escaped => kind.opening ++ String.ofList (escapedText inside.toList) ++ kind.closing
  | .unicode => kind.opening ++ String.ofList (unicodeText inside.toList) ++ kind.closing
  | _ => kind.opening ++ inside ++ kind.closing

namespace Parser

/-- The insides of the literals that continue a literal.  Some dialects join neighbours, others
only across lines. -/
def continuations : Parser (List String) := do
  let dialect ← dialect
  many do
    match (← get) with
    | ⟨.literal kind inside, _, gap⟩ :: _ =>
        if (kind == .single || kind == .double) &&
            (dialect == .mysql || (dialect == .postgres && gap = .line)) then
          advance
          pure (some inside)
        else pure none
    | _ => pure none

def parameterName : Parser String := do
  match (← get) with
  | ⟨.word value _ _, _, .none⟩ :: _ =>
      advance
      pure value
  | ⟨.number digits false, _, .none⟩ :: _ =>
      advance
      pure digits
  | _ => expected "placeholder"

def value : Parser String := do
  let dialect ← dialect
  match (← get) with
  | ⟨.word value quote keyword, _, _⟩ :: _ =>
      if dialect != .sqlServer && (keyword == "TRUE" || keyword == "FALSE") then
        advance
        pure (if keyword == "TRUE" then "true" else "false")
      else if keyword == "NULL" then
        advance
        pure "NULL"
      else
        match quote with
        | some '\x22' =>
            advance
            pure (betweenQuotes '\x22' value)
        | some _ => expected "A value?"
        | none => expected "a concrete value"
  | ⟨.number digits long, _, _⟩ :: _ =>
      advance
      pure (Token.text (.number digits long))
  | ⟨.literal kind inside, _, _⟩ :: _ =>
      advance
      if kind == .single || kind == .double then
        return literalText kind (String.join (inside :: (← continuations)))
      else pure (literalText kind inside)
  | ⟨.dollar tag inside, _, _⟩ :: _ =>
      advance
      pure (Token.text (.dollar tag inside))
  | ⟨.placeholder text, _, _⟩ :: _ =>
      advance
      pure text
  | ⟨.symbol mark, _, _⟩ :: _ =>
      if mark == ":" || mark == "@" then
        advance
        return mark ++ (← parameterName)
      else expected "a value"
  | _ => expected "a value"

def numberOrParameter : Parser String := do
  let tokens ← get
  let text ← value
  match tokens with
  | ⟨.number .., _, _⟩ :: _ | ⟨.placeholder _, _, _⟩ :: _ | ⟨.symbol _, _, _⟩ :: _ => pure text
  | _ =>
      set tokens
      expected "literal number"

def stringLiteral : Parser String := do
  match (← get) with
  | ⟨.word value (some '\x22') _, _, _⟩ :: _ =>
      advance
      pure value
  | ⟨.literal kind inside, _, _⟩ :: _ =>
      if [.single, .double].contains kind ||
          (kind == .escaped && [.postgres, .oracle].contains (← dialect)) ||
          kind == .unicode then
        advance
        pure inside
      else expected "literal string"
  | _ => expected "literal string"

end Parser

end SqlPipe.Sql
