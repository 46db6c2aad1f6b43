import SqlPipe.Sql.Grammar.Call
import SqlPipe.Sql.Grammar.Operator

/-!
# Special forms

Expressions that a keyword announces and that have a syntax of their own.
-/

namespace SqlPipe.Sql.SpecialForm

open SqlPipe.Sql.Parser

variable (below : Productions)

/-- The branches of a case behind the first `WHEN`. -/
def branches (written : List String) : Nat → Parser (List String)
  | 0 => pure written.reverse
  | rounds + 1 => do
      let condition ← below.expressionText
      keyword "THEN"
      let result ← below.expressionText
      let written := phrase ["WHEN", condition, "THEN", result] :: written
      if ← keyword? "WHEN" then branches written rounds else pure written.reverse

def caseOf : Parser Expr := do
  let operand ←
    if ← keyword? "WHEN" then pure ""
    else
      let operand ← below.expressionText
      keyword "WHEN"
      pure operand
  let branches ← branches below [] (← read).bound
  let otherwise_ ← behind? "ELSE" below.expressionText
  keyword "END"
  pure (.plain (phrase (["CASE", operand] ++ branches ++ [clause "ELSE" otherwise_, "END"])))

def conversion (word : String) : Parser Expr := do
  if (← dialect) == .sqlServer then
    symbol "("
    let type ← dataType
    symbol ","
    let operand ← below.expressionText
    let styles ← if ← symbol? "," then some <$> below.expressionList else pure none
    symbol ")"
    pure (.plain (word ++ "(" ++ commaList ([type.text, operand] ++ styles.toList) ++ ")"))
  else
    symbol "("
    let operand ← below.expressionText
    if ← keyword? "USING" then
      let charset ← qualifiedName
      symbol ")"
      pure (.plain (word ++ "(" ++ operand ++ " USING " ++ charset.text ++ ")"))
    else
      symbol ","
      let type ← dataType
      let charset ←
        if ← keywords? ["CHARACTER", "SET"] then some <$> qualifiedName else pure none
      symbol ")"
      pure (.plain (word ++ "(" ++ commaList
        [operand, phrase [type.text, clause "CHARACTER SET" (charset.map (·.text))]] ++ ")"))

def cast (word : String) : Parser Expr := do
  symbol "("
  let operand ← below.expressionText
  keyword "AS"
  let type ← dataType
  let format ←
    behind? "FORMAT" do
      let format ← value
      if ← keywords? ["AT", "TIME", "ZONE"] then return format ++ " AT TIME ZONE " ++ (← value)
      else pure format
  symbol ")"
  pure (.plain (word ++ "(" ++ phrase [operand, "AS", type.text, clause "FORMAT" format] ++ ")"))

/-- A query between parentheses behind `EXISTS`. -/
def existence : Parser Expr := do
  let query ← parenthesized below.query
  pure (.plain ("EXISTS (" ++ query.text ++ ")"))

/-- A part of a time behind `EXTRACT`. -/
def extraction : Parser Expr := do
  symbol "("
  let field ← Interval.temporalField
  if ← keyword? "FROM" then
    let operand ← below.expressionText
    symbol ")"
    pure (.plain ("EXTRACT(" ++ field ++ " FROM " ++ operand ++ ")"))
  else if ← among [.oracle] (symbol? ",") then
    let operand ← below.expressionText
    symbol ")"
    pure (.plain ("EXTRACT(" ++ field ++ ", " ++ operand ++ ")"))
  else throw (.unsupported "Expected 'FROM' or ','" none)

/-- A rounded value behind `CEIL` or `FLOOR`. -/
def rounding (word : String) : Parser Expr := do
  symbol "("
  let operand ← below.expressionText
  let unit ←
    if ← keyword? "TO" then return .plain (word ++ "(" ++ operand ++ " TO " ++
      (← Interval.temporalField <* symbol ")") ++ ")")
    else if ← symbol? "," then
      match (← get) with
      | ⟨.number .., _, _⟩ :: _ => pure (", " ++ (← value))
      | _ =>
          let _ ← value
          throw (.unsupported "Scale field can only be of number type" none)
    else pure ""
  symbol ")"
  pure (.plain (word ++ "(" ++ operand ++ unit ++ ")"))

def position (name : String) : Parser Expr := do
  let strength := Binding.between.strength (← dialect)
  let form ← maybe do
    symbol "("
    let part ← below.expr strength
    keyword "IN"
    let whole ← below.expressionText
    symbol ")"
    pure (Expr.plain ("POSITION(" ++ part.text ++ " IN " ++ whole ++ ")"))
  match form with
  | some form => pure form
  | none => Call.call below name

def substring (word : String) : Parser Expr := do
  symbol "("
  let operand ← below.expressionText
  let byComma ← symbol? ","
  let from_ ←
    if byComma then some <$> below.expressionText else behind? "FROM" below.expressionText
  let for_ ←
    if ← keyword? "FOR" then some <$> below.expressionText
    else if ← symbol? "," then some <$> below.expressionText
    else pure none
  symbol ")"
  let part word (text : Option String) := match text with
    | some text => if byComma then ", " ++ text else " " ++ word ++ " " ++ text
    | none => ""
  pure (.plain (word ++ "(" ++ operand ++ part "FROM" from_ ++ part "FOR" for_ ++ ")"))

/-- A replaced part behind `OVERLAY`. -/
def overlay : Parser Expr := do
  symbol "("
  let operand ← below.expressionText
  keyword "PLACING"
  let what ← below.expressionText
  keyword "FROM"
  let from_ ← below.expressionText
  let for_ ← behind? "FOR" below.expressionText
  symbol ")"
  pure (.plain ("OVERLAY(" ++
    phrase [operand, "PLACING", what, "FROM", from_, clause "FOR" for_] ++ ")"))

/-- A trimmed text behind `TRIM`. -/
def trimming : Parser Expr := do
  symbol "("
  let side := (← anyKeyword? ["BOTH", "LEADING", "TRAILING"]).getD ""
  let operand ← below.expressionText
  let inside ←
    if ← keyword? "FROM" then return .plain ("TRIM(" ++
      phrase [side, operand, "FROM", ← below.expressionText <* symbol ")"] ++ ")")
    else if ← symbol? "," then
      if (← dialect) == .oracle then
        pure (phrase [side, operand] ++ ", " ++ (← below.expressionList))
      else pure (phrase [side, operand])
    else pure (phrase [side, operand])
  symbol ")"
  pure (.plain ("TRIM(" ++ inside ++ ")"))

def array (word : String) : Parser Expr := do
  let elements ← commaSeparatedBefore below.expressionText "]"
  symbol "]"
  pure (.plain (word ++ "[" ++ commaList elements ++ "]"))

/-- A search in indexed columns behind `MATCH`. -/
def matchAgainst : Parser Expr := do
  let columns ← parenthesized (commaSeparated qualifiedName)
  keyword "AGAINST"
  symbol "("
  let what ← value
  let mode ←
    if ← keywords? ["IN", "NATURAL", "LANGUAGE", "MODE", "WITH", "QUERY", "EXPANSION"] then
      pure "IN NATURAL LANGUAGE MODE WITH QUERY EXPANSION"
    else if ← keywords? ["IN", "NATURAL", "LANGUAGE", "MODE"] then pure "IN NATURAL LANGUAGE MODE"
    else if ← keywords? ["IN", "BOOLEAN", "MODE"] then pure "IN BOOLEAN MODE"
    else if ← keywords? ["WITH", "QUERY", "EXPANSION"] then pure "WITH QUERY EXPANSION"
    else pure ""
  symbol ")"
  pure (.plain ("MATCH (" ++ commaList (columns.map (·.text)) ++ ") AGAINST (" ++
    phrase [what, mode] ++ ")"))

def sessionValue (name : String) : Parser Expr := do
  if ← symbol? "(" then return .plain (name ++ (← Call.arguments below))
  else pure (.plain name)

def record : Parser Expr := do
  let (fields, leftOver) ← recordFields? (typeWithin (← read).bound)
  if leftOver then unsupported "unmatched > in STRUCT literal"
  else
    let values ← parenthesized (commaSeparated do
      let value ← below.expressionText
      if ← keyword? "AS" then
        if fields.isEmpty then return value ++ " AS " ++ (← identifier).text
        else unsupported "Typed syntax does not allow AS"
      else pure value)
    pure (.plain (recordText fields ++ "(" ++ commaList values ++ ")"))

def entry (key : Parser String) : Parser String := do
  let key ← key
  symbol ":"
  return key ++ ": " ++ (← below.expressionText)

def entries (key : Parser String) : Parser String := do
  symbol "\x7b"
  let inside ← commaSeparatedBefore (entry below key) "\x7d"
  symbol "\x7d"
  pure ("\x7b" ++ commaList inside ++ "\x7d")

def map : Parser Expr := do
  let strength := Binding.colon.strength (← dialect)
  return .plain ("MAP " ++ (← entries below (Expr.text <$> below.expr strength)))

def bracedCall : Parser String := do
  symbol "\x7b"
  keyword "FN"
  let name ← qualifiedName
  let called ← Call.call below name.text
  pure ("\x7bfn " ++ called.text)

def bracedTime : Parser String := do
  symbol "\x7b"
  match (← get) with
  | ⟨.word value none _, _, _⟩ :: _ =>
      if ["d", "t", "ts"].contains value then
        advance
        return "\x7b" ++ value ++ " " ++ (← Parser.value)
      else expected "ODBC datetime keyword (t, d, or ts)"
  | _ => expected "ODBC datetime keyword (t, d, or ts)"

def braced : Parser Expr := do
  let form ←
    match ← maybe (bracedCall below) with
    | some text => pure (some text)
    | none => maybe bracedTime
  match form with
  | some text =>
      symbol "\x7d"
      pure (.plain (text ++ "\x7d"))
  | none =>
      if (← dialect) == .oracle then .plain <$> entries below (Ident.text <$> identifier)
      else expected "an expression"

/-- The form that a word announces; nothing when the word announces none. -/
def announced?
    (operand : Parser Expr) (name keyword : String) : Parser (Option Expr) := do
  let dialect ← dialect
  let generous := dialect == .postgres || dialect == .oracle
  match keyword with
  | "TRUE" => pure (if dialect == .sqlServer then none else some (.plain "true"))
  | "FALSE" => pure (if dialect == .sqlServer then none else some (.plain "false"))
  | "NULL" => pure (some (.plain "NULL"))
  | "CURRENT_CATALOG" | "CURRENT_USER" | "SESSION_USER" | "USER" =>
      pure (if generous then some (.plain name) else none)
  | "CURRENT_TIMESTAMP" | "CURRENT_TIME" | "CURRENT_DATE" | "LOCALTIME" | "LOCALTIMESTAMP" =>
      some <$> sessionValue below name
  | "CASE" => some <$> caseOf below
  | "CONVERT" => some <$> conversion below "CONVERT"
  | "TRY_CONVERT" =>
      if dialect == .sqlServer || dialect == .oracle then some <$> conversion below "TRY_CONVERT"
      else pure none
  | "CAST" => some <$> cast below "CAST"
  | "TRY_CAST" => some <$> cast below "TRY_CAST"
  | "SAFE_CAST" => some <$> cast below "SAFE_CAST"
  | "EXISTS" => some <$> existence below
  | "EXTRACT" => some <$> extraction below
  | "CEIL" => some <$> rounding below "CEIL"
  | "FLOOR" => some <$> rounding below "FLOOR"
  | "POSITION" => if ← atSymbol "(" then some <$> position below name else pure none
  | "SUBSTR" | "SUBSTRING" => some <$> substring below keyword
  | "OVERLAY" => some <$> overlay below
  | "TRIM" => some <$> trimming below
  | "INTERVAL" => some <$> Interval.span below operand
  | "ARRAY" =>
      if ← symbol? "[" then some <$> array below "ARRAY"
      else if ← symbol? "(" then
        let query ← below.query
        symbol ")"
        pure (some (.plain (name ++ "(" ++ query.text ++ ")")))
      else pure none
  | "NOT" =>
      if ← keyword? "EXISTS" then
        let form ← existence below
        pure (some (.plain ("NOT " ++ form.text)))
      else
        let operand ← below.expr (Binding.negation.strength dialect)
        pure (some (.plain ("NOT " ++ operand.text)))
  | "STRUCT" => if dialect == .oracle then some <$> record below else pure none
  | "PRIOR" =>
      if (← read).hierarchical then
        let operand ← below.expr (Binding.sum.strength dialect)
        pure (some (.plain ("PRIOR " ++ operand.text)))
      else pure none
  | "MAP" =>
      if dialect == .oracle && (← atSymbol "\x7b") then some <$> map below else pure none
  | "MATCH" =>
      if dialect == .mysql || dialect == .oracle then some <$> matchAgainst else pure none
  | _ =>
      if generous && geometricTypeNames.contains keyword then
        let inside ← Parser.value
        pure (some (.plain (String.ofList (keyword.toList.map Char.toLower) ++ " " ++ inside)))
      else pure none

end SqlPipe.Sql.SpecialForm
