import SqlPipe.Sql.Grammar.Value

/-!
# Data types

Data types in normal form: known type names in upper case, with their sizes and suffixes, and other
names as they are written.
-/

namespace SqlPipe.Sql

/-- What follows a type name. -/
inductive TypeSize
  | plain
  | precision
  | scale
  | length
  | zoned

/-- A data type as the grammar tells it apart. -/
inductive DataType
  | interval (text : String)
  | binary (text : String)
  | named (text : String)
  | known (text : String)

def DataType.text : DataType → String
  | interval text => text
  | binary text => text
  | named text => text
  | known text => text

def typeNames : List (String × TypeSize) :=
  ["BOOLEAN", "BOOL", "REAL", "FLOAT4", "FLOAT32", "FLOAT64", "FLOAT8", "INT16", "INT32", "INT64",
    "INT128", "INT256", "UINT8", "UINT16", "UINT32", "UINT64", "UINT128", "UINT256", "HUGEINT",
    "UHUGEINT", "USMALLINT", "UTINYINT", "UBIGINT", "TINYBLOB", "MEDIUMBLOB", "LONGBLOB", "UUID",
    "DATE", "DATE32", "JSON", "JSONB", "REGCLASS", "TEXT", "TINYTEXT", "MEDIUMTEXT", "LONGTEXT",
    "BYTEA", "TRIGGER"].map (·, .plain) ++
  ["TINYINT", "INT2", "SMALLINT", "MEDIUMINT", "INT", "INT4", "INT8", "INTEGER", "BIGINT", "CLOB",
    "BLOB", "BYTES", "BIT", "VARBIT", "BINARY", "DATETIME", "STRING", "TIMESTAMPTZ",
    "TIMESTAMP_NTZ", "TIMETZ"].map (·, .precision) ++
  ["FLOAT", "DOUBLE", "NUMERIC", "DECIMAL", "DEC", "BIGNUMERIC", "BIGDECIMAL"].map (·, .scale) ++
  ["VARCHAR", "NVARCHAR", "CHARACTER", "CHAR", "VARBINARY"].map (·, .length) ++
  ["TIMESTAMP", "TIME"].map (·, .zoned)

def mixedCaseNames : List String :=
  ["Float32", "Int16", "Int32", "Int128", "Int256", "UInt8", "UInt16", "UInt32", "UInt64",
    "UInt128", "UInt256", "Date32"]

def typeNameText (word : String) : String :=
  (mixedCaseNames.find? fun name => String.ofList (name.toList.map Char.toUpper) == word).getD word

def unsignedTypeNames : List String :=
  ["TINYINT", "INT2", "SMALLINT", "MEDIUMINT", "INT", "INT4", "INT8", "INTEGER", "BIGINT", "REAL",
    "FLOAT", "DOUBLE", "DECIMAL", "DEC", "DOUBLE PRECISION"]

def geometricTypeNames : List String :=
  ["POINT", "LINE", "LSEG", "BOX", "PATH", "POLYGON", "CIRCLE"]

def inParens : Option String → String
  | some text => "(" ++ text ++ ")"
  | none => ""

namespace Parser

def precision? : Parser (Option String) := do
  if ← symbol? "(" then
    let number ← wholeNumber
    symbol ")"
    pure (some number)
  else pure none

def signedNumber : Parser String := do
  if ← symbol? "-" then return "-" ++ (← wholeNumber)
  else
    let _ ← symbol? "+"
    wholeNumber

def scale? : Parser (Option String) := do
  if ← symbol? "(" then
    let number ← wholeNumber
    let scale ← if ← symbol? "," then some <$> signedNumber else pure none
    symbol ")"
    pure (some (match scale with
      | some scale => number ++ "," ++ scale
      | none => number))
  else pure none

def length? : Parser (Option String) := do
  if ← symbol? "(" then
    let text ←
      if ← keyword? "MAX" then pure "MAX"
      else
        let number ← wholeNumber
        match ← anyKeyword? ["CHARACTERS", "OCTETS"] with
        | some unit => pure (number ++ " " ++ unit)
        | none => pure number
    symbol ")"
    pure (some text)
  else pure none

def zone : Parser String := do
  if ← keyword? "WITH" then
    keywords ["TIME", "ZONE"]
    pure " WITH TIME ZONE"
  else if ← keyword? "WITHOUT" then
    keywords ["TIME", "ZONE"]
    pure " WITHOUT TIME ZONE"
  else pure ""

def sizeText : TypeSize → Parser String
  | .plain => pure ""
  | .precision => inParens <$> precision?
  | .scale => inParens <$> scale?
  | .length => inParens <$> length?
  | .zoned => do
      let size := inParens (← precision?)
      return size ++ (← zone)

def signText (name : String) : Parser String := do
  if ← onlyIf (unsignedTypeNames.contains name) (keyword? "UNSIGNED") then pure " UNSIGNED"
  else
    if (← dialect) == .mysql || (← dialect) == .oracle then
      if unsignedTypeNames.contains name then
        let _ ← keyword? "SIGNED"
    pure ""

def stringList : Parser String := do
  let values ← parenthesized (commaSeparated stringLiteral)
  pure ("(" ++ commaList (values.map (betweenQuotes '\x27')) ++ ")")

def numberLiteral : Parser String := do
  let sign ← if ← symbol? "-" then pure "-" else if ← symbol? "+" then pure "+" else pure ""
  return sign ++ (← numberOrParameter)

def enumMembers : Parser String := do
  let members ← parenthesized (commaSeparated do
    let name ← betweenQuotes '\x27' <$> stringLiteral
    if ← symbol? "=" then return name ++ " = " ++ (← numberLiteral) else pure name)
  pure ("(" ++ commaList members ++ ")")

def intervalRanges : List (String × List String) :=
  [("YEAR", ["MONTH"]), ("DAY", ["HOUR", "MINUTE", "SECOND"]), ("HOUR", ["MINUTE", "SECOND"]),
    ("MINUTE", ["SECOND"]), ("MONTH", []), ("SECOND", [])]

def intervalType : Parser String := do
  if [.postgres, .oracle].contains (← dialect) then
    let fields ←
      match intervalRanges.lookup (← peekKeyword) with
      | some ends =>
          let first ← peekKeyword
          advance
          if ← onlyIf (!ends.isEmpty) (keyword? "TO") then
            pure (" " ++ first ++ " TO " ++ (← anyKeyword ends))
          else pure (" " ++ first)
      | none => pure ""
    return "INTERVAL" ++ fields ++ inParens (← precision?)
  else pure "INTERVAL"

def typeModifier? : Parser (Option (Option String)) := do
  match (← get) with
  | ⟨.word value quote _, _, _⟩ :: _ =>
      advance
      pure (some (some (Token.text (.word value quote ""))))
  | ⟨.number digits _, _, _⟩ :: _ =>
      advance
      pure (some (some digits))
  | ⟨.literal .single inside, _, _⟩ :: _ =>
      advance
      pure (some (some inside))
  | ⟨.symbol ",", _, _⟩ :: _ =>
      advance
      pure (some none)
  | ⟨.symbol ")", _, _⟩ :: _ =>
      advance
      pure none
  | _ => expected "type modifiers"

def typeModifiers? : Parser String := do
  if ← symbol? "(" then
    let modifiers := (← many typeModifier?).filterMap id
    pure (if modifiers.isEmpty then "" else "(" ++ commaList modifiers ++ ")")
  else pure ""

def typeBehind (word : String) : Parser DataType := do
  match word with
  | "DOUBLE" =>
      if ← keyword? "PRECISION" then
        return .known ("DOUBLE PRECISION" ++ (← signText "DOUBLE PRECISION"))
  | "CHARACTER" | "CHAR" =>
      if ← keyword? "VARYING" then
        return .known (word ++ " VARYING" ++ inParens (← length?))
      if ← keywords? ["LARGE", "OBJECT"] then
        return .known (word ++ " LARGE OBJECT" ++ inParens (← precision?))
  | "BIT" =>
      if ← keyword? "VARYING" then
        return .known ("BIT VARYING" ++ inParens (← precision?))
  | "SIGNED" | "UNSIGNED" =>
      if ← keyword? "INTEGER" then return .known (word ++ " INTEGER") else return .known word
  | "ENUM" | "ENUM8" | "ENUM16" => return .known (word ++ (← enumMembers))
  | "SET" => return .known (word ++ (← stringList))
  | "FIXEDSTRING" => return .known ("FixedString(" ++ (← parenthesized wholeNumber) ++ ")")
  | "DATETIME64" =>
      let inside ← parenthesized do
        let digits ← wholeNumber
        let zone ← if ← symbol? "," then some <$> stringLiteral else pure none
        pure (commaList (digits :: (zone.map fun text => "'" ++ text ++ "'").toList))
      return .known ("DateTime64(" ++ inside ++ ")")
  | "INTERVAL" => return .interval (← intervalType)
  | _ => pure ()
  match typeNames.find? (·.1 == word) with
  | some (_, size) =>
      let text := typeNameText word ++ (← sizeText size)
      let text := text ++ (← signText word)
      pure (if word == "BINARY" then .binary text else .known text)
  | none => expected "a data type name"

def beginsType (word : String) : Bool :=
  (typeNames.any (·.1 == word)) ||
    ["SIGNED", "UNSIGNED", "ENUM", "ENUM8", "ENUM16", "SET", "FIXEDSTRING", "DATETIME64",
      "INTERVAL"].contains word

def arrayMarks : Parser String := do
  if [.postgres, .oracle].contains (← dialect) then
    let marks ← many do
      if ← symbol? "[" then
        let size ← maybe wholeNumber
        symbol "]"
        pure (some ("[" ++ size.getD "" ++ "]"))
      else pure none
    pure (String.join marks)
  else pure ""

/-! ## Types of types

A type that holds types ends in a closing angle bracket, and two of these may stand in one token.
A reader of types tells whether the second of two is left over. -/

def closingBracket (taken : Bool) : Parser Bool := do
  if taken then pure false
  else if ← symbol? ">" then pure false
  else if ← symbol? ">>" then pure true
  else expected ">"

def typeField (type : Parser (DataType × Bool)) : Parser (String × Bool) := do
  let named ← match ← peekAt? 0, ← peekAt? 1 with
    | some (.word ..), some (.word ..) => pure true
    | some (.word ..), some (.symbol mark) => pure (mark == ":")
    | _, _ => pure false
  let name ←
    if named then
      let name ← identifier
      let _ ← symbol? ":"
      pure name.text
    else pure ""
  let (inner, taken) ← type
  pure (phrase [name, inner.text], taken)

def typeFields (type : Parser (DataType × Bool)) (written : List String) :
    Nat → Parser (List String × Bool)
  | 0 => pure (written.reverse, false)
  | rounds + 1 => do
      let (field, taken) ← typeField type
      if taken then pure ((field :: written).reverse, false)
      else if ← symbol? "," then typeFields type (field :: written) rounds
      else return ((field :: written).reverse, ← closingBracket false)

def recordFields? (type : Parser (DataType × Bool)) : Parser (List String × Bool) := do
  if ← symbol? "<" then typeFields type [] (← read).bound else pure ([], false)

def recordText (fields : List String) : String :=
  if fields.isEmpty then "STRUCT" else "STRUCT<" ++ commaList fields ++ ">"

def typedColumns (type : Parser (DataType × Bool)) : Parser String := do
  let columns ← parenthesized (commaSeparated do
    let name ← identifier
    let (inner, _) ← type
    pure (phrase [name.text, inner.text]))
  pure ("(" ++ commaList columns ++ ")")

/-- A type that holds types, behind its word; the flag tells of a bracket that is left over. -/
def compoundType? (word : String) (type : Parser (DataType × Bool)) :
    Parser (Option (DataType × Bool)) := do
  let generous := (← dialect) == .oracle
  let known text := some (DataType.known text, false)
  match word with
  | "ARRAY" =>
      advance
      symbol "<"
      let (inner, taken) ← type
      return some (.known ("ARRAY<" ++ inner.text ++ ">"), ← closingBracket taken)
  | "SETOF" =>
      advance
      let (inner, _) ← type
      pure (known ("SETOF " ++ inner.text))
  | "TABLE" =>
      advance
      if ← atSymbol "(" then return known ("TABLE" ++ (← typedColumns type))
      else pure (known "TABLE")
  | "ANY" =>
      if ← keywords? ["ANY", "TYPE"] then pure (known "ANY TYPE") else pure none
  | "STRUCT" =>
      if generous then
        advance
        let (fields, taken) ← recordFields? type
        pure (some (.known (recordText fields), taken))
      else pure none
  | "UNION" =>
      if generous then
        advance
        return known ("UNION" ++ (← typedColumns type))
      else pure none
  | "NESTED" =>
      if generous then
        advance
        return known ("Nested" ++ (← typedColumns type))
      else pure none
  | "TUPLE" =>
      if generous then
        advance
        let fields ← parenthesized (commaSeparated (Prod.fst <$> typeField type))
        pure (known ("Tuple(" ++ commaList fields ++ ")"))
      else pure none
  | "NULLABLE" | "LOWCARDINALITY" =>
      if generous then
        advance
        let (inner, _) ← parenthesized type
        let name := if word == "NULLABLE" then "Nullable" else "LowCardinality"
        pure (known (name ++ "(" ++ inner.text ++ ")"))
      else pure none
  | "MAP" =>
      if generous then
        advance
        symbol "("
        let (key, _) ← type
        symbol ","
        let (value, _) ← type
        symbol ")"
        pure (known ("Map(" ++ key.text ++ ", " ++ value.text ++ ")"))
      else pure none
  | _ => pure none

def simpleType (word : String) : Parser DataType := do
  if beginsType word then
    advance
    typeBehind word
  else if geometricTypeNames.contains word && [.postgres, .oracle].contains (← dialect) then
    advance
    pure (.known (String.ofList (word.toList.map Char.toLower)))
  else if ["TSVECTOR", "TSQUERY"].contains word && [.postgres, .oracle].contains (← dialect) then
    advance
    pure (.known word)
  else
    match ← peekAt? 0 with
    | some (.word ..) =>
        let name ← qualifiedName
        pure (.named (name.text ++ (← typeModifiers?)))
    | _ => expected "a data type name"

/-- A data type; the flag tells of a closing bracket that is left over. -/
def typeWithin : Nat → Parser (DataType × Bool)
  | 0 => throw .tooDeep
  | rounds + 1 => do
      let word ← peekKeyword
      let (element, taken) ←
        match ← compoundType? word (typeWithin rounds) with
        | some read => pure read
        | none => pure (← simpleType word, false)
      match ← arrayMarks with
      | "" => pure (element, taken)
      | marks => pure (.known (element.text ++ marks), taken)

def dataType : Parser DataType := do
  match ← typeWithin (← read).bound with
  | (type, false) => pure type
  | (type, true) => unsupported ("unmatched > after parsing data type " ++ type.text)

end Parser

end SqlPipe.Sql
