import SqlPipe.Sql.Grammar.Merge

/-!
# Statements

The statements that the grammar knows.  Statements whose class follows from their first word alone
are recognised by it and then taken whole; the others are read to their end.
-/

namespace SqlPipe.Sql.Statement

open SqlPipe.Sql.Parser

variable (below : Productions)

def skipRest : Nat → Parser Unit
  | 0 => pure ()
  | rounds + 1 => do
      match (← get) with
      | [] => pure ()
      | ⟨.symbol ";", _, _⟩ :: _ => pure ()
      | _ =>
          advance
          skipRest rounds

def whole (tree : Tree) : Parser Tree := do
  skipRest (← read).bound
  pure tree

/-! ## Transactions -/

def transactionMode? : Parser (Option Unit) := do
  if ← keywords? ["ISOLATION", "LEVEL"] then
    for words in [["READ", "UNCOMMITTED"], ["READ", "COMMITTED"], ["REPEATABLE", "READ"],
        ["SERIALIZABLE"], ["SNAPSHOT"]] do
      if ← keywords? words then return some ()
    expected "isolation level"
  else if ← keywords? ["READ", "ONLY"] then pure (some ())
  else if ← keywords? ["READ", "WRITE"] then pure (some ())
  else pure none

def transactionModes (required : Bool) : Nat → Parser Unit
  | 0 => pure ()
  | rounds + 1 => do
      match ← transactionMode? with
      | some () =>
          let comma ← symbol? ","
          transactionModes comma rounds
      | none => if required then expected "transaction mode" else pure ()

def opening : Parser Tree := do
  transactionModes false (← read).bound
  pure (.ofClass (.transaction .opening))

def chain : Parser Unit := do
  let _ ← anyKeyword? ["TRANSACTION", "WORK"]
  if ← keyword? "AND" then
    let _ ← keyword? "NO"
    keyword "CHAIN"

def closing : Parser Tree := do
  chain
  pure (.ofClass (.transaction .closing))

def rollback : Parser Tree := do
  chain
  if ← keyword? "TO" then
    let _ ← keyword? "SAVEPOINT"
    let _ ← identifier
  pure (.ofClass (.transaction .closing))

/-! ## Privileges -/

def privilegePhrases : List (List String) :=
  [["IMPORTED", "PRIVILEGES"], ["ADD", "SEARCH", "OPTIMIZATION"], ["ATTACH", "LISTING"],
    ["ATTACH", "POLICY"], ["BIND", "SERVICE", "ENDPOINT"], ["EVOLVE", "SCHEMA"],
    ["IMPORT", "SHARE"], ["MANAGE", "VERSIONS"], ["MANAGE", "RELEASES"],
    ["OVERRIDE", "SHARE", "RESTRICTIONS"], ["PURCHASE", "DATA", "EXCHANGE", "LISTING"],
    ["RESOLVE", "ALL"], ["READ", "SESSION"]]

def privilegeWords : List String :=
  ["APPLYBUDGET", "AUDIT", "CONNECT", "CREATE", "DELETE", "DROP", "EXEC", "EXECUTE", "FAILOVER",
    "INSERT", "MODIFY", "MONITOR", "OPERATE", "OWNERSHIP", "READ", "REFERENCES", "REPLICATE",
    "SELECT", "TEMPORARY", "TRIGGER", "TRUNCATE", "UPDATE", "USAGE"]

def privilege : Parser Unit := do
  for words in privilegePhrases do
    if ← keywords? words then return
  if ← keywords? ["DATABASE", "ROLE"] then
    let _ ← qualifiedName
    return
  match ← anyKeyword? privilegeWords with
  | some word =>
      if ["INSERT", "REFERENCES", "SELECT", "UPDATE"].contains word then
        let _ ← columns? false
      if word == "CREATE" then
        let _ ← anyKeyword? ["DATABASE", "ROLE", "SCHEMA", "USER", "WAREHOUSE"]
  | none =>
      if ← keyword? "ROLE" then
        let _ ← qualifiedName
      else expected "a privilege keyword"

def starredName : Parser Unit := do
  let part : Parser Unit := do
    unless ← symbol? "*" do
      let _ ← identifier
  part
  let _ ← many do
    if ← symbol? "." then
      part
      pure (some ())
    else pure none

def manyObjects : List (List String) :=
  [["ALL", "TABLES", "IN", "SCHEMA"], ["ALL", "EXTERNAL", "TABLES", "IN", "SCHEMA"],
    ["ALL", "VIEWS", "IN", "SCHEMA"], ["ALL", "MATERIALIZED", "VIEWS", "IN", "SCHEMA"],
    ["ALL", "FUNCTIONS", "IN", "SCHEMA"], ["ALL", "SEQUENCES", "IN", "SCHEMA"],
    ["FUTURE", "SCHEMAS", "IN", "DATABASE"], ["FUTURE", "TABLES", "IN", "SCHEMA"],
    ["FUTURE", "EXTERNAL", "TABLES", "IN", "SCHEMA"], ["FUTURE", "VIEWS", "IN", "SCHEMA"],
    ["FUTURE", "MATERIALIZED", "VIEWS", "IN", "SCHEMA"],
    ["FUTURE", "SEQUENCES", "IN", "SCHEMA"], ["RESOURCE", "MONITOR"], ["COMPUTE", "POOL"],
    ["FAILOVER", "GROUP"], ["REPLICATION", "GROUP"], ["EXTERNAL", "VOLUME"]]

def privilegeObjects : Parser Unit := do
  for words in manyObjects do
    if ← keywords? words then
      let _ ← commaSeparated qualifiedName
      return
  let kind ← anyKeyword? ["SEQUENCE", "DATABASE", "SCHEMA", "TABLE", "VIEW", "WAREHOUSE",
    "INTEGRATION", "USER", "CONNECTION", "FUNCTION", "PROCEDURE", "TYPE", "DOMAIN"]
  let _ ← commaSeparated starredName
  if kind == some "FUNCTION" || kind == some "PROCEDURE" then
    if ← symbol? "(" then
      let _ ← commaSeparatedBefore dataType ")"
      symbol ")"

def privileges : Parser Unit := do
  if ← keyword? "ALL" then
    let _ ← keyword? "PRIVILEGES"
  else
    let _ ← commaSeparated privilege
  if ← keyword? "ON" then privilegeObjects

/-- Those who have privileges.  A kind holds for all names behind it until another kind comes, and
behind `PUBLIC` no names stand. -/
def grantees : Nat → Bool → Parser Unit
  | 0, _ => pure ()
  | rounds + 1, everyone => do
      let everyone ←
        if ← keyword? "PUBLIC" then pure true
        else if ← keywords? ["DATABASE", "ROLE"] then pure false
        else if ← keywords? ["APPLICATION", "ROLE"] then pure false
        else if (← anyKeyword? ["ROLE", "USER", "SHARE", "GROUP", "APPLICATION"]).isSome then
          pure false
        else pure everyone
      unless everyone do
        let _ ← qualifiedName
        if ← symbol? ":" then
          let _ ← identifier
      if ← symbol? "," then grantees rounds everyone

def grant : Parser Tree := do
  privileges
  keyword "TO"
  grantees (← read).bound false
  let _ ← keywords? ["WITH", "GRANT", "OPTION"]
  unless ← keywords? ["COPY", "CURRENT", "GRANTS"] do
    let _ ← keywords? ["REVOKE", "CURRENT", "GRANTS"]
  let _ ← behind? "AS" identifier
  if ← keywords? ["GRANTED", "BY"] then
    let _ ← identifier
  pure (.ofClass .control)

def revoke : Parser Tree := do
  privileges
  keyword "FROM"
  grantees (← read).bound false
  if ← keywords? ["GRANTED", "BY"] then
    let _ ← identifier
  let _ ← anyKeyword? ["CASCADE", "RESTRICT"]
  pure (.ofClass .control)

/-! ## Cursors and prepared statements -/

def cursor : Parser Tree := do
  let _ ← identifier
  let _ ← keyword? "BINARY"
  let _ ← anyKeyword? ["INSENSITIVE", "ASENSITIVE"]
  unless ← keyword? "SCROLL" do
    let _ ← keywords? ["NO", "SCROLL"]
  keyword "CURSOR"
  if (← anyKeyword? ["WITH", "WITHOUT"]).isSome then keyword "HOLD"
  keyword "FOR"
  let _ ← below.query
  pure .byKeywords

def fetch : Parser Tree := do
  let number := discard numberOrParameter
  match ← anyKeyword? ["NEXT", "PRIOR", "FIRST", "LAST", "ALL", "ABSOLUTE", "RELATIVE", "FORWARD",
    "BACKWARD"] with
  | some "ABSOLUTE" => number
  | some "RELATIVE" => number
  | some "FORWARD" => unless ← keyword? "ALL" do number
  | some "BACKWARD" => unless ← keyword? "ALL" do number
  | some _ => pure ()
  | none => number
  unless (← anyKeyword? ["FROM", "IN"]).isSome do
    unsupported "Expected FROM or IN"
  let _ ← identifier
  let _ ← behind? "INTO" qualifiedName
  pure .byKeywords

def execute : Parser Tree := do
  if ← symbol? "(" then
    let _ ← qualifiedName
    symbol ")"
  else
    let _ ← qualifiedName
  if ← symbol? "(" then
    let _ ← commaSeparatedBefore below.expression ")"
    symbol ")"
  else
    let ends := (← peek?).isNone || (← atSymbol ";") ||
      (← atAnyKeyword ["USING", "OUTPUT", "DEFAULT"])
    unless ends do
      let _ ← commaSeparated below.expression
  let _ ← behind? "INTO" (commaSeparated identifier)
  let _ ← behind? "USING" (commaSeparated (Selection.column below))
  let _ ← keyword? "OUTPUT"
  let _ ← keyword? "DEFAULT"
  pure .byKeywords

def prepare : Parser Tree := do
  let _ ← identifier
  if ← symbol? "(" then
    let _ ← commaSeparated dataType
    symbol ")"
  keyword "AS"
  let _ ← below.statement
  pure .byKeywords

/-! ## Blocks -/

def statementsUntil (words : List String) : Parser Unit := do
  let _ ← many do
    match (← get) with
    | [] => pure none
    | _ =>
        if words.contains (← peekKeyword) then pure none
        else
          let _ ← below.statement
          symbol ";"
          pure (some ())

/-- Statements up to one of the words, which may stand between `BEGIN` and `END`. -/
def block (words : List String) : Parser Unit := do
  if ← keyword? "BEGIN" then
    statementsUntil below words
    keyword "END"
  else statementsUntil below words

def guarded (words : List String) : Parser Unit := do
  let _ ← below.expression
  keyword "THEN"
  block below words

def conditional : Parser Tree := do
  let words := ["ELSE", "ELSEIF", "END"]
  guarded below words
  let _ ← many do
    if ← keyword? "ELSEIF" then
      guarded below words
      pure (some ())
    else pure none
  if ← keyword? "ELSE" then block below ["END"]
  keywords ["END", "IF"]
  pure .byKeywords

def loop : Parser Tree := do
  let _ ← below.expression
  block below ["END"]
  pure .byKeywords

def choice : Parser Tree := do
  let words := ["WHEN", "ELSE", "END"]
  unless ← atKeyword "WHEN" do
    let _ ← below.expression
  keyword "WHEN"
  guarded below words
  let _ ← many do
    if ← keyword? "WHEN" then
      guarded below words
      pure (some ())
    else pure none
  if ← keyword? "ELSE" then block below ["END"]
  keyword "END"
  let _ ← keyword? "CASE"
  pure .byKeywords

/-! ## Definitions -/

def definedKinds : List String :=
  ["TABLE", "MATERIALIZED", "VIEW", "EXTERNAL", "FUNCTION", "TRIGGER", "CONSTRAINT", "MACRO",
    "SECRET", "USER", "EXTENSION", "INDEX", "UNIQUE", "VIRTUAL", "SCHEMA", "DATABASE", "ROLE",
    "SEQUENCE", "TYPE", "PROCEDURE", "CONNECTOR", "DOMAIN", "SERVER", "POLICY", "OPERATOR"]

def create : Parser Tree := do
  let definition := Tree.ofClass .definition
  let _ ← keywords? ["OR", "REPLACE"]
  let _ ← keywords? ["OR", "ALTER"]
  let _ ← anyKeyword? ["LOCAL", "GLOBAL"]
  let _ ← keyword? "TRANSIENT"
  let _ ← anyKeyword? ["TEMP", "TEMPORARY"]
  if ← keyword? "TABLE" then
    let _ ← keywords? ["IF", "NOT", "EXISTS"]
    let _ ← qualifiedName
    whole definition
  else if ← atAnyKeyword definedKinds then whole definition
  else expected "an object type after CREATE"

/-! ## Transfers -/

def setting : Parser Unit := do
  let _ ← identifier
  symbol "="
  let _ ← below.expression

def settings : Parser Unit := do
  symbol "("
  let _ ← commaSeparatedBefore (setting below) ")"
  symbol ")"

def unload : Parser Unit := do
  symbol "("
  match (← get) with
  | ⟨.literal .single _, _, _⟩ :: _ => advance
  | _ =>
      let _ ← below.query
  symbol ")"
  keyword "TO"
  let _ ← identifier
  if ← keyword? "IAM_ROLE" then
    unless ← keyword? "DEFAULT" do
      let _ ← stringLiteral
  if ← keyword? "WITH" then settings below

def exportData : Parser Unit := do
  keyword "DATA"
  if ← keywords? ["WITH", "CONNECTION"] then
    let _ ← qualifiedName
  keyword "OPTIONS"
  settings below
  keyword "AS"
  let _ ← below.query

def cache : Parser Unit := do
  let kept : Parser Unit := do
    let _ ← qualifiedName
    unless (← get).isEmpty do
      if ← keyword? "OPTIONS" then settings below
      match (← get) with
      | [] => pure ()
      | ⟨.word .., _, _⟩ :: _ =>
          let _ ← keyword? "AS"
          let _ ← below.query
      | _ => expected "a QUERY statement"
  if ← keyword? "TABLE" then kept
  else
    let tokens ← get
    let _ ← qualifiedName
    if ← keyword? "TABLE" then kept
    else
      if (← get).isEmpty then
        set (tokens.drop (tokens.length - 1))
      expected "a `TABLE` keyword"

def raisedError : Parser Unit := do
  symbol "("
  let _ ← below.expression
  symbol ","
  let _ ← below.expression
  symbol ","
  let _ ← below.expression
  if ← symbol? "," then
    let _ ← commaSeparated below.expression
  symbol ")"
  if ← keyword? "WITH" then
    let _ ← commaSeparated do
      if (← anyKeyword? ["LOG", "NOWAIT", "SETERROR"]).isNone then
        expected "LOG, NOWAIT OR SETERROR raiserror option"

/-! ## All statements -/

def session? (word : String) : Parser (Option Tree) := do
  let done (parser : Parser Unit) : Parser (Option Tree) := do
    parser
    pure (some .byKeywords)
  match word with
  | "CALL" => done do
      let name ← qualifiedName
      if ← atSymbol "(" then
        let _ ← Call.call below name.text
  | "LISTEN" => done do
      let _ ← identifier
  | "UNLISTEN" => done do
      unless ← symbol? "*" do
        let _ ← identifier
  | "NOTIFY" => done do
      let _ ← identifier
      if ← symbol? "," then
        let _ ← stringLiteral
  | "EXECUTE" | "EXEC" => some <$> execute below
  | "PREPARE" => some <$> prepare below
  | "DEALLOCATE" => done do
      let _ ← keyword? "PREPARE"
      let _ ← identifier
  | "DECLARE" => some <$> cursor below
  | "FETCH" => some <$> fetch
  | "CLOSE" => done do
      unless ← keyword? "ALL" do
        let _ ← identifier
  | "OPEN" => done do
      let _ ← identifier
  | "LOAD" => done do
      let _ ← identifier
  | "PRAGMA" => done do
      let _ ← qualifiedName
      if ← symbol? "(" then
        let _ ← value
        symbol ")"
      else if ← symbol? "=" then
        let _ ← value
  | "KILL" => done do
      let kind ← anyKeyword? ["CONNECTION", "QUERY", "MUTATION"]
      let _ ← wholeNumber
      if kind == some "MUTATION" && (← dialect) != .oracle then
        expected "Unsupported type for KILL, allowed: CONNECTION | QUERY"
  | "ATTACH" => done do
      let _ ← keyword? "DATABASE"
      let _ ← below.expression
      keyword "AS"
      let _ ← identifier
  | "ASSERT" => done do
      let _ ← below.expression
      let _ ← behind? "AS" below.expression
  | "PRINT" => done do
      let _ ← below.expression
  | "RETURN" => done do
      let _ ← maybe below.expression
  | "RAISE" => done do
      if ← keywords? ["USING", "MESSAGE"] then
        symbol "="
        let _ ← below.expression
      else
        let _ ← maybe below.expression
  | "VACUUM" => done do
      let _ ← keyword? "FULL"
      let _ ← keywords? ["SORT", "ONLY"]
      let _ ← keywords? ["DELETE", "ONLY"]
      let _ ← keyword? "REINDEX"
      let _ ← maybe qualifiedName
  | "RENAME" => done do
      if ← keyword? "TABLE" then
        let _ ← commaSeparated do
          let _ ← qualifiedName
          keyword "TO"
          let _ ← qualifiedName
      else expected "KEYWORD `TABLE` after RENAME"
  | "DISCARD" => done do
      match ← anyKeyword? ["ALL", "PLANS", "SEQUENCES", "TEMP", "TEMPORARY"] with
      | some _ => pure ()
      | none => expected "ALL, PLANS, SEQUENCES, TEMP or TEMPORARY after DISCARD"
  | "RESET" => done do
      unless ← keyword? "ALL" do
        let _ ← qualifiedName
  | "IF" => some <$> conditional below
  | "WHILE" => some <$> loop below
  | "CASE" => some <$> choice below
  | "UNLOAD" => done (unload below)
  | "EXPORT" => done (exportData below)
  | "MSCK" => done do
      let _ ← keyword? "REPAIR"
      keyword "TABLE"
      let _ ← qualifiedName
      let _ ← maybe do
        let _ ← anyKeyword? ["ADD", "DROP", "SYNC"]
        keyword "PARTITIONS"
  | "CACHE" => done (cache below)
  | "RAISERROR" => done (raisedError below)
  | "UNCACHE" => done do
      if ← keyword? "TABLE" then
        let _ ← keywords? ["IF", "EXISTS"]
        let _ ← qualifiedName
      else expected "a `TABLE` keyword"
  | "DENY" => done do
      privileges
      keyword "TO"
      grantees (← read).bound false
  | "SHOW" | "DESC" | "DESCRIBE" | "ANALYZE" | "COMMENT" => some <$> whole .byKeywords
  | _ => pure none

def behindWord? (word : String) : Parser (Option Tree) := do
  let done (statementClass : StatementClass) (parser : Parser Unit) : Parser (Option Tree) := do
    parser
    pure (some (.ofClass statementClass))
  let skip := skipRest (← read).bound
  match word with
  | "INSERT" => return some ⟨.insert, some (← Manipulation.insert below false)⟩
  | "REPLACE" =>
      if (← dialect) == .mysql || (← dialect) == .oracle then
        return some ⟨.insert, some (← Manipulation.insert below true)⟩
      else unsupported "Unsupported statement REPLACE"
  | "UPDATE" => done (.manipulation .anySession) (discard (Manipulation.update below))
  | "DELETE" => done (.manipulation .anySession) (discard (Manipulation.delete below))
  | "MERGE" => done (.manipulation .anySession) (discard (Merge.merge below))
  | "COPY" | "EXPLAIN" => done (.manipulation .anySession) skip
  | "SET" | "USE" => done (.manipulation .everySession) skip
  | "CREATE" => some <$> create
  | "ALTER" | "DROP" | "TRUNCATE" => done .definition skip
  | "GRANT" => some <$> grant
  | "REVOKE" => some <$> revoke
  | "START" =>
      keyword "TRANSACTION"
      some <$> opening
  | "BEGIN" =>
      let _ ← anyKeyword? ["TRANSACTION", "WORK"]
      some <$> opening
  | "SAVEPOINT" => done (.transaction .opening) do
      let _ ← identifier
  | "END" => some <$> closing
  | "COMMIT" => some <$> closing
  | "ROLLBACK" => some <$> rollback
  | "RELEASE" => done (.transaction .closing) do
      let _ ← keyword? "SAVEPOINT"
      let _ ← identifier
  | "FLUSH" =>
      if (← dialect) == .mysql || (← dialect) == .oracle then some <$> whole .byKeywords
      else unsupported "Unsupported statement FLUSH"
  | _ => session? below word

def statement : Parser Tree := do
  let word ← peekKeyword
  if ["SELECT", "WITH", "VALUES", "FROM"].contains word || (← atSymbol "(") then
    let _ ← below.query
    pure (.ofClass (.manipulation .anySession))
  else
    let tokens ← get
    advance
    match ← behindWord? below word with
    | some tree => pure tree
    | none =>
        set tokens
        expected "an SQL statement"

end SqlPipe.Sql.Statement
