import SqlPipe.Engine.Destination

/-!
# Tables of SQLite databases

A statement that makes a table is refused by a database that holds a table of this name already.
Every other statement is accepted.

A transaction that is begun for writing has its database for itself.  Until it ends, the other
connections see the tables that there were when it began, and cannot change them.  A connection that
is closed takes its transaction back.  Other transactions are not followed.
-/

namespace SqlPipe

/-- A database behind the connections of a pool. -/
inductive Store
  | own (connection : Connection)
  | shared
  deriving DecidableEq, Repr

/-- A table, with its name in small letters. -/
structure Table where
  store : Store
  name : String
  deriving DecidableEq, Repr

namespace Table

def isNamePart (c : Char) : Bool :=
  c.isAlphanum || c == '_' || c == '$' || 0x80 ≤ c.toNat

/-- The first word of a text that begins at the given offset, with its own offset in bytes and with
what stands behind it. -/
def firstWord (offset : Nat) (text : List Char) : Nat × String × List Char :=
  let blanks := text.takeWhile Char.isWhitespace
  let text := text.drop blanks.length
  let word := text.takeWhile isNamePart
  (offset + blanks.length, String.ofList word, text.drop word.length)

/-- The name of the table that a statement makes whether or not there is one, with its offset. -/
def madeBy? (text : String) : Option (String × Nat) :=
  let (offset, verb, rest) := firstWord 0 text.toList
  let (offset, noun, rest) := firstWord (offset + verb.utf8ByteSize) rest
  let (offset, name, _) := firstWord (offset + noun.utf8ByteSize) rest
  if verb.toLower = "create" && noun.toLower = "table" && name.toLower ≠ "if" && !name.isEmpty then
    some (name, offset)
  else none

def madeAgain (name text : String) (offset : Nat) : Failure :=
  .database ("Query execution failed: table " ++ name ++ " already exists in " ++ text ++
    " at offset " ++ toString offset)

/-- Runs a statement on a database, and tells which tables there are afterwards. -/
def execute (store : Store) (text : String) (tables : List Table) :
    Except Failure Unit × List Table :=
  match madeBy? text with
  | none => (.ok (), tables)
  | some (name, offset) =>
      let table : Table := ⟨store, name.toLower⟩
      if tables.contains table then (.error (madeAgain name text offset), tables)
      else (.ok (), table :: tables)

def changes (text : String) : Bool :=
  let (_, verb, rest) := firstWord 0 text.toList
  let (_, noun, _) := firstWord 0 rest
  if verb.toLower = "create" then !(["temp", "temporary"].contains noun.toLower)
  else ["insert", "replace", "update", "delete", "alter", "drop"].contains verb.toLower

end Table

inductive Turn
  | begins
  | commits
  | takesBack
  deriving DecidableEq, Repr

/-- What a statement does to a transaction, if it consists of such words only. -/
def Turn.of? (text : String) : Option Turn :=
  let (_, verb, rest) := Table.firstWord 0 text.toList
  let (_, second, rest) := Table.firstWord 0 rest
  let (_, third, rest) := Table.firstWord 0 rest
  if rest.any fun c => !c.isWhitespace && c != ';' then none
  else
    -- a missing word is empty, so two words are left where `transaction` was one of three
    match [verb.toLower, second.toLower, third.toLower].filter (· ≠ "transaction") with
    | ["begin", "immediate", ""] | ["begin", "immediate"]
    | ["begin", "exclusive", ""] | ["begin", "exclusive"] => some .begins
    | ["commit", "", ""] | ["commit", ""] | ["end", "", ""] | ["end", ""] => some .commits
    | ["rollback", "", ""] | ["rollback", ""] => some .takesBack
    | _ => none

structure Transaction where
  connection : Connection
  store : Store
  before : List Table
  deriving DecidableEq, Repr

structure Databases where
  tables : List Table
  transactions : List Transaction
  deriving DecidableEq, Repr

namespace Databases

def empty : Databases := ⟨[], []⟩

/-- The transaction of another connection that keeps a database for itself. -/
def lock? (databases : Databases) (connection : Connection) (store : Store) : Option Transaction :=
  databases.transactions.find? fun transaction =>
    transaction.store = store && transaction.connection ≠ connection

def failed (reason : String) : Failure := .database ("Query execution failed: " ++ reason)

/-- The failure of a statement that would change a database which a transaction has for itself. -/
def locked : Failure := failed "database is locked"

def begin (connection : Connection) (store : Store) (databases : Databases) :
    Except Failure Unit × Databases :=
  if databases.transactions.any (·.connection = connection) then
    (.error (failed "cannot start a transaction within a transaction"), databases)
  else if (databases.lock? connection store).isSome then (.error locked, databases)
  else
    let before := databases.tables.filter fun table : Table => table.store = store
    let transactions := ⟨connection, store, before⟩ :: databases.transactions
    (.ok (), { databases with transactions })

def commit (connection : Connection) (databases : Databases) : Databases :=
  { databases with
    transactions := databases.transactions.filter (·.connection ≠ connection) }

def takeBack (databases : Databases) (connection : Connection) : Databases :=
  match databases.transactions.find? (·.connection = connection) with
  | some transaction =>
      let others := databases.tables.filter fun table : Table => table.store ≠ transaction.store
      commit connection { databases with tables := transaction.before ++ others }
  | none => databases

/-- Takes back the transactions of connections that are not open. -/
def keepOpen (databases : Databases) (isOpen : Connection → Bool) : Databases :=
  let abandoned := databases.transactions.filter fun transaction => !isOpen transaction.connection
  (abandoned.map (·.connection)).foldl takeBack databases

def change (connection : Connection) (store : Store) (text : String) (databases : Databases) :
    Except Failure Unit × Databases :=
  match databases.lock? connection store with
  | none =>
      let (outcome, tables) := Table.execute store text databases.tables
      (outcome, { databases with tables })
  | some transaction =>
      match (Table.execute store text transaction.before).1 with
      | .error failure => (.error failure, databases)
      | .ok () => (if Table.changes text then .error locked else .ok (), databases)

def execute (connection : Connection) (store : Store) (text : String) (databases : Databases) :
    Except Failure Unit × Databases :=
  match Turn.of? text with
  | some .begins => databases.begin connection store
  | some .commits => (.ok (), databases.commit connection)
  | some .takesBack => (.ok (), databases.takeBack connection)
  | none => databases.change connection store text

end Databases

end SqlPipe
