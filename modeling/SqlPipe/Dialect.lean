import SqlPipe.Text.Search

/-!
# Dialects

The five families of SQL that a source or destination may speak, with the lexical facts that the
rest of the library asks of them: how a scheme names a dialect, which quoting its identifiers get,
which characters escape inside literals, and which driver messages tell of no failure at all.
-/

namespace SqlPipe

/-- The family of SQL spoken by a database. -/
inductive Dialect
  | mysql
  | postgres
  | sqlite
  | oracle
  | sqlServer
  deriving DecidableEq, Repr, Inhabited

/-- How identifiers are written in the target of a batch. -/
inductive Quoting
  | always (opening closing : Char)
  | asWritten
  deriving DecidableEq, Repr

namespace Dialect

def name : Dialect → String
  | mysql => "mysql"
  | postgres => "postgres"
  | sqlite => "sqlite"
  | oracle => "oracle"
  | sqlServer => "mssql"

def ofScheme? (scheme : String) : Option Dialect :=
  match String.ofList (scheme.toList.map Char.toLower) with
  | "mysql" | "maria" | "mariadb" => some mysql
  | "postgres" | "postgresql" => some postgres
  | "sqlite" => some sqlite
  | "oracle" => some oracle
  | "mssql" | "sqlserver" => some sqlServer
  | _ => none

/-- The quoting of identifiers in the target of a batch.  Where quoting would change how the case
of a name is read, names stay as they were written. -/
def quoting : Dialect → Quoting
  | mysql => .always '\x60' '\x60'
  | sqlite => .always '\x22' '\x22'
  | sqlServer => .always '[' ']'
  | postgres | oracle => .asWritten

def backslashEscapes : Dialect → Bool
  | mysql => true
  | _ => false

/-- A text between two equal dollar tags is a string literal. -/
def dollarQuoting : Dialect → Bool
  | postgres => true
  | _ => false

def hashComments : Dialect → Bool
  | mysql => true
  | _ => false

/-- Parts of driver messages that report the outcome of a success as if it were a failure. -/
def harmlessSignatures : Dialect → List String
  | mysql => ["(1065)", "Query was empty", "no rows in result set"]
  | postgres => ["no rows in result set", "empty query"]
  | sqlite => ["Execute returned results", "Query returned no rows", "not an error"]
  | oracle => ["no rows in result set", "ORA-01403"]
  | sqlServer => ["no rows in result set"]

def isHarmless (dialect : Dialect) (message : String) : Bool :=
  dialect.harmlessSignatures.any fun signature =>
    Text.occursIn signature.toList message.toList

end Dialect

end SqlPipe
