import SqlPipe.Address
import SqlPipe.Address.MysqlSettings
import SqlPipe.Address.PostgresSettings
import SqlPipe.Pool.Sqlite

/-!
# Connecting

A pool is made from the address of a database without opening a connection.  Not every dialect has a
driver, and a driver may refuse the text by which it is to connect.
-/

namespace SqlPipe

structure Pool where
  dialect : Dialect
  connectionText : String
  options : PoolOptions
  deriving DecidableEq, Repr

namespace Pool

def showLifetime : Option Nat → String
  | some seconds => "Some(" ++ toString seconds ++ "s)"
  | none => "None"

def mysqlAnnouncement (text : String) (options : PoolOptions) : Event :=
  ⟨.info, "Creating MySQL connection pool for: " ++ maskCredentials text ++ " (max_size: " ++
    toString options.maxOpen ++ ", min_idle: " ++ toString options.maxIdle ++ ")"⟩

def postgresAnnouncement (text : String) (options : PoolOptions) : Event :=
  ⟨.info, "Creating PostgreSQL connection pool for: " ++ maskCredentials text ++ " (max_size: " ++
    toString options.maxOpen ++ ", max_lifetime: " ++ showLifetime options.lifetime ++ ")"⟩

def mysql (text : String) (options : PoolOptions) : Except Failure Pool × List Event :=
  let made : Except Failure Pool := match Mysql.settingsFault? text with
    | some fault => .error (.address ("Invalid MySQL URL: " ++ fault))
    | none => .ok ⟨.mysql, text, options⟩
  (made, [mysqlAnnouncement text options])

def postgres (text : String) (options : PoolOptions) : Except Failure Pool × List Event :=
  match Postgres.settingsFault? text with
  | some fault =>
      let reason := "Failed to create connection pool: Config: " ++ fault.message
      (.error (.connection reason), [postgresAnnouncement text options, ⟨.error, reason⟩])
  | none => (.ok ⟨.postgres, text, options⟩, [postgresAnnouncement text options])

/-- Makes the pool of an address, with what is reported of it. -/
def connect (address : DatabaseAddress) (options : PoolOptions) :
    Except Failure Pool × List Event :=
  let text := address.connectionText
  match address.dialect with
  | .postgres => postgres text options
  | .mysql => mysql text options
  | .sqlite =>
      (.ok ⟨.sqlite, text, SqlitePool.boundsFor text options⟩, SqlitePool.announcement text options)
  | .oracle | .sqlServer =>
      (.error (.notImplemented ("no bundled driver for " ++ address.dialect.name ++ " databases")),
        [])

end Pool

end SqlPipe
