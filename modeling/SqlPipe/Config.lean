import SqlPipe.Config.Environment
import SqlPipe.Engine.Sink
import SqlPipe.Pool.Options
import SqlPipe.Text.Numeral

/-!
# Configuration

What a run needs to know, from variables of the environment.  A variable that holds no number where
one is asked for counts as not set.  The two addresses have no default.
-/

namespace SqlPipe

structure SourceSettings where
  address : String
  maxOpen : Int
  deriving DecidableEq, Repr

structure DestinationSettings where
  address : String
  maxOpen : Int
  maxIdle : Option Int
  /-- The seconds for which a connection is used; zero is no bound. -/
  lifetime : Nat
  batchCap : Nat
  deriving DecidableEq, Repr

structure Config where
  source : SourceSettings
  destination : DestinationSettings
  /-- The seconds that a run may take. -/
  timeout : Nat
  /-- The seconds for which an end that cannot be reached is tried. -/
  connectTimeout : Nat
  logLevel : String
  deriving DecidableEq, Repr

/-- Why there is no configuration. -/
inductive ConfigFault
  | missing (key : String)
  | negative (key : String) (value : Int)
  deriving DecidableEq, Repr

def ConfigFault.message : ConfigFault → String
  | missing key => "missing configuration field \"" ++ key ++ "\""
  | negative key value => "invalid type: 64-bit integer `" ++ toString value ++
      "`, expected an unsigned 64 bit or less integer for key `" ++ key ++ "`"

def Config.defaultMaxOpen : Int := 5

namespace Environment

def number? (environment : Environment) (name : String) : Option Int :=
  (environment.get? name).bind Text.signed?

def natural (environment : Environment) (name key : String) (default : Int) :
    Except ConfigFault Nat :=
  let value := (environment.number? name).getD default
  if value < 0 then .error (.negative key value) else .ok value.toNat

def required (environment : Environment) (name key : String) : Except ConfigFault String :=
  match environment.get? name with
  | some value => .ok value
  | none => .error (.missing key)

end Environment

namespace Config

def variableNames : List String :=
  ["BYTESET_SOURCE", "BYTESET_SOURCE_CONN_MAX", "BYTESET_DESTINATION", "BYTESET_CONN_MAX",
    "BYTESET_CONN_MAX_IDLE", "BYTESET_CONN_MAX_LIFETIME", "BYTESET_BATCH_CAP", "BYTESET_TIMEOUT",
    "BYTESET_CONNECT_TIMEOUT", "RUST_LOG"]

def readSource (environment : Environment) : Except ConfigFault SourceSettings := do
  let address ← environment.required "BYTESET_SOURCE" "source.address"
  pure ⟨address, (environment.number? "BYTESET_SOURCE_CONN_MAX").getD defaultMaxOpen⟩

def readDestination (environment : Environment) : Except ConfigFault DestinationSettings := do
  let lifetime ← environment.natural "BYTESET_CONN_MAX_LIFETIME"
    "destination.conn_max_lifetime_secs" 0
  let batchCap ← environment.natural "BYTESET_BATCH_CAP" "destination.batch_cap" defaultBatchCap
  let address ← environment.required "BYTESET_DESTINATION" "destination.address"
  pure
    { address
      maxOpen := (environment.number? "BYTESET_CONN_MAX").getD defaultMaxOpen
      maxIdle := environment.number? "BYTESET_CONN_MAX_IDLE"
      lifetime
      batchCap }

def read (environment : Environment) : Except ConfigFault Config := do
  let source ← readSource environment
  let destination ← readDestination environment
  let timeout ← environment.natural "BYTESET_TIMEOUT" "pipeline.timeout_secs" 1800
  let connectTimeout ← environment.natural "BYTESET_CONNECT_TIMEOUT"
    "pipeline.connect_timeout_secs" 30
  let logLevel := (environment.get? "RUST_LOG").getD "info"
  pure { source, destination, timeout, connectTimeout, logLevel }

end Config

def SourceSettings.poolOptions (settings : SourceSettings) : PoolOptions :=
  .ofRaw settings.maxOpen none 0

def DestinationSettings.poolOptions (settings : DestinationSettings) : PoolOptions :=
  .ofRaw settings.maxOpen settings.maxIdle settings.lifetime

end SqlPipe
