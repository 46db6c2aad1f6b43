import SqlPipe.Address.Mysql
import SqlPipe.Text.Numeral

/-!
# Settings of a MySQL connection

The parameters of a connection text have values of fixed kinds.  The first value that is not of its
kind makes the text useless, and so do bounds of the driver's own pool that contradict each other.
-/

namespace SqlPipe.Mysql

/-- What a parameter may hold. -/
inductive ParameterKind
  | number (greatest : Nat)
  | flag
  | compression
  | anything
  deriving DecidableEq, Repr

def kindOf? (name : String) : Option ParameterKind :=
  if ["pool_min", "pool_max", "inactive_connection_ttl", "ttl_check_interval", "conn_ttl",
      "abs_conn_ttl", "abs_conn_ttl_jitter", "max_allowed_packet", "wait_timeout",
      "stmt_cache_size"].contains name then some (.number Text.greatest64)
  else if name = "tcp_keepalive" then some (.number Text.greatest32)
  else if ["enable_cleartext_plugin", "reset_connection", "tcp_nodelay", "prefer_socket",
      "secure_auth", "client_found_rows", "require_ssl", "verify_ca", "verify_identity",
      "built_in_roots"].contains name then some .flag
  else if name = "compression" then some .compression
  else if name = "socket" then some .anything
  else none

def ParameterKind.admits : ParameterKind → String → Bool
  | number greatest, value => (Text.unsigned? greatest value).isSome
  | flag, value => value = "true" || value = "false"
  | compression, value =>
      ["fast", "on", "true", "best"].contains value ||
        match value.toList with
        | [c] => c.isDigit
        | _ => false
  | anything, _ => true

def parameterFault? (parameter : String × String) : Option String :=
  match kindOf? parameter.1 with
  | none => some ("Unknown connection URL parameter `" ++ parameter.1 ++ "'")
  | some kind =>
      if kind.admits parameter.2 then none
      else some ("Invalid value `" ++ parameter.2 ++ "' for connection URL parameter `" ++
        parameter.1 ++ "'")

/-- The number that the last parameter of a name holds. -/
def lastNumber (name : String) (default : Nat) (parameters : List (String × String)) : Nat :=
  match parameters.reverse.lookup name with
  | some value => (Text.unsigned? Text.greatest64 value).getD default
  | none => default

/-- What is wrong with the bounds of the driver's own pool. -/
def boundsFault? (parameters : List (String × String)) : Option String :=
  let least := lastNumber "pool_min" 10 parameters
  let most := lastNumber "pool_max" 100 parameters
  if least ≤ most then none
  else some ("Invalid pool constraints: pool_min (" ++ toString least ++ ") > pool_max (" ++
    toString most ++ ").")

/-- What is wrong with a connection text. -/
def settingsFault? (text : String) : Option String :=
  match Url.parse text with
  | .error fault => some ("URL parse error: " ++ fault.message)
  | .ok url =>
      if (url.authority.map Url.Authority.host).getD (.name "") = .name "" then
        some "Invalid or incomplete connection URL"
      else
        let parameters := Url.formPairs (url.query.getD "").toList
        (parameters.findSome? parameterFault?).orElse fun _ => boundsFault? parameters

end SqlPipe.Mysql
