import SqlPipe.Failure
import SqlPipe.Event
import SqlPipe.Url.Parser

/-!
# MySQL addresses

A MySQL address may name its server in the form `tcp(host:port)` that some drivers use, and may
carry the parameters of those drivers.  Both are brought into the plain form: the server stands
where a URL has it, and a parameter either has a name that is understood or is dropped.
-/

namespace SqlPipe.Mysql

def defaultServer : List Char := "127.0.0.1:3306".toList

def plainServer (server : List Char) : Except Failure (List Char) := do
  let server ← match Text.after? "tcp(".toList server with
    | none => pure (if server = "tcp".toList then [] else server)
    | some inner =>
        if inner.getLast? = some ')' then pure inner.dropLast
        else throw (.address "unterminated tcp(...) in address")
  pure (if server.isEmpty then defaultServer else server)

/-- What stands behind the scheme of an address, with the server in its plain form.  The server
stands behind the last `@` before the first slash or question mark. -/
def plainRest (rest : List Char) : Except Failure (List Char) := do
  if Text.occursIn "unix(".toList rest then
    throw (.address "unix socket MySQL addresses are not supported")
  let (authority, behind) := rest.span fun c => c != '/' && c != '?'
  match Text.splitAtLast? '@' authority with
  | some (userinfo, server) => pure (userinfo ++ '@' :: (← plainServer server) ++ behind)
  | none => pure ((← plainServer authority) ++ behind)

def parameterNames : List String :=
  ["pool_min", "pool_max", "inactive_connection_ttl", "ttl_check_interval", "conn_ttl",
    "abs_conn_ttl", "abs_conn_ttl_jitter", "tcp_keepalive", "max_allowed_packet", "wait_timeout",
    "enable_cleartext_plugin", "reset_connection", "tcp_nodelay", "stmt_cache_size",
    "prefer_socket", "secure_auth", "client_found_rows", "socket", "compression", "require_ssl",
    "verify_ca", "verify_identity", "built_in_roots"]

def translate : String × String → List (String × String)
  | (name, value) =>
      if parameterNames.contains name then [(name, value)]
      else if name = "maxAllowedPacket" then [("max_allowed_packet", value)]
      else if name = "clientFoundRows" then [("client_found_rows", value)]
      else if name = "tls" then
        if value = "true" || value = "preferred" then [("require_ssl", "true")]
        else if value = "skip-verify" then
          [("require_ssl", "true"), ("verify_ca", "false"), ("verify_identity", "false")]
        else []
      else []

def remark? (parameter : String × String) : Option Event :=
  if (translate parameter).isEmpty then
    -- `tls` alone is dropped for its value
    let shown := if parameter.1 = "tls" then "tls=" ++ parameter.2 else parameter.1
    some ⟨.debug, "Dropped MySQL address parameter " ++ shown⟩
  else none

/-- The query with its parameters translated; there is none where nothing is left. -/
def translateQuery (query : String) : Option String :=
  match (Url.formPairs query.toList).flatMap translate with
  | [] => none
  | pairs => some (String.ofList (Url.formQuery pairs))

/-- The plain form of an address as it is written, and as a URL. -/
def plainUrl (rest : List Char) : Except Failure (String × Url) := do
  let text := String.ofList ("mysql://".toList ++ (← plainRest rest))
  match Url.parse text with
  | .ok url => pure (text, url)
  | .error fault => throw (.address fault.message)

/-- The text by which a driver connects.  An address without parameters stays as it is written. -/
def connectionText (rest : List Char) : Except Failure String := do
  let (text, url) ← plainUrl rest
  match url.query with
  | none => pure text
  | some query => pure { url with query := translateQuery query }.render

def remarks (rest : List Char) : List Event :=
  match plainUrl rest with
  | .ok (_, url) => ((url.query.map fun query => Url.formPairs query.toList).getD []).filterMap remark?
  | .error _ => []

end SqlPipe.Mysql
