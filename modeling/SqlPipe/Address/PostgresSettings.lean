import SqlPipe.Text.Numeral
import SqlPipe.Url.Host

/-!
# Settings of a PostgreSQL connection

A connection text names a user, hosts with ports between commas, a database and parameters.  All
names are in percent form.  A database has to be named.
-/

namespace SqlPipe.Postgres

inductive SettingsFault
  | invalid
  | databaseMissing
  | databaseEmpty
  deriving DecidableEq, Repr

def SettingsFault.message : SettingsFault → String
  | invalid => "configuration property \"url\" is invalid: invalid connection string"
  | databaseMissing => "configuration property \"dbname\" not found"
  | databaseEmpty => "configuration property \"dbname\" contains an empty string"

/-- The text that percent forms stand for. -/
def decode? (text : List Char) : Option String :=
  let bytes := Url.percentDecode (Text.utf8Encode text)
  let decoded := Text.utf8Decode bytes
  if Text.utf8Encode decoded = bytes then some (String.ofList decoded) else none

/-- A text that can stand for a host: a name, or any path. -/
def isHost (text : List Char) : Bool :=
  (Url.percentDecode (Text.utf8Encode text)).head? == some 0x2F || (decode? text).isSome

def isHostAddress (text : String) : Bool :=
  (Url.fourNumbers? text.toList).isSome || (Url.ipv6? text.toList).isSome

def commaParts (value : String) : List String :=
  (Text.splitAll ',' value.toList).map String.ofList

/-- A port; an empty one is the usual one. -/
def isPort (text : String) : Bool :=
  text.isEmpty || (Text.unsigned? 65535 text).isSome

def admits (name value : String) : Bool :=
  match name with
  | "user" | "password" | "dbname" | "options" | "application_name" | "host" => true
  | "sslmode" => ["disable", "prefer", "require"].contains value
  | "sslnegotiation" => ["postgres", "direct"].contains value
  | "hostaddr" => (commaParts value).all isHostAddress
  | "port" => (commaParts value).all isPort
  | "connect_timeout" | "tcp_user_timeout" | "keepalives_idle" | "keepalives_interval" =>
      (Text.signed? value).isSome
  | "keepalives" => (Text.unsigned? Text.greatest64 value).isSome
  | "keepalives_retries" => (Text.unsigned? Text.greatest32 value).isSome
  | "target_session_attrs" => ["any", "read-write", "read-only"].contains value
  | "channel_binding" => ["disable", "prefer", "require"].contains value
  | "load_balance_hosts" => ["disable", "random"].contains value
  | _ => false

/-- What stands before the first of some characters, and from there on; nothing before where none of
them occurs. -/
def cut? (stops : List Char) (text : List Char) : Option (List Char × List Char) :=
  match text.span fun c => !stops.contains c with
  | (_, []) => none
  | cut => some cut

def cutOrAll (stops : List Char) (text : List Char) : List Char × List Char :=
  text.span fun c => !stops.contains c

def hostAndPort? (part : List Char) : Option (List Char × List Char) :=
  match part with
  | '[' :: rest =>
      match cut? [']'] rest with
      | some (host, ']' :: ':' :: port) => some (host, port)
      | some (host, [_]) => some (host, [])
      | _ => none
  | _ =>
      let (host, port) := cutOrAll [':'] part
      some (host, port.drop 1)

def partOk (part : List Char) : Bool :=
  match hostAndPort? part with
  | none => false
  | some (host, port) =>
      isHost host && (decode? port).any fun port => admits "port" port

/-- The database that the parameters name last, behind one named before; none where a parameter
cannot be used.  `fuel` bounds their number. -/
def readParameters (database : Option String) (text : List Char) : Nat → Option (Option String)
  | 0 => some database
  | fuel + 1 =>
      if text.isEmpty then some database
      else do
        let (name, rest) ← cut? ['='] text
        let name ← decode? name
        let (value, rest) := cutOrAll ['&'] (rest.drop 1)
        -- the path of a socket may hold any bytes
        if name = "host" then
          if isHost value then readParameters database (rest.drop 1) fuel else none
        else do
          let value ← decode? value
          if !admits name value then none
          else
            readParameters (if name = "dbname" then some value else database) (rest.drop 1) fuel

def pathDatabase (text : List Char) : Option (Option String × List Char) :=
  match text with
  | '/' :: rest => do
      let (name, rest) := cutOrAll ['?'] rest
      let name ← decode? name
      pure (if name.isEmpty then none else some name, rest)
  | _ => some (none, text)

/-- The database that a connection text names, without its scheme; none where the text cannot be
used. -/
def database? (text : List Char) : Option (Option String) := do
  let rest ← match cut? ['@'] text with
    | some (credentials, rest) => do
        let (user, _) := cutOrAll [':'] credentials
        let _ ← decode? user
        pure (rest.drop 1)
    | none => pure text
  let (hosts, rest) := cutOrAll ['/', '?'] rest
  if !hosts.isEmpty && !(Text.splitAll ',' hosts).all partOk then none
  let (database, rest) ← pathDatabase rest
  match rest with
  | '?' :: parameters => readParameters database parameters parameters.length
  | _ => pure database

def settingsFault? (text : String) : Option SettingsFault :=
  match database? ((Text.after? "postgres://".toList text.toList).getD []) with
  | none => some .invalid
  | some none => some .databaseMissing
  | some (some database) => if database.isEmpty then some .databaseEmpty else none

end SqlPipe.Postgres
