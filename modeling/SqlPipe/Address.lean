import SqlPipe.Dialect
import SqlPipe.Address.Mysql
import SqlPipe.Text.Base64
import SqlPipe.Text.Space

/-!
# Addresses

Where a script comes from and where it goes: a file, a page of the web, a text given in the address
itself, or a database whose scheme names the dialect.  Every address has a description that shows no
password.
-/

namespace SqlPipe

/-- The address of a database, with the text by which a driver connects to it. -/
structure DatabaseAddress where
  dialect : Dialect
  connectionText : String
  deriving DecidableEq, Repr

/-- Where a script comes from or goes. -/
inductive Address
  | file (path : String)
  | web (url : Url)
  | inline (bytes : List UInt8)
  | database (address : DatabaseAddress)
  deriving DecidableEq, Repr

/-- A URL as it may be shown: without its password, and not at all where it cannot be read. -/
def maskCredentials (text : String) : String :=
  match Url.parse text with
  | .ok url => url.masked.render
  | .error _ => "[invalid-url]"

namespace DatabaseAddress

def splitScheme? (text : List Char) : Option (List Char × List Char) :=
  Text.splitAt? "://".toList text

/-- The text by which a driver of the dialect connects, from what stands behind the scheme. -/
def connectionTextOf (dialect : Dialect) (rest : List Char) : Except Failure String :=
  match dialect with
  | .mysql => Mysql.connectionText rest
  | .postgres =>
      -- of the two names of the scheme the driver is given this one
      let text := "postgres://" ++ String.ofList rest
      match Url.parse text with
      | .ok _ => .ok text
      | .error fault => .error (.address fault.message)
  | .sqlite =>
      if rest.isEmpty then .error (.address "sqlite address without path")
      else .ok (String.ofList rest)
  | .oracle => .ok ("oracle://" ++ String.ofList rest)
  | .sqlServer => .ok ("sqlserver://" ++ String.ofList rest)

def parse (text : List Char) : Except Failure DatabaseAddress := do
  let some (scheme, rest) := splitScheme? text
    | throw (.address "cannot recognize driver from database address")
  let some dialect := Dialect.ofScheme? (String.ofList scheme)
    | throw (.address ("unsupported address scheme: " ++ String.ofList scheme))
  pure ⟨dialect, ← connectionTextOf dialect rest⟩

def remarks (text : List Char) : List Event :=
  match splitScheme? text with
  | some (scheme, rest) =>
      if Dialect.ofScheme? (String.ofList scheme) = some .mysql then Mysql.remarks rest else []
  | none => []

def masked (address : DatabaseAddress) : String :=
  match address.dialect with
  | .sqlite => "sqlite://" ++ address.connectionText
  | _ => maskCredentials address.connectionText

end DatabaseAddress

namespace Address

/-- The kinds of address that a text may begin as, with what stands behind the beginning. -/
inductive Beginning
  | blank
  | file (path : List Char)
  | web
  | base64 (text : List Char)
  | inline (text : List Char)
  | database

def beginning (text : List Char) : Beginning :=
  if (Text.trim text).isEmpty then .blank
  else
    match Text.after? "file://".toList text, Text.after? "raw+base64://".toList text,
      Text.after? "raw://".toList text with
    | some path, _, _ => .file path
    | _, some encoded, _ => .base64 encoded
    | _, _, some script => .inline script
    | none, none, none =>
        if Text.startsWith "http://".toList text || Text.startsWith "https://".toList text then .web
        else .database

def parse (text : String) : Except Failure Address :=
  match beginning text.toList with
  | .blank => .error (.address "blank address")
  | .file path =>
      if path.isEmpty then .error (.address "file address without path")
      else .ok (.file (String.ofList path))
  | .web =>
      match Url.parse text with
      | .ok url => .ok (.web url)
      | .error fault => .error (.address fault.message)
  | .base64 encoded =>
      match Text.Base64.decode (Text.utf8Encode (Text.trim encoded)) with
      | .ok bytes => .ok (.inline bytes)
      | .error fault => .error (.address ("invalid base64 payload: " ++ fault.message))
  | .inline script => .ok (.inline (Text.utf8Encode script))
  | .database => (DatabaseAddress.parse text.toList).map .database

def remarks (text : String) : List Event :=
  match beginning text.toList with
  | .database => DatabaseAddress.remarks text.toList
  | _ => []

def parseDatabase (text : String) : Except Failure DatabaseAddress := do
  match ← parse text with
  | .database address => pure address
  | _ => throw (.address "destination must be a database address")

def describe : Address → String
  | file path => "file://" ++ path
  | web url => maskCredentials url.render
  | inline bytes => "raw (" ++ toString bytes.length ++ " bytes)"
  | database address => address.masked

end Address

end SqlPipe
