import SqlPipe.Directory
import SqlPipe.Pool.Sqlite
import SqlPipe.Text.Quoted

/-!
# What the path of a SQLite database leads to

A path names a file or is empty or `:memory:`, which makes a database of its own for each
connection.  It may also be a URL of a file, whose parameter `mode` tells how the file is opened.
-/

namespace SqlPipe

/-- What the path of a SQLite database leads to. -/
inductive SqliteTarget
  /-- A database of its own for each connection. -/
  | memory
  | file (path : String) (mustExist : Bool)
  | refused (reason : String)
  deriving DecidableEq, Repr

namespace SqliteTarget

def ofPlainPath (path : String) : SqliteTarget :=
  if path.isEmpty || path = SqlitePool.memoryPath then memory else file path false

def decoded (text : List Char) : String :=
  Text.utf8String (Url.percentDecode (Text.utf8Encode text))

def parameter? (name : String) (query : List Char) : Option String :=
  let pairs := (Text.splitAll '&' query).map fun pair =>
    let (key, value) := pair.span (· != '=')
    (decoded key, decoded (value.drop 1))
  pairs.lookup name

def ofUrlPath (text : List Char) : SqliteTarget :=
  let text := text.takeWhile (· != '#')
  let (path, query) := text.span (· != '?')
  let plain := ofPlainPath (decoded path)
  match parameter? "mode" (query.drop 1), plain with
  | none, _ | some "rwc", _ => plain
  | some "memory", _ => memory
  | some "ro", file path _ | some "rw", file path _ => file path true
  | some "ro", _ | some "rw", _ => plain
  | some mode, _ => refused ("no such access mode: " ++ mode)

/-- Takes the authority off a URL, which has to be the machine itself. -/
def ofUrl (text : List Char) : SqliteTarget :=
  match text with
  | '/' :: '/' :: text =>
      let (authority, path) := text.span (· != '/')
      if authority.isEmpty || authority = "localhost".toList then ofUrlPath path
      else refused ("invalid uri authority: " ++ String.ofList authority)
  | text => ofUrlPath text

def ofPath (path : String) : SqliteTarget :=
  let before := path.toList.takeWhile (· != '\x00')
  if before.length < path.length then
    refused ("nul byte found in provided data at position: " ++
      toString (String.ofList before).utf8ByteSize)
  else
    match Text.after? "file:".toList path.toList with
    | some rest => ofUrl rest
    | none => ofPlainPath path

def splitName (path : String) : String × String :=
  match Text.splitAtLast? '/' path.toList with
  | some (directory, name) =>
      (if directory.isEmpty then "/" else String.ofList directory, String.ofList name)
  | none => (".", path)

/-- The file of a database can be opened, which makes it where it may be made. -/
def fileOpens (directory : Directory) (path : String) (mustExist : Bool) : Bool :=
  match directory.find path with
  | .ok (.file _) => true
  | .ok (.place _) => false
  | .error _ =>
      let (parent, name) := splitName path
      match directory.find parent with
      | .ok (.place _) => !mustExist && !name.isEmpty && name.utf8ByteSize ≤ Directory.nameLimit
      | _ => false

def obstacle (directory : Directory) (path : String) : Option Failure :=
  let failure (reason : String) : Failure :=
    .connection ("Failed to open SQLite database: " ++ reason)
  match ofPath path with
  | memory => none
  | file name mustExist =>
      if fileOpens directory name mustExist then none
      else some (failure ("unable to open database file: " ++ path))
  | refused reason => some (failure reason)

/-- The file that opening a database leaves in the working directory. -/
def leaves : SqliteTarget → Option String
  | file path _ =>
      let (parent, name) := splitName path
      if (Directory.names parent).all (fun part => part.isEmpty || part = ".") &&
          !parent.startsWith "/" then some name
      else none
  | _ => none

end SqliteTarget

end SqlPipe
