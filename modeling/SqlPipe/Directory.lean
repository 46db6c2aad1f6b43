import SqlPipe.Script.Reader
import SqlPipe.Url.Form

/-!
# The working directory

The files that lie in the working directory, and what comes of opening a path.  A file is known by
the path that leads to it, which for a file of the directory is its name.  Of everything outside the
directory only a few other directories are known to exist.
-/

namespace SqlPipe

/-- Files by the paths that lead to them. -/
abbrev Directory := List (String × List UInt8)

namespace Directory

inductive Fault
  | missing
  | notDirectory
  | nameTooLong
  | zeroByte
  deriving DecidableEq, Repr

def Fault.message : Fault → String
  | missing => "No such file or directory (os error 2)"
  | notDirectory => "Not a directory (os error 20)"
  | nameTooLong => "File name too long (os error 36)"
  | zeroByte => "file name contained an unexpected NUL byte"

/-- What comes of reading from a directory as if it were a file. -/
def directoryRead : String := "Is a directory (os error 21)"

/-- A directory that is known to exist. -/
inductive Place
  | working
  | above
  | root
  | temporary
  deriving DecidableEq, Repr

inductive Node
  | place (place : Place)
  | file (bytes : List UInt8)
  deriving DecidableEq, Repr

/-- The most bytes in a name, and in a path. -/
def nameLimit : Nat := 255

def pathLimit : Nat := 4095

def enter (directory : Directory) (place : Place) (name : String) : Except Fault Node :=
  if name.isEmpty || name = "." then .ok (.place place)
  else if name.utf8ByteSize > nameLimit then .error .nameTooLong
  else
    match place, name with
    | .working, ".." => .ok (.place .above)
    | .above, ".." => .ok (.place .above)
    | .root, ".." => .ok (.place .root)
    | .temporary, ".." => .ok (.place .root)
    | .root, "tmp" => .ok (.place .temporary)
    | .working, name =>
        match directory.lookup name with
        | some bytes => .ok (.file bytes)
        | none => .error .missing
    | _, _ => .error .missing

def follow (directory : Directory) (node : Node) : List String → Except Fault Node
  | [] => .ok node
  | name :: names => do
      match node with
      | .file _ => throw .notDirectory
      | .place place => follow directory (← enter directory place name) names

def names (path : String) : List String :=
  (Text.splitAll '/' path.toList).map String.ofList

def find (directory : Directory) (path : String) : Except Fault Node :=
  if path.toList.contains '\x00' then .error .zeroByte
  else if path.isEmpty then .error .missing
  else if path.utf8ByteSize > pathLimit then .error .nameTooLong
  else
    match directory.lookup path, names path with
    | some bytes, _ => .ok (.file bytes)
    | none, "" :: rest => follow directory (.place .root) rest
    | none, names => follow directory (.place .working) names

/-- The stream of what a path leads to.  A directory can be opened, but not read. -/
def stream (directory : Directory) (path : String) : Except Fault (List Script.Delivery) := do
  match ← directory.find path with
  | .file bytes => pure ((Script.chunksOf bytes).map .bytes)
  | .place _ => pure [.failed directoryRead]

end Directory

end SqlPipe
