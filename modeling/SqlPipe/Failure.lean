import SqlPipe.Text.Quoted
import SqlPipe.Text.Utf8

/-!
# Failures

What can go wrong on the way of a script into a database, with one wording for each cause.  A
failure that belongs to a statement carries the whole statement and shows an excerpt of it.
-/

namespace SqlPipe

/-- The causes for which a pipe stops. -/
inductive Failure
  | address (reason : String)
  | connection (reason : String)
  | io (reason : String)
  | parse (statement reason : String)
  | database (reason : String)
  | execution (statement reason : String)
  | cancelled
  | notImplemented (reason : String)
  /-- A state that should not occur. -/
  | internal (reason : String)
  deriving DecidableEq, Repr, Inhabited

def excerptLimit : Nat := 256

/-- The longest beginning of a text within a number of UTF-8 bytes. -/
def takeBytes : Nat → List Char → List Char
  | _, [] => []
  | room, c :: rest => if c.utf8Size ≤ room then c :: takeBytes (room - c.utf8Size) rest else []

/-- A statement as messages show it: whole when it is short, otherwise cut before a character and
followed by three dots. -/
def excerpt (statement : String) : String :=
  if Text.utf8Size statement.toList ≤ excerptLimit then statement
  else String.ofList (takeBytes excerptLimit statement.toList) ++ "..."

namespace Failure

def message : Failure → String
  | address reason => "Address error: " ++ reason
  | connection reason => "Connection error: " ++ reason
  | io reason => "IO error: " ++ reason
  | parse statement reason =>
      "parse failed for statement " ++ Text.quoted (excerpt statement) ++ ": " ++ reason
  | database reason => "Database error: " ++ reason
  | execution statement reason =>
      "cannot execute " ++ Text.quoted (excerpt statement) ++ ": " ++ reason
  | cancelled => "Pipeline cancelled"
  | notImplemented reason => "Not implemented: " ++ reason
  | internal reason => "Internal error: " ++ reason

def ofExecution (statement : String) : Failure → Failure
  | database reason => execution statement reason
  | cause => execution statement cause.message

def statement? : Failure → Option String
  | parse statement _ => some statement
  | execution statement _ => some statement
  | _ => none

end Failure

end SqlPipe
