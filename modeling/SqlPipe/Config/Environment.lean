import SqlPipe.Text.Alphabetic
import SqlPipe.Text.Space
import SqlPipe.Text.Utf8

/-!
# The environment

Settings come from variables.  A file of assignments, one a line, may give further ones; it never
changes a variable that is set.  A line that is no assignment ends the file, and the lines before it
count.

A value may stand in single quotes, which keep everything, or in double quotes, and a backslash
keeps the character after it.  Outside single quotes a dollar sign brings in another variable.  A blank
ends a value that is not quoted, and only a comment may follow it.
-/

namespace SqlPipe

/-- Variables with their values.  The first entry for a name counts. -/
abbrev Environment := List (String × String)

namespace Environment

def get? (environment : Environment) (name : String) : Option String :=
  environment.lookup name

def setDefault (environment : Environment) (name value : String) : Environment :=
  match environment.get? name with
  | some _ => environment
  | none => environment ++ [(name, value)]

/-! ## Values -/

structure Reading where
  /-- What is read of the value, last character first. -/
  output : List Char
  quote : Option Char
  escaped : Bool
  /-- The value has ended; only blanks and a comment may follow. -/
  ended : Bool
  /-- The name of a variable that is being read, last character first, and whether it stands in
  braces. -/
  naming : Option (List Char × Bool)
  commented : Bool

namespace Reading

def start : Reading := ⟨[], none, false, false, none, false⟩

def push (reading : Reading) (c : Char) : Reading :=
  { reading with output := c :: reading.output }

def bring (environment known : Environment) (reading : Reading) (name : List Char) : Reading :=
  let name := String.ofList name.reverse
  let value := ((environment.get? name).orElse fun _ => known.get? name).getD ""
  { reading with output := value.toList.reverseAux reading.output, naming := none }

def pushEscaped (reading : Reading) (c : Char) : Option Reading :=
  if ['\\', '\x27', '\x22', '$', ' '].contains c then
    some { reading.push c with escaped := false }
  else if c == 'n' then some { reading.push '\n' with escaped := false }
  else none

def nameStep (environment known : Environment) (reading : Reading) (name : List Char)
    (braced : Bool) (c : Char) : Reading :=
  if Text.isAlphanumeric c || (braced && c != '\x7d') then
    { reading with naming := some (c :: name, braced) }
  else if braced then reading.bring environment known name
  else if c == '\x7b' && name.isEmpty then { reading with naming := some ([], true) }
  else
    let reading := reading.bring environment known name
    if c == '$' then { reading with naming := some ([], false) } else reading.push c

def plainStep (reading : Reading) (c : Char) : Reading :=
  if c == '$' then { reading with naming := some ([], false) }
  else if c == '\\' then { reading with escaped := true }
  else if reading.quote.isSome then
    if c == '\x22' then { reading with quote := none } else reading.push c
  else if c == '\x27' || c == '\x22' then { reading with quote := some c }
  else if c == ' ' || c == '\t' then { reading with ended := true }
  else reading.push c

def step (environment known : Environment) (reading : Reading) (c : Char) : Option Reading :=
  if reading.commented then some reading
  else if reading.ended then
    if c == ' ' || c == '\t' then some reading
    else if c == '#' then some { reading with commented := true }
    else none
  else if reading.escaped then reading.pushEscaped c
  else if reading.quote == some '\x27' then
    some (if c == '\x27' then { reading with quote := none } else reading.push c)
  else
    match reading.naming with
    | some (name, braced) => some (reading.nameStep environment known name braced c)
    | none => some (reading.plainStep c)

/-- The value at its end; a quote or a brace that is open makes it none. -/
def finish (environment known : Environment) (reading : Reading) : Option String :=
  if reading.quote.isSome then none
  else
    match reading.naming with
    | some (_, true) => none
    | some (name, false) =>
        some (String.ofList (reading.bring environment known name).output.reverse)
    | none => some (String.ofList reading.output.reverse)

end Reading

def readValue? (environment known : Environment) (text : List Char) : Option String := do
  let reading ← text.foldlM (Reading.step environment known) Reading.start
  reading.finish environment known

/-! ## Lines -/

def beginsName (c : Char) : Bool := c.isAlpha || c == '_'

def continuesName (c : Char) : Bool := c.isAlphanum || c == '_' || c == '.'

def readName? (text : List Char) : Option (String × List Char) :=
  match text with
  | first :: _ =>
      if beginsName first then
        let (name, rest) := text.span continuesName
        some (String.ofList name, Text.trimStart rest)
      else none
  | [] => none

def afterEquals? : List Char → Option (List Char)
  | '=' :: rest => some rest
  | _ => none

/-- The name that a line assigns to, and what stands behind the equals sign.  The word `export` may
stand before the name, unless it is the name. -/
def readTarget? (text : List Char) : Option (String × List Char) := do
  let (name, rest) ← readName? text
  match afterEquals? rest with
  | some value => some (name, value)
  | none =>
      if name = "export" then
        let (name, rest) ← readName? rest
        some (name, ← afterEquals? rest)
      else none

inductive Line
  | nothing
  | assignment (name value : String)
  | broken

def isIdle (text : List Char) : Bool :=
  text.isEmpty || text.head? == some '#'

def readLine (environment known : Environment) (text : List Char) : Line :=
  let text := Text.trim text
  if isIdle text then .nothing
  else
    match readTarget? text with
    | none => .broken
    | some (name, value) =>
        let value := Text.trimStart value
        if isIdle value then .assignment name ""
        else
          match readValue? environment known value with
          | some value => .assignment name value
          | none => .broken

/-- The environment after some lines; `known` holds what earlier lines have assigned, the last
assignment first. -/
def addLines (environment known : Environment) : List (List UInt8) → Environment
  | [] => environment
  | bytes :: lines =>
      let text := Text.utf8Decode bytes
      if Text.utf8Encode text ≠ bytes then environment
      else
        match readLine environment known text with
        | .nothing => addLines environment known lines
        | .assignment name value =>
            addLines (environment.setDefault name value) ((name, value) :: known) lines
        | .broken => environment

def linesOnto (line : List UInt8) : List UInt8 → List (List UInt8)
  | [] => if line.isEmpty then [] else [line.reverse]
  | byte :: rest =>
      if byte == 0x0A then line.reverse :: linesOnto [] rest else linesOnto (byte :: line) rest

def addFile (environment : Environment) (bytes : List UInt8) : Environment :=
  addLines environment [] (linesOnto [] bytes)

end Environment

end SqlPipe
