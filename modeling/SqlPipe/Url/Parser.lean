import SqlPipe.Url.Host

/-!
# Reading URLs

A text is read from left to right: the scheme up to the first colon, the authority behind two
slashes, the path, and a query and a fragment behind their signs.  Blanks and controls around the
text are dropped, and so are tabs and line breaks anywhere in it.

The special schemes of the web are more forgiving.  For them a backslash is a slash, slashes in
front of the authority may be fewer or more than two, and a path is never empty.
-/

namespace SqlPipe.Url

/-- How much a scheme is looked into. -/
inductive SchemeKind
  | file
  /-- A scheme of the web, with the port that need not be written. -/
  | web (port : Nat)
  | other
  deriving DecidableEq, Repr

def SchemeKind.of (scheme : List Char) : SchemeKind :=
  match String.ofList scheme with
  | "file" => .file
  | "http" | "ws" => .web 80
  | "https" | "wss" => .web 443
  | "ftp" => .web 21
  | _ => .other

def SchemeKind.isSpecial : SchemeKind → Bool
  | other => false
  | _ => true

def isControlOrBlank (c : Char) : Bool := c.toNat ≤ 0x20

/-- A text without the blanks and controls around it, and without tabs and line breaks. -/
def cleaned (text : List Char) : List Char :=
  let trimmed := ((text.dropWhile isControlOrBlank).reverse.dropWhile isControlOrBlank).reverse
  trimmed.filter fun c => c != '\t' && c != '\n' && c != '\r'

def readScheme? (text : List Char) : Option (List Char × List Char) :=
  let (scheme, rest) := text.span fun c => c.isAlphanum || c == '+' || c == '-' || c == '.'
  match scheme, rest with
  | first :: _, ':' :: rest =>
      if first.isAlpha then some (scheme.map Char.toLower, rest) else none
  | _, _ => none

def endsAuthority (special : Bool) (c : Char) : Bool :=
  c == '/' || c == '?' || c == '#' || (special && c == '\\')

/-! ## The authority -/

/-- The name and the password in front of a host.  An empty password counts as none. -/
def readUserinfo (text : List Char) : String × Option String :=
  let (name, rest) := text.span (· != ':')
  let password := rest.drop 1
  (String.ofList (percentEncode userinfoSet name),
    if password.isEmpty then none else some (String.ofList (percentEncode userinfoSet password)))

/-- The text of a host, which ends at a colon outside brackets, and what stands behind it.  The
characters already passed stand last character first. -/
def splitHostOnto (special inBrackets : Bool) (passed : List Char) :
    List Char → List Char × List Char
  | [] => (passed.reverse, [])
  | c :: rest =>
      if endsAuthority special c || (c == ':' && !inBrackets) then (passed.reverse, c :: rest)
      else
        let inBrackets := if c == '[' then true else if c == ']' then false else inBrackets
        splitHostOnto special inBrackets (c :: passed) rest

def readPort (port : Option Nat) : List Char → Except Fault (Option Nat × List Char)
  | [] => .ok (port, [])
  | c :: rest =>
      if c.isDigit then
        let number := port.getD 0 * 10 + (c.toNat - 0x30)
        if number > 65535 then .error .port else readPort (some number) rest
      else if c == '/' || c == '\\' || c == '?' || c == '#' then .ok (port, c :: rest)
      else .error .port

/-- The port behind a host, if it is not the usual one of the scheme. -/
def portBehind (kind : SchemeKind) : List Char → Except Fault (Option Nat × List Char)
  | ':' :: rest => do
      let (port, rest) ← readPort none rest
      let usual := match kind with
        | .web usual => some usual
        | _ => none
      pure (if port == usual then none else port, rest)
  | rest => .ok (none, rest)

def readHost (kind : SchemeKind) (text : List Char) :
    Except Fault (Host × Option Nat × List Char) := do
  let (hostText, rest) := splitHostOnto kind.isSpecial false [] text
  if kind.isSpecial && hostText.isEmpty then throw .emptyHost
  let host ← if kind.isSpecial then specialHost hostText else plainHost hostText
  if host = .name "" && rest.head? == some ':' then throw .emptyHost
  let (port, rest) ← portBehind kind rest
  pure (host, port, rest)

/-- The authority at the beginning of a text that follows two slashes.  A user needs a host. -/
def readAuthority (kind : SchemeKind) (text : List Char) :
    Except Fault (Authority × List Char) := do
  let candidate := text.takeWhile fun c => !endsAuthority kind.isSpecial c
  let behind := text.dropWhile fun c => !endsAuthority kind.isSpecial c
  match Text.splitAtLast? '@' candidate with
  | none =>
      let (host, port, rest) ← readHost kind text
      pure (⟨"", none, host, port⟩, rest)
  | some (userinfo, hostBeginning) =>
      if userinfo.isEmpty && hostBeginning.isEmpty && !behind.isEmpty then throw .emptyHost
      let (username, password) := readUserinfo userinfo
      let (host, port, rest) ← readHost kind (hostBeginning ++ behind)
      if host = .name "" && !(username.isEmpty && password.isNone) then throw .emptyHost
      pure (⟨username, password, host, port⟩, rest)

/-! ## The path -/

def isUp (segment : String) : Bool :=
  ["..", ".%2e", "%2e.", "%2e%2e"].contains segment.toLower

def isHere (segment : String) : Bool :=
  [".", "%2e"].contains segment.toLower

def isDriveLetter (segment : String) : Bool :=
  match segment.toList with
  | [letter, sign] => letter.isAlpha && (sign == ':' || sign == '|')
  | _ => false

/-- Goes one step up from the segments passed, which stand last segment first.  A file path does not
leave its drive. -/
def stepUp (kind : SchemeKind) (passed : List String) : List String :=
  match passed with
  | [drive] => if kind = .file && isDriveLetter drive then passed else []
  | _ => passed.drop 1

/-- A segment as it joins those passed: the first one of a file path may be a drive letter, which is
written with a colon. -/
def joinSegment (kind : SchemeKind) (passed : List String) (segment : String) : List String :=
  if kind = .file && passed.isEmpty && isDriveLetter segment then
    String.ofList (segment.toList.take 1 ++ [':']) :: passed
  else segment :: passed

/-- Follows segments from those passed, which stand last segment first.  A step at the end of the
path leaves an empty segment. -/
def followSegments (kind : SchemeKind) (passed : List String) : List String → List String
  | [] => passed.reverse
  | segment :: rest =>
      let ending := if rest.isEmpty then [""] else []
      if isUp segment then followSegments kind (ending ++ stepUp kind passed) rest
      else if isHere segment then followSegments kind (ending ++ passed) rest
      else followSegments kind (joinSegment kind passed segment) rest

def readSegments (kind : SchemeKind) (text : List Char) : List String :=
  -- a backslash separates segments too
  let text := if kind.isSpecial then text.map fun c => if c == '\\' then '/' else c else text
  let parts := (Text.splitAll '/' text).map fun part => String.ofList (percentEncode pathSet part)
  let followed := followSegments kind [] parts
  match kind with
  | .file =>
      match followed.dropWhile String.isEmpty with
      | [] => [""]
      | rest => rest
  | _ => followed

def splitPath (text : List Char) : List Char × List Char :=
  text.span fun c => c != '?' && c != '#'

def pathBehind (kind : SchemeKind) (text : List Char) : Path :=
  match text with
  | [] => .segments (if kind.isSpecial then [""] else [])
  | c :: rest =>
      if c == '/' || (kind.isSpecial && c == '\\') then .segments (readSegments kind rest)
      else .segments (readSegments kind text)

/-! ## The whole -/

def readQuery (kind : SchemeKind) (text : List Char) : Option String × Option String :=
  let set := if kind.isSpecial then specialQuerySet else querySet
  let (queryText, fragmentText) := text.span (· != '#')
  let query := match queryText with
    | _ :: query => some (String.ofList (percentEncode set query))
    | [] => none
  let fragment := match fragmentText with
    | _ :: fragment => some (String.ofList (percentEncode fragmentSet fragment))
    | [] => none
  (query, fragment)

def assemble (scheme : List Char) (kind : SchemeKind) (authority : Option Authority) (path : Path)
    (behind : List Char) : Url :=
  let (query, fragment) := readQuery kind behind
  { scheme := String.ofList scheme, authority, path, query, fragment }

def readWithAuthority (scheme : List Char) (kind : SchemeKind) (text : List Char) :
    Except Fault Url := do
  let (authority, rest) ← readAuthority kind text
  let (pathText, behind) := splitPath rest
  pure (assemble scheme kind (some authority) (pathBehind kind pathText) behind)

/-- The host of a file behind two slashes, and what stands behind it.  This machine needs no name,
and a drive letter is no host. -/
def readFileHost (text : List Char) : Except Fault (Host × List Char) := do
  let hostText := text.takeWhile fun c => !endsAuthority true c
  if hostText.isEmpty || isDriveLetter (String.ofList hostText) then pure (.name "", text)
  else
    let host ← specialHost hostText
    pure (if host = .name "localhost" then .name "" else host,
      text.dropWhile fun c => !endsAuthority true c)

/-- The URL of a file with a host.  Behind a drive letter no host is left. -/
def fileUrl (scheme : List Char) (host : Host) (text : List Char) : Url :=
  let (pathText, behind) := splitPath text
  let path := pathBehind .file pathText
  let host := match path with
    | .segments (first :: _) => if isDriveLetter first then .name "" else host
    | _ => host
  assemble scheme .file (some ⟨"", none, host, none⟩) path behind

def readFile (scheme text : List Char) : Except Fault Url :=
  let slash (c : Char) : Bool := c == '/' || c == '\\'
  if (text.takeWhile slash).length < 2 then .ok (fileUrl scheme (.name "") text)
  else do
    let (host, rest) ← readFileHost (text.drop 2)
    pure (fileUrl scheme host rest)

def readOther (scheme text : List Char) : Except Fault Url :=
  match text with
  | '/' :: '/' :: rest => readWithAuthority scheme .other rest
  | '/' :: rest =>
      let (pathText, behind) := splitPath rest
      .ok (assemble scheme .other none (.segments (readSegments .other pathText)) behind)
  | _ =>
      let (pathText, behind) := splitPath text
      let path := String.ofList (percentEncode controlSet pathText)
      .ok (assemble scheme .other none (.verbatim path) behind)

def parse (text : String) : Except Fault Url :=
  match readScheme? (cleaned text.toList) with
  | none => .error .noScheme
  | some (scheme, rest) =>
      match SchemeKind.of scheme with
      | .file => readFile scheme rest
      | .web port =>
          -- any number of slashes may stand in front of the authority
          readWithAuthority scheme (.web port) (rest.dropWhile fun c => c == '/' || c == '\\')
      | .other => readOther scheme rest

end SqlPipe.Url
