import SqlPipe.Url.Percent
import SqlPipe.Text.Search

/-!
# URLs

A URL in its parts, and its one written form.  The parts hold their text as it is written, with
percent forms where their place asks for them.
-/

namespace SqlPipe

namespace Url

inductive Fault
  | emptyHost
  | internationalName
  | port
  | ipv4
  | ipv6
  | domainCharacter
  | noScheme
  deriving DecidableEq, Repr

def Fault.message : Fault → String
  | emptyHost => "empty host"
  | internationalName => "invalid international domain name"
  | port => "invalid port number"
  | ipv4 => "invalid IPv4 address"
  | ipv6 => "invalid IPv6 address"
  | domainCharacter => "invalid domain character"
  | noScheme => "relative URL without a base"

inductive Host
  /-- A name, which may be empty. -/
  | name (text : String)
  | ipv4 (address : Nat)
  | ipv6 (pieces : List Nat)
  deriving DecidableEq, Repr, Inhabited

structure Authority where
  username : String
  password : Option String
  host : Host
  port : Option Nat
  deriving DecidableEq, Repr, Inhabited

inductive Path
  /-- Each segment stands behind a slash. -/
  | segments (parts : List String)
  /-- A path that begins with no slash. -/
  | verbatim (text : String)
  deriving DecidableEq, Repr, Inhabited

end Url

structure Url where
  scheme : String
  authority : Option Url.Authority
  path : Url.Path
  query : Option String
  fragment : Option String
  deriving DecidableEq, Repr, Inhabited

namespace Url

/-! ## Hosts -/

def renderIpv4 (address : Nat) : String :=
  String.intercalate "." ([16777216, 65536, 256, 1].map fun weight =>
    toString (address / weight % 256))

def leadingZeros (pieces : List Nat) : Nat :=
  (pieces.takeWhile (· == 0)).length

/-- The longest run of zeros in the pieces from an index on: where it begins, and its length.  Of
runs of one length the first one counts. -/
def longestRun (index : Nat) : List Nat → Nat × Nat
  | [] => (index, 0)
  | piece :: pieces =>
      let here := leadingZeros (piece :: pieces)
      let (start, length) := longestRun (index + 1) pieces
      if here ≥ length then (index, here) else (start, length)

def renderPieces (pieces : List Nat) : String :=
  String.intercalate ":" (pieces.map fun piece => String.ofList (Nat.toDigits 16 piece))

/-- The eight pieces of an address, with two colons for the longest run of at least two zeros. -/
def renderIpv6 (pieces : List Nat) : String :=
  let (start, length) := longestRun 0 pieces
  if length < 2 then renderPieces pieces
  else renderPieces (pieces.take start) ++ "::" ++ renderPieces (pieces.drop (start + length))

def Host.render : Host → String
  | name text => text
  | ipv4 address => renderIpv4 address
  | ipv6 pieces => "[" ++ renderIpv6 pieces ++ "]"

/-! ## The written form -/

def Authority.renderUser (authority : Authority) : String :=
  match authority.password with
  | some password => authority.username ++ ":" ++ password ++ "@"
  | none => if authority.username.isEmpty then "" else authority.username ++ "@"

def Authority.render (authority : Authority) : String :=
  authority.renderUser ++ authority.host.render ++
    match authority.port with
    | some port => ":" ++ toString port
    | none => ""

def Path.render : Path → String
  | segments parts => String.join (parts.map fun part => "/" ++ part)
  | verbatim text => text

def renderPart (sign : String) : Option String → String
  | some text => sign ++ text
  | none => ""

/-- The written form of a URL.  A path that begins with two slashes is kept apart from an authority
by a point. -/
def render (url : Url) : String :=
  let beginning := match url.authority with
    | some authority => "//" ++ authority.render
    | none => if url.path.render.startsWith "//" then "/." else ""
  url.scheme ++ ":" ++ beginning ++ url.path.render ++ renderPart "?" url.query ++
    renderPart "#" url.fragment

def masked (url : Url) : Url :=
  { url with authority := url.authority.map fun authority =>
      { authority with password := authority.password.map fun _ => "***" } }

end Url

end SqlPipe
