import SqlPipe.Url.Basic
import SqlPipe.Url.Form
import SqlPipe.Url.Domain

/-!
# Reading hosts

The text of a host is the name of a domain, an address of version four in any of its old spellings,
or an address of version six between brackets.  Only the schemes of the web look into a name; for
every other scheme it is a text with a few characters forbidden.
-/

namespace SqlPipe.Url

/-! ## Version four -/

def numberIn? (base : Nat) (text : List Char) : Option Nat :=
  text.foldl (fun number c => do
    let value ← hexValue? c.toNat
    if value < base then pure ((← number) * base + value) else none) (some 0)

/-- A part of an address: decimal, octal behind a zero, or hexadecimal behind `0x`. -/
def partNumber? : List Char → Option Nat
  | [] => none
  | '0' :: 'x' :: digits => numberIn? 16 digits
  | '0' :: 'X' :: digits => numberIn? 16 digits
  | '0' :: digit :: digits => numberIn? 8 (digit :: digits)
  | digits => numberIn? 10 digits

def addressParts (text : List Char) : List (List Char) :=
  let parts := Text.splitAll '.' text
  if parts.getLast? == some [] then parts.dropLast else parts

/-- A name whose last part is a number is an address and nothing else. -/
def endsInNumber (text : List Char) : Bool :=
  match (addressParts text).getLast? with
  | some last => (!last.isEmpty && last.all Char.isDigit) || (partNumber? last).isSome
  | none => false

/-- The address of version four that a text spells.  The last part fills the bytes that the others
leave. -/
def ipv4? (text : List Char) : Option Nat := do
  let parts := addressParts text
  if parts.length > 4 then failure
  let numbers ← parts.mapM partNumber?
  let last ← numbers.getLast?
  let first := numbers.dropLast
  if last ≥ 1 <<< (8 * (4 - first.length)) || first.any (· > 255) then failure
  pure (first.zipIdx.foldl
    (fun address (number, index) => address + number <<< (8 * (3 - index))) last)

/-! ## Version six -/

def byteNumber? (text : List Char) : Option (Nat × List Char) :=
  let digits := text.takeWhile Char.isDigit
  if digits.isEmpty || (digits.length > 1 && digits.head? == some '0') || digits.length > 3 then none
  else do
    let number ← numberIn? 10 digits
    if number > 255 then none else some (number, text.dropWhile Char.isDigit)

def fourNumbers? (text : List Char) : Option (List Nat) := do
  let (a, rest) ← byteNumber? text
  let (b, rest) ← byteNumber? (← Text.after? ['.'] rest)
  let (c, rest) ← byteNumber? (← Text.after? ['.'] rest)
  let (d, rest) ← byteNumber? (← Text.after? ['.'] rest)
  if rest.isEmpty then some [a, b, c, d] else none

/-- The pieces of an address as they are read, with the place where zeros were left out. -/
structure Pieces where
  pieces : List Nat
  gap : Option Nat

def hexPiece (text : List Char) : Nat × List Char :=
  let digits := (text.take 4).takeWhile fun c => (hexValue? c.toNat).isSome
  ((numberIn? 16 digits).getD 0, text.drop digits.length)

/-- Reads the pieces of an address.  `fuel` bounds how many there can be. -/
def readPieces (read : Pieces) (text : List Char) : Nat → Option Pieces
  | 0 => if text.isEmpty then some read else none
  | fuel + 1 =>
      match text with
      | [] => some read
      | ':' :: rest =>
          if read.gap.isSome then none
          else readPieces { read with gap := some read.pieces.length } rest fuel
      | _ =>
          let (piece, rest) := hexPiece text
          match rest with
          | [] => some { read with pieces := read.pieces ++ [piece] }
          | '.' :: _ =>
              if rest.length == text.length || read.pieces.length + read.gap.toList.length > 6 then
                none
              else do
                let numbers ← fourNumbers? text
                match numbers with
                | [a, b, c, d] => some { read with pieces := read.pieces ++ [a * 256 + b, c * 256 + d] }
                | _ => none
          | ':' :: rest =>
              if rest.isEmpty then none
              else readPieces { read with pieces := read.pieces ++ [piece] } rest fuel
          | _ => none

/-- The eight pieces, with zeros where they were left out. -/
def Pieces.fill? (read : Pieces) : Option (List Nat) :=
  match read.gap with
  | none => if read.pieces.length = 8 then some read.pieces else none
  | some gap =>
      if read.pieces.length < 8 then
        some (read.pieces.take gap ++ List.replicate (8 - read.pieces.length) 0 ++ read.pieces.drop gap)
      else none

def ipv6? (text : List Char) : Option (List Nat) :=
  match text with
  | ':' :: ':' :: rest => do (← readPieces ⟨[], some 0⟩ rest 7).fill?
  | ':' :: _ => none
  | [] => none
  | [_] => none
  | _ => do (← readPieces ⟨[], none⟩ text 8).fill?

/-! ## Hosts -/

def bracketed (text : List Char) : Except Fault (List Char) :=
  match text.getLast? with
  | some ']' => .ok (text.drop 1).dropLast
  | _ => .error .ipv6

def bracketedHost (text : List Char) : Except Fault Host := do
  match ipv6? (← bracketed text) with
  | some pieces => pure (.ipv6 pieces)
  | none => throw .ipv6

def specialHost (text : List Char) : Except Fault Host :=
  if text.head? == some '[' then bracketedHost text
  else do
    let some name := domainToAscii? (percentDecode (Text.utf8Encode text))
      | throw .internationalName
    if name.isEmpty then throw .emptyHost
    if endsInNumber name then
      match ipv4? name with
      | some address => pure (.ipv4 address)
      | none => throw .ipv4
    else pure (.name (String.ofList name))

def forbiddenInHost (c : Char) : Bool :=
  ['\x00', '\t', '\n', '\r', ' ', '#', '/', ':', '<', '>', '?', '@', '[', '\\', ']', '^', '|'].contains c

def plainHost (text : List Char) : Except Fault Host :=
  if text.head? == some '[' then bracketedHost text
  else if text.any forbiddenInHost then .error .domainCharacter
  else .ok (.name (String.ofList (percentEncode controlSet text)))

end SqlPipe.Url
