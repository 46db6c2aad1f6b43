import SqlPipe.Text.Utf8

/-!
# Percent forms

Characters that may not stand at a place of a URL are written as the bytes of their UTF-8 form, each
as a percent sign with two hexadecimal digits.  Every part of a URL has its own set of such
characters; characters outside ASCII belong to all of them.
-/

namespace SqlPipe.Url

def hexDigit (value : Nat) : Char :=
  if value < 10 then Char.ofNat (0x30 + value) else Char.ofNat (0x37 + value)

def hexValue? (code : Nat) : Option Nat :=
  if 0x30 ≤ code && code ≤ 0x39 then some (code - 0x30)
  else if 0x41 ≤ code && code ≤ 0x46 then some (code - 0x37)
  else if 0x61 ≤ code && code ≤ 0x66 then some (code - 0x57)
  else none

def percentByte (byte : UInt8) : List Char :=
  ['%', hexDigit (byte.toNat / 16), hexDigit (byte.toNat % 16)]

/-! ## The sets -/

def controlSet (c : Char) : Bool :=
  c.toNat < 0x20 || c.toNat == 0x7F

def fragmentSet (c : Char) : Bool :=
  controlSet c || [' ', '\x22', '<', '>', '\x60'].contains c

def pathSet (c : Char) : Bool :=
  fragmentSet c || ['#', '?', '\x7b', '\x7d'].contains c

def userinfoSet (c : Char) : Bool :=
  pathSet c || ['/', ':', ';', '=', '@', '[', '\\', ']', '^', '|'].contains c

def querySet (c : Char) : Bool :=
  controlSet c || [' ', '\x22', '#', '<', '>'].contains c

def specialQuerySet (c : Char) : Bool :=
  querySet c || c == '\x27'

/-! ## Writing and reading -/

def percentChar (set : Char → Bool) (c : Char) : List Char :=
  if c.toNat < 0x80 && !set c then [c] else (Text.utf8Encode [c]).flatMap percentByte

def percentEncode (set : Char → Bool) (text : List Char) : List Char :=
  text.flatMap (percentChar set)

def hexPair? (high low : UInt8) : Option UInt8 :=
  match hexValue? high.toNat, hexValue? low.toNat with
  | some h, some l => some (UInt8.ofNat (h * 16 + l))
  | _, _ => none

/-- Decodes percent forms behind bytes already decoded, which stand last byte first. -/
def percentDecodeOnto (decoded : List UInt8) : List UInt8 → List UInt8
  | [] => decoded.reverse
  | [a] => (a :: decoded).reverse
  | [a, b] => (b :: a :: decoded).reverse
  | a :: b :: c :: rest =>
      match if a == 0x25 then hexPair? b c else none with
      | some byte => percentDecodeOnto (byte :: decoded) rest
      | none => percentDecodeOnto (a :: decoded) (b :: c :: rest)

/-- The bytes that a text with percent forms stands for.  A percent sign without two digits stands
for itself. -/
def percentDecode (bytes : List UInt8) : List UInt8 :=
  percentDecodeOnto [] bytes

end SqlPipe.Url
