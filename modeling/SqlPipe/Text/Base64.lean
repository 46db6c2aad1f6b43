import SqlPipe.Text.Utf8

/-!
# Base64

Bytes written with four symbols for every three of them, padded with equals signs to a whole group
of four.  Reading is strict: the padding has to be complete, and the bits that the last symbol has
to spare must be zero, so every sequence of bytes has one written form.
-/

namespace SqlPipe.Text.Base64

inductive Fault
  /-- A byte that cannot stand where it does. -/
  | symbol (offset : Nat) (byte : UInt8)
  /-- A last symbol with bits to spare that are not zero. -/
  | lastSymbol (offset : Nat) (byte : UInt8)
  /-- A single symbol is left over. -/
  | alone (length : Nat)
  | padding
  deriving DecidableEq, Repr

def Fault.message : Fault → String
  | symbol offset byte => "Invalid symbol " ++ toString byte.toNat ++ ", offset " ++ toString offset ++ "."
  | lastSymbol offset byte =>
      "Invalid last symbol " ++ toString byte.toNat ++ ", offset " ++ toString offset ++ "."
  | alone length => "Invalid input length: " ++ toString length
  | padding => "Invalid padding"

def pad : UInt8 := 0x3D

def value? (byte : UInt8) : Option Nat :=
  let code := byte.toNat
  if 0x41 ≤ code && code ≤ 0x5A then some (code - 0x41)
  else if 0x61 ≤ code && code ≤ 0x7A then some (code - 0x61 + 26)
  else if 0x30 ≤ code && code ≤ 0x39 then some (code - 0x30 + 52)
  else if code == 0x2B then some 62
  else if code == 0x2F then some 63
  else none

/-- The values of the symbols of a group up to its padding, from an offset, with the count of
padding.  Padding needs two symbols before it, and nothing may follow it. -/
def groupValues (start : Nat) (values : List Nat) (padding : Nat) :
    List UInt8 → Except Fault (List Nat × Nat)
  | [] => .ok (values, padding)
  | byte :: rest =>
      let offset := start + values.length + padding
      if byte == pad then
        if values.length + padding < 2 then .error (.symbol offset byte)
        else groupValues start values (padding + 1) rest
      else if padding > 0 then .error (.symbol (start + values.length) pad)
      else
        match value? byte with
        | some value => groupValues start (values ++ [value]) padding rest
        | none => .error (.symbol offset byte)

def threeBytes (a b c d : Nat) : List UInt8 :=
  let bits := ((a * 64 + b) * 64 + c) * 64 + d
  [UInt8.ofNat (bits / 65536), UInt8.ofNat (bits / 256 % 256), UInt8.ofNat (bits % 256)]

def lastGroup (start : Nat) (group : List UInt8) : Except Fault (List UInt8) := do
  let (values, padding) ← groupValues start [] 0 group
  if values.length < 2 then throw (.alone (start + values.length))
  if (values.length + padding) % 4 ≠ 0 then throw .padding
  let spare : Except Fault (List UInt8) :=
    .error (.lastSymbol (start + values.length - 1) (group.getD (values.length - 1) 0))
  match values with
  | [a, b] => if b % 16 = 0 then pure ((threeBytes a b 0 0).take 1) else spare
  | [a, b, c] => if c % 4 = 0 then pure ((threeBytes a b c 0).take 2) else spare
  | [a, b, c, d] => pure (threeBytes a b c d)
  | _ => pure []

def valueAt (offset : Nat) (byte : UInt8) : Except Fault Nat :=
  match value? byte with
  | some value => .ok value
  | none => .error (.symbol offset byte)

def innerGroup (start : Nat) (a b c d : UInt8) : Except Fault (List UInt8) := do
  let a ← valueAt start a
  let b ← valueAt (start + 1) b
  let c ← valueAt (start + 2) c
  let d ← valueAt (start + 3) d
  pure (threeBytes a b c d)

/-- Decodes groups behind bytes already decoded, which stand last byte first.  The last group may be
short. -/
def decodeOnto (decoded : List UInt8) (start : Nat) : List UInt8 → Except Fault (List UInt8)
  | a :: b :: c :: d :: e :: rest =>
      match innerGroup start a b c d with
      | .ok bytes => decodeOnto (bytes.reverseAux decoded) (start + 4) (e :: rest)
      | .error fault => .error fault
  | [] => .ok decoded.reverse
  | group =>
      match lastGroup start group with
      | .ok bytes => .ok (decoded.reverse ++ bytes)
      | .error fault => .error fault

/-- A byte left over at the end that is no symbol is told of before anything else. -/
def strayEnd? (bytes : List UInt8) : Option Fault :=
  match bytes.getLast? with
  | some byte =>
      if bytes.length % 4 == 1 && byte != pad && (value? byte).isNone then
        some (.symbol (bytes.length - 1) byte)
      else none
  | none => none

def decode (bytes : List UInt8) : Except Fault (List UInt8) :=
  match strayEnd? bytes with
  | some fault => .error fault
  | none => decodeOnto [] 0 bytes

end SqlPipe.Text.Base64
