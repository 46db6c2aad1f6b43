/-!
# UTF-8 with replacement

Encoding of characters, and a decoding that is total on bytes: each maximal malformed beginning of
a character becomes one replacement character U+FFFD.  A byte that can begin no character, and a
character broken off early, are replaced on their own, so decoding resumes at the first byte that
does not continue what came before.
-/

namespace SqlPipe.Text

def replacement : Char := '\uFFFD'

def utf8Encode (text : List Char) : List UInt8 :=
  text.flatMap String.utf8EncodeChar

def utf8Bytes (text : String) : List UInt8 :=
  utf8Encode text.toList

def utf8Size (text : List Char) : Nat :=
  text.foldl (fun size c => size + c.utf8Size) 0

def byteIn (low high byte : UInt8) : Bool :=
  low ≤ byte && byte ≤ high

def isContinuation (byte : UInt8) : Bool :=
  byteIn 0x80 0xBF byte

/-- The range of the second byte after a first byte that begins three or four bytes. -/
def secondByteOk (first second : UInt8) : Bool :=
  if first == 0xE0 then byteIn 0xA0 0xBF second
  else if first == 0xED then byteIn 0x80 0x9F second
  else if first == 0xF0 then byteIn 0x90 0xBF second
  else if first == 0xF4 then byteIn 0x80 0x8F second
  else isContinuation second

/-- The character of a first byte's payload and the payloads of its continuation bytes. -/
def assembleChar (first : Nat) (continuation : List UInt8) : Char :=
  Char.ofNat (continuation.foldl (fun code byte => code * 64 + (byte.toNat - 0x80)) first)

def decodeFirst (first : UInt8) (rest : List UInt8) : Char × List UInt8 :=
  if first < 0x80 then (Char.ofNat first.toNat, rest)
  else if byteIn 0xC2 0xDF first then
    match rest with
    | b :: rest' =>
        if isContinuation b then (assembleChar (first.toNat - 0xC0) [b], rest')
        else (replacement, rest)
    | [] => (replacement, [])
  else if byteIn 0xE0 0xEF first then
    match rest with
    | b :: rest' =>
        if secondByteOk first b then
          match rest' with
          | c :: rest'' =>
              if isContinuation c then (assembleChar (first.toNat - 0xE0) [b, c], rest'')
              else (replacement, rest')
          | [] => (replacement, [])
        else (replacement, rest)
    | [] => (replacement, [])
  else if byteIn 0xF0 0xF4 first then
    match rest with
    | b :: rest' =>
        if secondByteOk first b then
          match rest' with
          | c :: rest'' =>
              if isContinuation c then
                match rest'' with
                | d :: rest''' =>
                    if isContinuation d then
                      (assembleChar (first.toNat - 0xF0) [b, c, d], rest''')
                    else (replacement, rest'')
                | [] => (replacement, [])
              else (replacement, rest')
          | [] => (replacement, [])
        else (replacement, rest)
    | [] => (replacement, [])
  else (replacement, rest)

theorem length_decodeFirst_le (first : UInt8) (rest : List UInt8) :
    (decodeFirst first rest).2.length ≤ rest.length := by
  unfold decodeFirst
  repeat' split
  all_goals simp <;> omega

/-- Decodes bytes behind characters already decoded, which stand last character first. -/
def utf8DecodeOnto (decoded : List Char) : List UInt8 → List Char
  | [] => decoded.reverse
  | first :: rest =>
      utf8DecodeOnto ((decodeFirst first rest).1 :: decoded) (decodeFirst first rest).2
termination_by bytes => bytes.length
decreasing_by
  have := length_decodeFirst_le first rest
  simp only [List.length_cons]
  omega

/-- Decodes bytes, replacing what is malformed. -/
def utf8Decode (bytes : List UInt8) : List Char :=
  utf8DecodeOnto [] bytes

def utf8String (bytes : List UInt8) : String :=
  String.ofList (utf8Decode bytes)

end SqlPipe.Text
