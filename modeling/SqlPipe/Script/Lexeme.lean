import SqlPipe.Dialect
import SqlPipe.Text.Space

/-!
# Lexical position of a line

Whether a line feed ends a statement depends on where in the lexical structure it stands.  A line
is scanned from the position at its start to the position at its end, and the scan also tells which
significant byte came last: the last one outside comments and white space, and outside the inside
of literals.
-/

namespace SqlPipe.Script

/-- A position in the lexical structure of a statement. -/
inductive Lexeme
  | plain
  | quoted (quote : UInt8)
  | blockComment
  | dollar (name : List UInt8)
  deriving DecidableEq, Repr

def isTagByte (byte : UInt8) : Bool :=
  (0x41 ≤ byte && byte ≤ 0x5A) || (0x61 ≤ byte && byte ≤ 0x7A) ||
    (0x30 ≤ byte && byte ≤ 0x39) || byte == 0x5F

/-- The bytes up to and without the next `$`, provided that all may stand in a tag. -/
def tagName? (bytes : List UInt8) : Option (List UInt8) :=
  match bytes.dropWhile isTagByte with
  | [] => none
  | byte :: _ => if byte == 0x24 then some (bytes.takeWhile isTagByte) else none

/-- The name of the dollar tag that a `$` in front of the given bytes begins.  A `$` in front of a
digit is a parameter. -/
def dollarName? (rest : List UInt8) : Option (List UInt8) :=
  match rest with
  | [] => none
  | byte :: _ => if 0x30 ≤ byte && byte ≤ 0x39 then none else tagName? rest

def afterBytes? : List UInt8 → List UInt8 → Option (List UInt8)
  | [], bytes => some bytes
  | _ :: _, [] => none
  | p :: part, b :: bytes => if p == b then afterBytes? part bytes else none

theorem length_afterBytes? {part bytes rest : List UInt8}
    (h : afterBytes? part bytes = some rest) : bytes.length = part.length + rest.length := by
  induction part generalizing bytes with
  | nil => simp_all [afterBytes?]
  | cons p part ih =>
      cases bytes with
      | nil => simp [afterBytes?] at h
      | cons b bytes =>
          simp only [afterBytes?] at h
          split at h
          · have := ih h
            simp only [List.length_cons]
            omega
          · simp at h

/-- Scans the bytes of a line from a lexical position.  `last` is the last significant byte so
far. -/
def scanLine (dialect : Dialect) :
    Lexeme → Option UInt8 → List UInt8 → Lexeme × Option UInt8
  | position, last, [] => (position, last)
  | .plain, last, byte :: rest =>
      if byte == 0x27 || byte == 0x22 || byte == 0x60 then
        scanLine dialect (.quoted byte) (some byte) rest
      else if byte == 0x2D && rest.head? == some 0x2D then (.plain, last)
      else if byte == 0x23 && dialect.hashComments then (.plain, last)
      else if byte == 0x2F && rest.head? == some 0x2A then
        scanLine dialect .blockComment last rest.tail
      else if byte == 0x24 && dialect.dollarQuoting then
        match dollarName? rest with
        | some name => scanLine dialect (.dollar name) (some byte) (rest.drop (name.length + 1))
        | none => scanLine dialect .plain (some byte) rest
      else if Text.isAsciiSpace byte then scanLine dialect .plain last rest
      else scanLine dialect .plain (some byte) rest
  | .quoted quote, last, byte :: rest =>
      if byte == 0x5C && dialect.backslashEscapes then
        scanLine dialect (.quoted quote) last rest.tail
      else if byte == quote then
        if rest.head? == some quote then scanLine dialect (.quoted quote) last rest.tail
        else scanLine dialect .plain (some quote) rest
      else scanLine dialect (.quoted quote) last rest
  | .blockComment, last, byte :: rest =>
      if byte == 0x2A && rest.head? == some 0x2F then scanLine dialect .plain last rest.tail
      else scanLine dialect .blockComment last rest
  | .dollar name, last, byte :: rest =>
      if byte == 0x24 then
        match _hclose : afterBytes? (name ++ [0x24]) rest with
        | some rest' => scanLine dialect .plain (some 0x24) rest'
        | none => scanLine dialect (.dollar name) last rest
      else scanLine dialect (.dollar name) last rest
termination_by _ _ bytes => bytes.length
decreasing_by
  all_goals try have hlen := length_afterBytes? _hclose
  all_goals simp only [List.length_cons, List.length_tail, List.length_drop] at *
  all_goals omega

end SqlPipe.Script
