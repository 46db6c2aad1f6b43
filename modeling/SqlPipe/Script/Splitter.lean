import SqlPipe.Script.Lexeme
import SqlPipe.Text.Utf8

/-!
# Splitting a script into statements

A statement ends at a line feed in front of which `;` stands as the last significant byte, outside
quotes and comments.  A statement that begins with a line comment ends with its line, and one that
holds nothing but block comments ends with the line that closes the last of them.  What is left at
the end of the input is a statement too.

Bytes arrive in pieces of any size.  A splitter keeps the lines of the current statement that have
been scanned, and the lexical position behind them, so that no line is scanned twice.
-/

namespace SqlPipe.Script

inductive Shape
  | lineComment
  | blockComment
  | code
  deriving DecidableEq, Repr

/-- A splitter between two pieces of input. -/
structure Splitter where
  dialect : Dialect
  /-- The scanned lines of the current statement, last byte first. -/
  scanned : List UInt8
  /-- What the current statement begins with, once that is known. -/
  shape : Option Shape
  position : Lexeme
  pending : List UInt8
  deriving DecidableEq, Repr

namespace Splitter

def empty (dialect : Dialect) : Splitter where
  dialect := dialect
  scanned := []
  shape := none
  position := .plain
  pending := []

def feed (splitter : Splitter) (chunk : List UInt8) : Splitter :=
  { splitter with pending := splitter.pending ++ chunk }

def shapeOf (dialect : Dialect) (bytes : List UInt8) : Shape :=
  match bytes with
  | 0x2D :: 0x2D :: _ => .lineComment
  | 0x2F :: 0x2A :: _ => .blockComment
  | 0x23 :: _ => if dialect.hashComments then .lineComment else .code
  | _ => .code

def withoutReturn (line : List UInt8) : List UInt8 :=
  if line.getLast? == some 0x0D then line.dropLast else line

/-- Scans one line without its feed.  The answer is the shape and the position behind the line and
whether the line ends the statement. -/
def endsWithLine (dialect : Dialect) (shape : Shape) (position : Lexeme) (line : List UInt8) :
    Shape × Lexeme × Bool :=
  match shape with
  | .lineComment => (shape, position, true)
  | .blockComment =>
      match scanLine dialect position none (withoutReturn line) with
      | (position', none) => (.blockComment, position', position' == .plain)
      | (position', some last) => (.code, position', position' == .plain && last == 0x3B)
  | .code =>
      let (position', last) := scanLine dialect position none (withoutReturn line)
      (.code, position', position' == .plain && last == some 0x3B)

/-- The text of a statement: its bytes decoded, without white space at its ends.  There is no
statement where nothing is left. -/
def textOf? (bytes : List UInt8) : Option String :=
  match Text.trim (Text.utf8Decode bytes) with
  | [] => none
  | text => some (String.ofList text)

def cutLine (bytes : List UInt8) : Option (List UInt8 × List UInt8) :=
  match bytes.dropWhile (· != 0x0A) with
  | [] => none
  | _ :: rest => some (bytes.takeWhile (· != 0x0A), rest)

theorem length_cutLine {bytes line rest : List UInt8} (h : cutLine bytes = some (line, rest)) :
    bytes.length = line.length + 1 + rest.length := by
  have hall := congrArg List.length
    (List.takeWhile_append_dropWhile (p := (· != (0x0A : UInt8))) (l := bytes))
  unfold cutLine at h
  split at h
  · simp at h
  · rename_i heq
    obtain ⟨rfl, rfl⟩ : _ = line ∧ _ = rest := by simpa using h
    rw [List.length_append, heq, List.length_cons] at hall
    omega

/-- The shape of a statement that begins with the given bytes, once it can be told: two bytes decide
it, or one that nothing will follow. -/
def shape? (dialect : Dialect) (atEnd : Bool) : List UInt8 → Option Shape
  | [] => none
  | [byte] => if atEnd then some (shapeOf dialect [byte]) else none
  | bytes => some (shapeOf dialect bytes)

/-- The bytes to scan and the shape of the current statement.  White space in front of a statement
that begins here is dropped. -/
def begin? (splitter : Splitter) (atEnd : Bool) : List UInt8 × Option Shape :=
  match splitter.shape with
  | some shape => (splitter.pending, some shape)
  | none =>
      let pending := splitter.pending.dropWhile Text.isAsciiSpace
      (pending, shape? splitter.dialect atEnd pending)

theorem length_begin?_le (splitter : Splitter) (atEnd : Bool) :
    (splitter.begin? atEnd).1.length ≤ splitter.pending.length := by
  unfold begin?
  split
  · simp
  · exact (List.dropWhile_sublist (l := splitter.pending) Text.isAsciiSpace).length_le

/-- The next statement that the input so far completes, and the splitter behind it.  `atEnd` says
that no more input will come, so that the rest is a statement as well. -/
def next? (splitter : Splitter) (atEnd : Bool) : Option String × Splitter :=
  match _hbegin : splitter.begin? atEnd with
  | (pending, none) => (none, { splitter with pending := pending })
  | (pending, some shape) =>
      match _hcut : cutLine pending with
      | some (line, rest) =>
          let (shape', position', ends) :=
            endsWithLine splitter.dialect shape splitter.position line
          let scanned := 0x0A :: (line.reverse ++ splitter.scanned)
          if ends then
            let behind := { empty splitter.dialect with pending := rest }
            match textOf? scanned.reverse with
            | some text => (some text, behind)
            | none => next? behind atEnd
          else
            next?
              { splitter with
                scanned := scanned
                shape := some shape'
                position := position'
                pending := rest }
              atEnd
      | none =>
          if atEnd then
            (textOf? (splitter.scanned.reverse ++ pending), empty splitter.dialect)
          else (none, { splitter with shape := some shape, pending := pending })
termination_by splitter.pending.length
decreasing_by
  all_goals
    have hle := length_begin?_le splitter atEnd
    have hlen := length_cutLine _hcut
    rw [_hbegin] at hle
    simp at hle ⊢
    omega

def size (splitter : Splitter) : Nat :=
  splitter.scanned.length + splitter.pending.length

theorem textOf?_nil : textOf? [] = none := by
  simp [textOf?, Text.utf8Decode, Text.utf8DecodeOnto, Text.trim, Text.trimStart, Text.trimEnd]

/-- A statement takes at least one of the bytes held. -/
theorem size_next?_lt
    {splitter rest : Splitter} {atEnd : Bool} {text : String}
    (h : splitter.next? atEnd = (some text, rest)) :
    rest.size < splitter.size := by
  fun_induction next? splitter atEnd generalizing text rest with
  | case1 => simp at h
  | case2 splitter pending shape hbegin line after hcut shape' position' scanned behind taken =>
      have hle := length_begin?_le splitter atEnd
      have hlen := length_cutLine hcut
      rw [hbegin] at hle
      simp only [Prod.mk.injEq] at h
      simp [size, ← h.2, behind, empty] at hle ⊢
      omega
  | case3 splitter pending shape hbegin line after hcut shape' position' scanned behind =>
      rename_i ih
      have hle := length_begin?_le splitter atEnd
      have hlen := length_cutLine hcut
      have := ih h
      rw [hbegin] at hle
      simp [size, behind, empty] at this hle ⊢
      omega
  | case4 splitter pending shape hbegin line after hcut shape' position' ends _ scanned =>
      rename_i ih
      have hle := length_begin?_le splitter atEnd
      have hlen := length_cutLine hcut
      have := ih h
      rw [hbegin] at hle
      simp [size, scanned] at this hle ⊢
      omega
  | case5 splitter pending shape hbegin hcut hend =>
      have hle : pending.length ≤ splitter.pending.length := by
        have := length_begin?_le splitter atEnd
        rwa [hbegin] at this
      simp only [Prod.mk.injEq] at h
      have hrest : rest.size = 0 := by rw [← h.2]; rfl
      rw [hrest]
      apply Nat.pos_of_ne_zero
      intro hzero
      have hlength : splitter.scanned.length + splitter.pending.length = 0 := hzero
      have hscanned : splitter.scanned = [] := List.eq_nil_of_length_eq_zero (by omega)
      have hpending : pending = [] := List.eq_nil_of_length_eq_zero (by omega)
      rw [hscanned, hpending] at h
      exact absurd h.1 (by simp [textOf?_nil])
  | case6 => simp at h

def drain (splitter : Splitter) (atEnd : Bool) : List String × Splitter :=
  match _hnext : splitter.next? atEnd with
  | (some text, rest) =>
      let (texts, behind) := drain rest atEnd
      (text :: texts, behind)
  | (none, rest) => ([], rest)
termination_by splitter.size
decreasing_by exact size_next?_lt _hnext

end Splitter

def statements (dialect : Dialect) (bytes : List UInt8) : List String :=
  (((Splitter.empty dialect).feed bytes).drain true).1

end SqlPipe.Script
