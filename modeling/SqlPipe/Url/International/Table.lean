import SqlPipe.Url.Form

/-!
# Tables written as texts

A table of code points is written as lines of entries, with one blank between two entries.  An
entry is a code point or an interval of them, `low-high` for all of the interval and `low/high` for
every second one, all in hexadecimal.  Behind it may stand what the first code point of the interval
becomes, `=a+b`, where the others become what lies as far from `a` as they lie from the first; or an
exclamation mark, which bars the interval.
-/

namespace SqlPipe.Url.International

/-- One entry of a table. -/
structure Entry where
  low : Nat
  high : Nat
  step : Nat
  values : List Nat
  barred : Bool
  deriving DecidableEq, Repr

def Entry.covers (entry : Entry) (code : Nat) : Bool :=
  entry.low ≤ code && code ≤ entry.high && (code - entry.low) % entry.step == 0

def Entry.valuesFor (entry : Entry) (code : Nat) : List Nat :=
  match entry.values with
  | [value] => [value + (code - entry.low)]
  | values => values

def readHex (text : List Char) : Nat × List Char :=
  let digits := text.takeWhile fun c => (hexValue? c.toNat).isSome
  (digits.foldl (fun number c => number * 16 + (hexValue? c.toNat).getD 0) 0,
    text.drop digits.length)

/-- The end and the step of an interval that begins at a code point. -/
def readInterval (low : Nat) : List Char → Nat × Nat × List Char
  | '-' :: text =>
      let (high, rest) := readHex text
      (high, 1, rest)
  | '/' :: text =>
      let (high, rest) := readHex text
      (high, 2, rest)
  | text => (low, 1, text)

def readEntry (text : List Char) : Entry :=
  let (low, rest) := readHex text
  let (high, step, rest) := readInterval low rest
  match rest with
  | '=' :: values =>
      let parts := (Text.splitAll '+' values).filter (!·.isEmpty)
      ⟨low, high, step, parts.map fun part => (readHex part).1, false⟩
  | '!' :: _ => ⟨low, high, step, [], true⟩
  | _ => ⟨low, high, step, [], false⟩

def readTable (lines : List String) : List Entry :=
  lines.flatMap fun line => (Text.splitAll ' ' line.toList).map readEntry

end SqlPipe.Url.International
