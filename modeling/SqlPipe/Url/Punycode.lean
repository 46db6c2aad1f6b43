/-!
# Punycode

Labels with characters outside ASCII are written in ASCII by naming, in rising order of the
characters, the distance from one insertion to the next.  A distance is a number of base 36 with
digits of growing weight, whose thresholds follow a bias that adapts to the distances seen.
-/

namespace SqlPipe.Url.Punycode

def digit (value : Nat) : Char :=
  if value < 26 then Char.ofNat (0x61 + value) else Char.ofNat (0x30 + value - 26)

def value? (c : Char) : Option Nat :=
  let code := c.toNat
  if 0x61 ≤ code && code ≤ 0x7A then some (code - 0x61)
  else if 0x41 ≤ code && code ≤ 0x5A then some (code - 0x41)
  else if 0x30 ≤ code && code ≤ 0x39 then some (code - 0x30 + 26)
  else none

def threshold (position bias : Nat) : Nat :=
  if position ≤ bias then 1 else if position ≥ bias + 26 then 26 else position - bias

theorem threshold_pos (position bias : Nat) : 1 ≤ threshold position bias := by
  unfold threshold
  split <;> (try split) <;> omega

theorem threshold_le (position bias : Nat) : threshold position bias ≤ 26 := by
  unfold threshold
  split <;> (try split) <;> omega

/-- Divides a distance until it is small, adding the base for each division. -/
def shrink (delta position : Nat) : Nat :=
  if delta > 455 then shrink (delta / 35) (position + 36)
  else position + 36 * delta / (delta + 38)
termination_by delta
decreasing_by omega

def adapt (delta count : Nat) (first : Bool) : Nat :=
  let delta := if first then delta / 700 else delta / 2
  shrink (delta + delta / count) 0

def digits (rest position bias : Nat) : List Char :=
  let limit := threshold position bias
  if rest < limit then [digit rest]
  else
    digit (limit + (rest - limit) % (36 - limit)) ::
      digits ((rest - limit) / (36 - limit)) (position + 36) bias
termination_by rest
decreasing_by
  have := threshold_pos position bias
  have := threshold_le position bias
  have : (rest - threshold position bias) / (36 - threshold position bias) ≤
      rest - threshold position bias := Nat.div_le_self ..
  omega

/-! ## Writing -/

structure Writing where
  written : List Char
  delta : Nat
  bias : Nat
  handled : Nat

/-- Writes the insertions of one code point into a label whose greater code points are not there
yet. -/
def insertions (basic code : Nat) (writing : Writing) : List Nat → Writing
  | [] => writing
  | c :: codes =>
      if c < code then insertions basic code { writing with delta := writing.delta + 1 } codes
      else if c == code then
        insertions basic code
          { written := writing.written ++ digits writing.delta 36 writing.bias
            delta := 0
            bias := adapt writing.delta (writing.handled + 1) (writing.handled == basic)
            handled := writing.handled + 1 } codes
      else insertions basic code writing codes

/-- Writes the insertions of code points in rising order; all below `next` are there already. -/
def insertAll (basic : Nat) (label : List Nat) (next : Nat) (writing : Writing) : List Nat → Writing
  | [] => writing
  | code :: codes =>
      let skipped := (code - next) * (writing.handled + 1)
      let writing :=
        insertions basic code { writing with delta := writing.delta + skipped } label
      insertAll basic label (code + 1) { writing with delta := writing.delta + 1 } codes

def distinct : List Nat → List Nat
  | a :: b :: rest => if a == b then distinct (b :: rest) else a :: distinct (b :: rest)
  | codes => codes

def encode (label : List Char) : List Char :=
  let codes := label.map Char.toNat
  let plain := label.filter (·.toNat < 0x80)
  let others := distinct ((codes.filter (0x80 ≤ ·)).mergeSort (· ≤ ·))
  let start : Writing :=
    { written := if plain.isEmpty then [] else plain ++ ['-']
      delta := 0
      bias := 72
      handled := plain.length }
  (insertAll plain.length codes 0x80 start others).written

/-! ## Reading -/

/-- Reads the digits of a distance, from the weight of the digit that comes next. -/
def readDistance? (bias distance weight position : Nat) : List Char → Option (Nat × List Char)
  | [] => none
  | c :: rest => do
      let value ← value? c
      let limit := threshold position bias
      let distance := distance + value * weight
      if value < limit then some (distance, rest)
      else readDistance? bias distance (weight * (36 - limit)) (position + 36) rest

/-- Inserts code points at the distances that are read.  `fuel` bounds their number. -/
def readInsertions? (codes : List Nat) (next index bias : Nat) (text : List Char) :
    Nat → Option (List Nat)
  | 0 => if text.isEmpty then some codes else none
  | fuel + 1 =>
      if text.isEmpty then some codes
      else do
        let (distance, rest) ← readDistance? bias 0 1 36 text
        let count := codes.length + 1
        let place := index + distance
        let code := next + place / count
        if code > 0x10FFFF || (0xD800 ≤ code && code ≤ 0xDFFF) then none
        else
          let position := place % count
          readInsertions? (codes.take position ++ code :: codes.drop position) code (position + 1)
            (adapt distance count (index == 0)) rest fuel

def splitLast (text : List Char) : List Char × List Char :=
  match text.reverse.span (· != '-') with
  | (_, []) => ([], text)
  | (_, [_]) => ([], text)
  | (rest, _ :: plain) => (plain.reverse, rest.reverse)

def decode? (text : List Char) : Option (List Char) := do
  let (plain, rest) := splitLast text
  if plain.any (0x80 ≤ ·.toNat) then none
  let codes ← readInsertions? (plain.map Char.toNat) 0x80 0 72 rest rest.length
  pure (codes.map Char.ofNat)

end SqlPipe.Url.Punycode
