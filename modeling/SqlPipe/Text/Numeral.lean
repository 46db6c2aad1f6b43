/-!
# Numerals

Whole numbers as settings and parameters write them: ASCII digits behind an optional sign, within
the bounds of the number's type.
-/

namespace SqlPipe.Text

def greatest32 : Nat := 0xFFFFFFFF

def greatest64 : Nat := 0xFFFFFFFFFFFFFFFF

/-- The greatest number of 64 bits of which one is a sign. -/
def greatestSigned64 : Nat := 0x7FFFFFFFFFFFFFFF

/-- The number that ASCII digits make; there is at least one. -/
def digitsValue? (text : List Char) : Option Nat :=
  if text.isEmpty || !text.all Char.isDigit then none
  else some (text.foldl (fun number c => number * 10 + (c.toNat - 0x30)) 0)

/-- A number without a sign, or behind a plus sign, up to a greatest one. -/
def unsigned? (greatest : Nat) (text : String) : Option Nat := do
  let digits := match text.toList with
    | '+' :: digits => digits
    | digits => digits
  let number ← digitsValue? digits
  if number ≤ greatest then some number else none

def signed? (text : String) : Option Int :=
  match text.toList with
  | '-' :: digits => do
      let number ← digitsValue? digits
      if number ≤ greatestSigned64 + 1 then some (-(number : Int)) else none
  | _ => do
      let number ← unsigned? greatestSigned64 text
      pure (number : Int)

end SqlPipe.Text
