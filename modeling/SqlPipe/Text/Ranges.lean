/-!
# Tables of code points

A character class beyond ASCII is a sorted list of closed intervals of code points.  Membership
stops at the first interval that starts above the code point.
-/

namespace SqlPipe.Text

/-- Membership in a sorted list of closed intervals. -/
def inRanges (code : Nat) : List (Nat × Nat) → Bool
  | [] => false
  | (low, high) :: rest =>
      if code < low then false else if code ≤ high then true else inRanges code rest

end SqlPipe.Text
