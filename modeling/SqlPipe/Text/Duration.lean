/-!
# Durations

A stretch of time in messages: in seconds from one second on, and in milliseconds below, with as
many decimals as it needs.
-/

namespace SqlPipe.Text

/-- Three decimals of thousandths, without zeros at the end. -/
def decimals (thousandths : Nat) : String :=
  let digits := [thousandths / 100 % 10, thousandths / 10 % 10, thousandths % 10]
  let kept := (digits.reverse.dropWhile (· == 0)).reverse
  if kept.isEmpty then "" else "." ++ String.ofList (kept.map Nat.digitChar)

def duration (milliseconds : Nat) : String :=
  if milliseconds ≥ 1000 then
    toString (milliseconds / 1000) ++ decimals (milliseconds % 1000) ++ "s"
  else if milliseconds > 0 then toString milliseconds ++ "ms"
  else "0ns"

end SqlPipe.Text
