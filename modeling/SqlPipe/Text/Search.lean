/-!
# Searching in texts

Occurrences of a fixed part in a text, found from the left.
-/

namespace SqlPipe.Text

def after? : List Char → List Char → Option (List Char)
  | [], text => some text
  | _ :: _, [] => none
  | p :: part, c :: text => if p == c then after? part text else none

def startsWith (part text : List Char) : Bool :=
  (after? part text).isSome

/-- Looks for a part behind characters already passed, which stand last character first. -/
def splitAtOnto (part passed : List Char) : List Char → Option (List Char × List Char)
  | [] => (after? part []).map ((passed.reverse, ·))
  | c :: text =>
      match after? part (c :: text) with
      | some rest => some (passed.reverse, rest)
      | none => splitAtOnto part (c :: passed) text

def splitAt? (part text : List Char) : Option (List Char × List Char) :=
  splitAtOnto part [] text

def occursIn (part text : List Char) : Bool :=
  (splitAt? part text).isSome

/-- The rest of a text after the first occurrence of a part, or nothing where there is none. -/
def dropThrough (part text : List Char) : List Char :=
  match splitAt? part text with
  | some (_, rest) => rest
  | none => []

theorem length_after?
    {part text rest : List Char} (h : after? part text = some rest) :
    text.length = part.length + rest.length := by
  induction part generalizing text with
  | nil => simp_all [after?]
  | cons p part ih =>
      cases text with
      | nil => simp [after?] at h
      | cons c text =>
          simp only [after?] at h
          split at h
          · have := ih h
            simp only [List.length_cons]
            omega
          · simp at h

theorem length_splitAtOnto
    {part passed text before rest : List Char}
    (h : splitAtOnto part passed text = some (before, rest)) :
    part.length + rest.length ≤ text.length := by
  induction text generalizing passed with
  | nil =>
      simp only [splitAtOnto, Option.map_eq_some_iff, Prod.mk.injEq] at h
      obtain ⟨_, hafter, _, rfl⟩ := h
      have := length_after? hafter
      omega
  | cons c text ih =>
      simp only [splitAtOnto] at h
      split at h
      · rename_i hafter
        have := length_after? hafter
        simp only [Option.some.injEq, Prod.mk.injEq] at h
        obtain ⟨_, rfl⟩ := h
        omega
      · have := ih h
        simp only [List.length_cons]
        omega

theorem length_dropThrough_le (part text : List Char) :
    (dropThrough part text).length ≤ text.length := by
  unfold dropThrough
  split
  · rename_i h
    have := length_splitAtOnto h
    omega
  · simp

/-- Replaces behind characters already written, which stand last character first.  `skip`
characters still belong to the occurrence found last. -/
def replaceOnto (part replacement written : List Char) : List Char → Nat → List Char
  | [], _ => written.reverse
  | _ :: text, skip + 1 => replaceOnto part replacement written text skip
  | c :: text, 0 =>
      if startsWith part (c :: text) then
        replaceOnto part replacement (replacement.reverseAux written) text (part.length - 1)
      else replaceOnto part replacement (c :: written) text 0

/-- Each occurrence of a non-empty part, from the left and without overlap, replaced. -/
def replaceAll (part replacement text : List Char) : List Char :=
  replaceOnto part replacement [] text 0

def splitAtLast? (sign : Char) (text : List Char) : Option (List Char × List Char) :=
  match text.reverse.span (· != sign) with
  | (_, []) => none
  | (after, _ :: before) => some (before.reverse, after.reverse)

/-- Splits a text at each occurrence of a character, behind the part begun, last character first. -/
def splitAllOnto (separator : Char) (part : List Char) : List Char → List (List Char)
  | [] => [part.reverse]
  | c :: text =>
      if c == separator then part.reverse :: splitAllOnto separator [] text
      else splitAllOnto separator (c :: part) text

def splitAll (separator : Char) (text : List Char) : List (List Char) :=
  splitAllOnto separator [] text

def joinWith (separator : List Char) (texts : List (List Char)) : List Char :=
  separator.intercalate texts

end SqlPipe.Text
