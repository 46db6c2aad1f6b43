import SqlPipe.Text.Alphabetic
import SqlPipe.Text.Search
import SqlPipe.Text.Space

/-!
# The layout of a statement

Before the words of a statement are looked at, its layout is set aside: white space, comments and
semicolons.  A block comment that begins with `/*!` is not layout, since it holds code that some
servers run.
-/

namespace SqlPipe.Classify

def afterComment? (text : List Char) : Option (List Char) :=
  match text with
  | '-' :: '-' :: rest => some (Text.dropThrough ['\n'] rest)
  | '#' :: rest => some (Text.dropThrough ['\n'] rest)
  | '/' :: '*' :: '!' :: _ => none
  | '/' :: '*' :: rest => some (Text.dropThrough ['*', '/'] rest)
  | _ => none

theorem length_afterComment?_lt
    {text rest : List Char} (h : afterComment? text = some rest) :
    rest.length < text.length := by
  unfold afterComment? at h
  split at h
  · rename_i rest'
    simp only [Option.some.injEq] at h
    have := Text.length_dropThrough_le ['\n'] rest'
    simp [← h]
    omega
  · rename_i rest'
    simp only [Option.some.injEq] at h
    have := Text.length_dropThrough_le ['\n'] rest'
    simp [← h]
    omega
  · simp at h
  · rename_i rest' _
    simp only [Option.some.injEq] at h
    have := Text.length_dropThrough_le ['*', '/'] rest'
    simp [← h]
    omega
  · simp at h

theorem length_trimStart_le (text : List Char) : (Text.trimStart text).length ≤ text.length :=
  (List.dropWhile_sublist (l := text) Text.isSpace).length_le

def body (text : List Char) : List Char :=
  match _h : afterComment? (Text.trimStart text) with
  | some rest => body rest
  | none => Text.trimStart text
termination_by text.length
decreasing_by
  have hlt := length_afterComment?_lt _h
  have hle := length_trimStart_le text
  omega

/-- Nothing but white space, comments and semicolons. -/
def isTrailer (text : List Char) : Bool :=
  match _h : Text.trimStart text with
  | [] => true
  | ';' :: rest => isTrailer rest
  | rest =>
      match _hafter : afterComment? rest with
      | some rest' => isTrailer rest'
      | none => false
termination_by text.length
decreasing_by
  · have hle := length_trimStart_le text
    simp only [_h, List.length_cons] at hle
    omega
  · have hlt := length_afterComment?_lt _hafter
    have hle := length_trimStart_le text
    rw [_h] at hle
    omega

/-- Nothing but layout, so that the statement asks for nothing. -/
def isBlank (text : List Char) : Bool :=
  isTrailer (body text)

/-- A letter as it counts in a keyword.  Besides the ASCII letters the Kelvin sign alone has an
ASCII letter as its lower case. -/
def foldLetter (c : Char) : Char :=
  if c == '\u212a' then 'k' else c.toLower

def firstWord (text : List Char) : List Char :=
  ((text.dropWhile fun c => !Text.isAlphabetic c).takeWhile Text.isAlphabetic).map foldLetter

/-- Collects words behind those already found, which stand last word first. -/
def wordsOnto (found : List (List Char)) (text : List Char) : Option (List (List Char)) :=
  match _h : Text.trimStart text with
  | [] => some found.reverse
  | c :: rest =>
      if Text.isAlphabetic c then
        wordsOnto ((c :: rest.takeWhile Text.isAlphabetic).map foldLetter :: found)
          (rest.dropWhile Text.isAlphabetic)
      else if isTrailer (c :: rest) then some found.reverse else none
termination_by text.length
decreasing_by
  have hle := length_trimStart_le text
  have hdrop := (List.dropWhile_sublist (l := rest) Text.isAlphabetic).length_le
  simp only [_h, List.length_cons] at hle
  omega

/-- The words of a text that holds nothing but words, and layout after them. -/
def words? (text : List Char) : Option (List (List Char)) :=
  wordsOnto [] text

end SqlPipe.Classify
