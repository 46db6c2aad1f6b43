import SqlPipe.Text.Space
import Mathlib.Data.List.DropRight
import Mathlib.Data.List.TakeWhile

/-!
# Trimming

A text is what is left of it when it is trimmed, with white space around.  What is left neither
begins nor ends with white space, and nothing is left of white space only.
-/

namespace SqlPipe.Text

/-- White space and nothing else. -/
def Blank (text : List Char) : Prop :=
  ∀ c ∈ text, isSpace c = true

/-- No white space at either end. -/
def Trimmed (text : List Char) : Prop :=
  (∀ c, text.head? = some c → isSpace c = false) ∧ ∀ c, text.getLast? = some c → isSpace c = false

variable {text front behind : List Char}

theorem blank_append : Blank (front ++ behind) ↔ Blank front ∧ Blank behind :=
  List.forall_mem_append

theorem trimEnd_eq (text : List Char) : trimEnd text = text.rdropWhile isSpace := rfl

theorem exists_trim (text : List Char) :
    ∃ front behind, text = front ++ trim text ++ behind ∧ Blank front ∧ Blank behind := by
  refine ⟨text.takeWhile isSpace, (trimStart text).rtakeWhile isSpace, ?_, ?_, ?_⟩
  · rw [trim, trimEnd_eq, List.append_assoc, List.rdropWhile_append_rtakeWhile, trimStart,
      List.takeWhile_append_dropWhile]
  · exact fun c hc => List.mem_takeWhile_imp hc
  · exact fun c hc => List.mem_rtakeWhile_imp hc

theorem trimmed_trim (text : List Char) : Trimmed (trim text) := by
  constructor
  · intro c hhead
    obtain ⟨rest, hrest⟩ := List.head?_eq_some_iff.mp hhead
    obtain ⟨behind, hbehind⟩ := List.rdropWhile_prefix isSpace (trimStart text)
    rw [← trimEnd_eq, ← trim, hrest, List.cons_append] at hbehind
    have hfirst : (trimStart text).head? = some c := by rw [← hbehind]; rfl
    have hstops := List.head?_dropWhile_not isSpace text
    rw [trimStart] at hfirst
    simpa [hfirst] using hstops
  · intro c hlast
    have hne : trim text ≠ [] := by
      intro hnil
      rw [hnil] at hlast
      cases hlast
    have hstops := List.rdropWhile_last_not isSpace (trimStart text) hne
    rw [List.getLast?_eq_some_getLast hne] at hlast
    rw [← Option.some.inj hlast]
    exact Bool.eq_false_iff.mpr hstops

theorem trim_eq_nil_iff : trim text = [] ↔ Blank text := by
  constructor
  · intro hnil
    obtain ⟨front, behind, htext, hfront, hbehind⟩ := exists_trim text
    rw [hnil, List.append_nil] at htext
    rw [htext]
    exact blank_append.mpr ⟨hfront, hbehind⟩
  · intro hblank
    rw [trim, trimStart, List.dropWhile_eq_nil_iff.mpr hblank]
    rfl

/-- Trimming takes away the white space around a trimmed text, and nothing else. -/
theorem Trimmed.trim_around
    (htrimmed : Trimmed text) (hfront : Blank front) (hbehind : Blank behind) :
    trim (front ++ (text ++ behind)) = text := by
  cases text with
  | nil => exact trim_eq_nil_iff.mpr (blank_append.mpr ⟨hfront, hbehind⟩)
  | cons first text =>
      have hstart : trimStart (front ++ (first :: text ++ behind)) = first :: text ++ behind := by
        rw [trimStart, List.dropWhile_append_of_pos hfront]
        exact List.dropWhile_cons_of_neg (by simpa using htrimmed.1 first rfl)
      have hend : trimEnd (first :: text ++ behind) = trimEnd (first :: text) := by
        have hspace : ∀ c ∈ behind.reverse, isSpace c = true :=
          fun c hc => hbehind c (List.mem_reverse.mp hc)
        rw [trimEnd, List.reverse_append, List.dropWhile_append_of_pos hspace, trimEnd]
      have hlast : ∀ hne : first :: text ≠ [], ¬isSpace ((first :: text).getLast hne) = true := by
        intro hne
        simpa using htrimmed.2 _ (List.getLast?_eq_some_getLast hne)
      rw [trim, hstart, hend, trimEnd_eq, List.rdropWhile_eq_self_iff.mpr hlast]

end SqlPipe.Text
