import SqlPipe.Proofs.Text.Search
import Mathlib.Data.List.TakeDrop
import Mathlib.Data.List.TakeWhile

/-!
# Splitting texts

A text is split where a sign stands.  What is split off does not hold the sign, on the one side for
the first or the last occurrence, on all sides for all occurrences.  Parts that do not hold the sign
are found again when they were joined by it.
-/

namespace SqlPipe.Text

variable {sign : Char} {text front behind : List Char}

/-! ## The first characters of a kind -/

section

variable {keep : Char → Bool}

theorem span_append
    (hfront : ∀ c ∈ front, keep c = true) (hstop : ∀ c ∈ behind.head?, keep c = false) :
    (front ++ behind).span keep = (front, behind) := by
  rw [List.span_eq_takeWhile_dropWhile, List.takeWhile_append_of_pos hfront,
    List.dropWhile_append_of_pos hfront]
  cases behind with
  | nil => simp
  | cons c rest => simp [hstop c rfl]

theorem eq_of_span {front behind : List Char} (hspan : text.span keep = (front, behind)) :
    text = front ++ behind ∧ (∀ c ∈ front, keep c = true) ∧
      ∀ c ∈ behind.head?, keep c = false := by
  rw [List.span_eq_takeWhile_dropWhile] at hspan
  obtain ⟨rfl, rfl⟩ := Prod.mk.inj hspan
  refine ⟨List.takeWhile_append_dropWhile.symm, fun c hc => List.mem_takeWhile_imp hc, ?_⟩
  intro c hc
  have hstops := List.head?_dropWhile_not keep text
  rw [Option.mem_def.mp hc] at hstops
  simpa using hstops

end

/-! ## The last occurrence -/

theorem splitAtLast?_append (hbehind : sign ∉ behind) :
    splitAtLast? sign (front ++ sign :: behind) = some (front, behind) := by
  have hspan : (front ++ sign :: behind).reverse.span (· != sign) =
      (behind.reverse, sign :: front.reverse) := by
    rw [List.reverse_append, List.reverse_cons, List.append_assoc, List.singleton_append]
    apply span_append
    · intro c hc
      simpa using fun heq : c = sign => hbehind (heq ▸ List.mem_reverse.mp hc)
    · simp
  rw [splitAtLast?, hspan]
  simp

theorem splitAtLast?_eq_none (htext : sign ∉ text) : splitAtLast? sign text = none := by
  have hspan : (text.reverse ++ []).span (· != sign) = (text.reverse, []) := by
    apply span_append
    · intro c hc
      simpa using fun heq : c = sign => htext (heq ▸ List.mem_reverse.mp hc)
    · simp
  rw [List.append_nil] at hspan
  rw [splitAtLast?, hspan]

/-- What stands up to the last occurrence, and what stands behind it. -/
theorem exists_last (sign : Char) (text : List Char) :
    ∃ before behind, text = before ++ behind ∧ sign ∉ behind ∧
      (before = [] ∨ ∃ front, before = front ++ [sign]) := by
  by_cases hmem : sign ∈ text
  · obtain ⟨after, before, hreverse, hfirst⟩ :=
      List.eq_append_cons_of_mem (List.mem_reverse.mpr hmem)
    refine ⟨before.reverse ++ [sign], after.reverse, ?_, List.mem_reverse.not.mpr hfirst,
      .inr ⟨_, rfl⟩⟩
    rw [← List.reverse_reverse text, hreverse]
    simp
  · exact ⟨[], text, rfl, hmem, .inl rfl⟩

/-- Where the last occurrence stands behind another one does not depend on what precedes both. -/
theorem exists_splitAtLast? (sign : Char) (text : List Char) :
    ∃ more behind, ∀ front, splitAtLast? sign (front ++ sign :: text) =
      some (front ++ more, behind) := by
  obtain ⟨before, behind, rfl, hlast, hbefore⟩ := exists_last sign text
  rcases hbefore with rfl | ⟨middle, rfl⟩
  · exact ⟨[], behind, fun front => by
      rw [List.append_nil, List.nil_append, splitAtLast?_append hlast]⟩
  · refine ⟨sign :: middle, behind, fun front => ?_⟩
    rw [List.append_assoc, List.singleton_append, ← List.cons_append, ← List.append_assoc,
      splitAtLast?_append hlast]

/-! ## The first occurrence -/

/-- A part is found where its first character stands for the first time. -/
theorem splitAt?_of_first {p : Char} {part : List Char} (hfront : p ∉ front) :
    splitAt? (p :: part) (front ++ p :: part ++ behind) = some (front, behind) := by
  suffices honto : ∀ passed, splitAtOnto (p :: part) passed (front ++ p :: part ++ behind) =
      some (passed.reverse ++ front, behind) from honto []
  induction front with
  | nil =>
      intro passed
      rw [List.append_nil]
      exact splitAtOnto_of_after? (after?_eq_some_iff.mpr rfl) passed
  | cons c front ih =>
      intro passed
      obtain ⟨hc, hothers⟩ := not_or.mp (List.mem_cons.not.mp hfront)
      have hafter : after? (p :: part) (c :: (front ++ p :: part ++ behind)) = none := by
        rw [after?, if_neg (by simpa using hc)]
      rw [List.cons_append, List.cons_append, splitAtOnto, hafter, ih hothers]
      simp

/-! ## All occurrences -/

theorem splitAll_eq_splitOn (sign : Char) (text : List Char) :
    splitAll sign text = text.splitOn sign := by
  suffices honto : ∀ part, splitAllOnto sign part text = text.splitOnPPrepend (· == sign) part from
    honto []
  induction text with
  | nil => exact fun part => rfl
  | cons c text ih =>
      intro part
      rw [splitAllOnto, List.splitOnPPrepend_cons_eq_if, ih, ih]
      rfl

theorem splitAll_joinWith
    {parts : List (List Char)} (hparts : ∀ part ∈ parts, sign ∉ part) (hsome : parts ≠ []) :
    splitAll sign (joinWith [sign] parts) = parts := by
  rw [splitAll_eq_splitOn, joinWith, List.splitOn_intercalate sign hparts hsome]

theorem mem_joinWith
    {separator : List Char} {parts : List (List Char)} {c : Char}
    (hc : c ∈ joinWith separator parts) : c ∈ separator ∨ ∃ part ∈ parts, c ∈ part := by
  unfold joinWith at hc
  induction parts with
  | nil => exact absurd hc (by simp)
  | cons first parts ih =>
      cases parts with
      | nil =>
          rw [List.intercalate_singleton] at hc
          exact .inr ⟨first, List.mem_singleton_self first, hc⟩
      | cons second others =>
          rw [List.intercalate_cons_cons, List.mem_append, List.mem_append] at hc
          rcases hc with (hfirst | hseparator) | hlater
          · exact .inr ⟨first, List.mem_cons_self, hfirst⟩
          · exact .inl hseparator
          · exact (ih hlater).imp_right fun ⟨part, hpart, hmem⟩ =>
              ⟨part, List.mem_cons_of_mem first hpart, hmem⟩

theorem not_mem_of_mem_splitAll {part : List Char} (hpart : part ∈ splitAll sign text) :
    sign ∉ part := by
  suffices honto : ∀ begun, sign ∉ begun → ∀ part ∈ splitAllOnto sign begun text, sign ∉ part from
    honto [] List.not_mem_nil part hpart
  clear hpart part
  induction text with
  | nil =>
      intro begun hbegun part hpart
      obtain rfl := List.mem_singleton.mp hpart
      exact List.mem_reverse.not.mpr hbegun
  | cons c text ih =>
      intro begun hbegun part hpart
      rw [splitAllOnto] at hpart
      split at hpart
      next =>
        rcases List.mem_cons.mp hpart with rfl | hlater
        · exact List.mem_reverse.not.mpr hbegun
        · exact ih [] List.not_mem_nil part hlater
      next hc =>
        have hmore : sign ∉ c :: begun := by
          rintro (_ | ⟨_, hmem⟩)
          · exact hc (beq_self_eq_true sign)
          · exact hbegun hmem
        exact ih (c :: begun) hmore part hpart

end SqlPipe.Text
