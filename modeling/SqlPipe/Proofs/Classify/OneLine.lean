import SqlPipe.Proofs.Classify.Grammar
import SqlPipe.Script.Splitter

/-!
# Several statements on one line

Statements that stand on one line arrive as one text.  The text is known by its first statement,
except where the keywords decide and know that statement only as a phrase: the phrase is one no
longer when more than layout follows.
-/

namespace SqlPipe.Classify

variable {dialect : Dialect} {first : String} {others : List String}

def onOneLine (texts : List String) : String :=
  "; ".intercalate texts ++ ";"

def afterFirst (others : List String) : List Char :=
  if others = [] then [] else ' ' :: (onOneLine others).toList

theorem toList_onOneLine (first : String) (others : List String) :
    (onOneLine (first :: others)).toList = first.toList ++ ';' :: afterFirst others := by
  cases others with
  | nil => simp [onOneLine, afterFirst]
  | cons second others =>
      simp [onOneLine, afterFirst]

/-! ## By keywords -/

theorem isKnown_iff (hdialect : dialect ≠ .postgres) {text : String} :
    isKnown dialect text = true ↔ ofKeywords dialect text ≠ .unknown := by
  simp [isKnown, parse, hdialect, parseByKeywords]

theorem roleOf_eq_skipped_iff_ofKeywords (hdialect : dialect ≠ .postgres) {text : String} :
    roleOf dialect text = .skipped ↔ ofKeywords dialect text = .unknown := by
  rw [roleOf_eq_skipped_iff]
  simp [parse, hdialect, parseByKeywords]

theorem isTrailer_afterFirst
    (hothers : others ≠ []) (hdialect : dialect ≠ .postgres)
    (hknown : ∀ text ∈ others, isKnown dialect text = true)
    (huncommented : ∀ text ∈ others, Uncommented text.toList)
    (hhash : ∀ text ∈ others, '#' ∉ text.toList) : isTrailer (afterFirst others) = false := by
  obtain ⟨second, others, rfl⟩ := List.exists_cons_of_ne_nil hothers
  have hsecond : second ∈ second :: others := List.mem_cons_self
  rw [afterFirst, if_neg (List.cons_ne_nil second others), isTrailer_of_isSpace (by decide),
    toList_onOneLine, ← Bool.not_eq_true]
  intro htrailer
  obtain ⟨hlayout, -⟩ :=
    isTrailer_append (huncommented second hsecond) (hhash second hsecond) htrailer
  exact firstWord_ne_nil_of_known ((isKnown_iff hdialect).mp (hknown second hsecond))
    (huncommented second hsecond).isConditional (firstWord_body_of_layout hlayout)

/-! ## All dialects -/

/-- Statements of known class, written on one line without comments, are not passed over in
PostgreSQL, and elsewhere not if the first of them is known by its first word.  A first statement
that is known as a phrase only is lost with all that follow it. -/
theorem roleOf_onOneLine
    (hknown : ∀ text ∈ first :: others, isKnown dialect text = true)
    (huncommented : ∀ text ∈ first :: others, Uncommented text.toList) :
    (dialect = .postgres ∨ others = [] ∨ leadingClass? dialect first.toList ≠ none →
        roleOf dialect (onOneLine (first :: others)) ≠ .skipped) ∧
      (dialect ≠ .postgres → others ≠ [] → leadingClass? dialect first.toList = none →
        (∀ text ∈ first :: others, '#' ∉ text.toList) →
        roleOf dialect (onOneLine (first :: others)) = .skipped) := by
  obtain ⟨hfirst, hothers⟩ := List.forall_mem_cons.mp hknown
  obtain ⟨hplain, hplains⟩ := List.forall_mem_cons.mp huncommented
  have hjoined := toList_onOneLine first others
  by_cases hdialect : dialect = .postgres
  · subst hdialect
    exact ⟨fun _ => roleOf_ne_skipped_of_postgres hjoined hplain hfirst, fun h => absurd rfl h⟩
  have hkeywords := (isKnown_iff hdialect).mp hfirst
  refine ⟨fun hcases => ?_, fun _ hne hleading hhash => ?_⟩
  · rw [Ne, roleOf_eq_skipped_iff_ofKeywords hdialect]
    rcases hcases with hsame | rfl | hleading
    · exact absurd hsame hdialect
    · exact ofKeywords_concat_ne_unknown hjoined hkeywords
    · exact ofKeywords_ne_unknown_of_leading hjoined hleading
  · rw [roleOf_eq_skipped_iff_ofKeywords hdialect]
    obtain ⟨hfew, hfews⟩ := List.forall_mem_cons.mp hhash
    exact ofKeywords_eq_unknown_of_phrase hjoined hplain hfew hkeywords hleading
      (isTrailer_afterFirst hne hdialect hothers hplains hfews)

theorem roleOf_onOneLine_of_two :
    (∀ text ∈ ["SAVEPOINT a", "BEGIN", "COMMIT"], Uncommented text.toList ∧ '#' ∉ text.toList ∧
      isKnown .postgres text = true ∧ isKnown .mysql text = true) ∧
    leadingClass? .mysql "SAVEPOINT a".toList ≠ none ∧
    leadingClass? .mysql "BEGIN".toList = none ∧
    roleOf .postgres (onOneLine ["BEGIN", "COMMIT"]) ≠ .skipped ∧
    roleOf .mysql (onOneLine ["SAVEPOINT a", "BEGIN", "COMMIT"]) ≠ .skipped ∧
    roleOf .mysql (onOneLine ["BEGIN", "COMMIT"]) = .skipped := by
  have hall : ∀ text ∈ ["SAVEPOINT a", "BEGIN", "COMMIT"],
      Uncommented text.toList ∧ '#' ∉ text.toList ∧
        isKnown .postgres text = true ∧ isKnown .mysql text = true := by decide +kernel
  have hlater := (List.forall_mem_cons.mp hall).2
  have hsavepoint : leadingClass? .mysql "SAVEPOINT a".toList ≠ none := by decide +kernel
  have hbegin : leadingClass? .mysql "BEGIN".toList = none := by decide +kernel
  refine ⟨hall, hsavepoint, hbegin, ?_, ?_, ?_⟩
  · exact (roleOf_onOneLine (fun text h => (hlater text h).2.2.1)
      fun text h => (hlater text h).1).1 (.inl rfl)
  · exact (roleOf_onOneLine (fun text h => (hall text h).2.2.2)
      fun text h => (hall text h).1).1 (.inr (.inr hsavepoint))
  · exact (roleOf_onOneLine (fun text h => (hlater text h).2.2.2)
      fun text h => (hlater text h).1).2 (by decide) (by decide) hbegin
        fun text h => (hlater text h).2.1

/-- A transaction on one line is one statement, and it is lost. -/
theorem exists_known_skipped_onOneLine :
    ∃ texts, (∀ text ∈ texts, isKnown .mysql text = true) ∧
      Script.statements .mysql (Text.utf8Bytes (onOneLine texts)) = [onOneLine texts] ∧
      roleOf .mysql (onOneLine texts) = .skipped := by
  refine ⟨["BEGIN", "INSERT INTO t VALUES (1)", "COMMIT"], by decide +kernel, by decide +kernel, ?_⟩
  rw [roleOf_eq_skipped_iff_ofKeywords (by decide)]
  decide +kernel

end SqlPipe.Classify
