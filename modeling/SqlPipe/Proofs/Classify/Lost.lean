import SqlPipe.Proofs.Classify.Blank

/-!
# Lost statements

PostgreSQL is read by a grammar and, where that leaves the class open, by keywords.  The grammar
accepts statements whose class it leaves to the keywords, and the keywords do not know all of them.
Such a statement is passed over without a failure, although it is no layout.  Everything else that
is passed over is layout to the grammar or to the keywords: what the grammar refuses is never lost.
-/

namespace SqlPipe.Classify

open Sql

variable {text : String}

/-- The grammar accepts the text and leaves its class, by its first word, to the keywords, which
have none for it. -/
def isLost (text : String) : Bool :=
  (treesOf .postgres text).isOk &&
    (firstToken? .postgres text).any (fun token => Statement.openWords.contains token.keyword) &&
    decide (ofKeywords .postgres text = .unknown)

theorem exists_firstToken_of_openClass
    {tree : Tree} {others : List Tree} (htrees : treesOf .postgres text = .ok (tree :: others)) :
    ∃ token, firstToken? .postgres text = some token ∧
      (classOfTree? tree = none ↔ token.keyword ∈ Statement.openWords) := by
  obtain ⟨token, hfirst, hfits, hwords⟩ := exists_firstToken_of_treesOf htrees
  refine ⟨token, hfirst, ?_⟩
  rw [← hwords]
  split at hfits
  next =>
    rw [hfits]
    exact iff_of_false nofun nofun
  next => rw [classOfTree?_of_fitsWord hfits, hfits.eq_byKeywords_iff]

theorem classOfTree?_ne_unknown_of_treesOf
    {tree : Tree} {others : List Tree} (htrees : treesOf .postgres text = .ok (tree :: others)) :
    classOfTree? tree ≠ some .unknown := by
  obtain ⟨token, -, hfits, -⟩ := exists_firstToken_of_treesOf htrees
  split at hfits
  next =>
    rw [hfits]
    decide
  next =>
    rw [classOfTree?_of_fitsWord hfits]
    exact classOfWord?_ne_unknown _

theorem isLost_iff :
    isLost text = true ↔ ∃ tree others, treesOf .postgres text = .ok (tree :: others) ∧
      classOfTree? tree = none ∧ ofKeywords .postgres text = .unknown := by
  rw [isLost, Bool.and_eq_true, Bool.and_eq_true, decide_eq_true_eq]
  cases htrees : treesOf .postgres text with
  | error error => simp [Except.isOk, Except.toBool]
  | ok trees =>
      cases trees with
      | nil =>
          -- Without statements there are semicolons only, and none of them is a first word.
          obtain ⟨tokens, htokens, hsemicolons⟩ := treesOf_eq_nil_iff.mp htrees
          have hnone : firstToken? .postgres text = none := by
            rw [firstToken?, htokens]
            simpa [Located.isSemicolon] using hsemicolons
          simp [hnone]
      | cons tree others =>
          obtain ⟨token, hfirst, hopen⟩ := exists_firstToken_of_openClass htrees
          rw [hfirst, Option.any_some, List.contains_iff_mem, ← hopen]
          constructor
          · rintro ⟨⟨-, hclass⟩, hunknown⟩
            exact ⟨tree, others, rfl, hclass, hunknown⟩
          · rintro ⟨_, _, heq, hclass, hunknown⟩
            cases heq
            exact ⟨⟨rfl, hclass⟩, hunknown⟩

theorem isLost_call :
    isLost "CALL refresh();" = true ∧ isBlank "CALL refresh();".toList = false ∧
      ofKeywords .mysql "CALL refresh();" = .control := by
  decide +kernel

/-! ## What PostgreSQL passes over -/

theorem roleOf_eq_skipped_iff_of_postgres :
    roleOf .postgres text = .skipped ↔
      treesOf .postgres text = .ok [] ∨
      ((∃ error, treesOf .postgres text = .error error) ∧ isBlank text.toList = true ∧
        ofKeywords .postgres text = .unknown) ∨
      isLost text = true := by
  rw [isLost_iff, roleOf_eq_skipped_iff, parse, if_pos rfl, parseByGrammar]
  cases htrees : treesOf .postgres text with
  | ok trees =>
      cases trees with
      | nil => simp
      | cons tree others =>
          have hknown := classOfTree?_ne_unknown_of_treesOf htrees
          cases hclass : classOfTree? tree with
          | none => simp [hclass]
          | some statementClass =>
              have hne : statementClass ≠ .unknown := fun heq => hknown (heq ▸ hclass)
              simp [hclass, hne]
  | error error =>
      cases hblank : isBlank text.toList <;>
        by_cases hunknown : ofKeywords .postgres text = .unknown <;> simp [hunknown]

theorem roleOf_eq_refused_iff {dialect : Dialect} {failure : Failure} :
    roleOf dialect text = .refused failure ↔ (parse dialect text).1 = .error failure := by
  unfold roleOf Parsed.role
  cases (parse dialect text).1 with
  | error other => simp
  | ok parsed =>
      by_cases hclass : parsed.statementClass = .unknown
      · simp [hclass]
      · cases htree : parsed.toInsert? dialect <;> simp [hclass, htree]

theorem roleOf_eq_refused_iff_of_postgres {failure : Failure} :
    roleOf .postgres text = .refused failure ↔
      ∃ error, treesOf .postgres text = .error error ∧ isBlank text.toList = false ∧
        ofKeywords .postgres text = .unknown ∧ failure = .parse text error.message := by
  rw [roleOf_eq_refused_iff, parse, if_pos rfl, parseByGrammar]
  cases htrees : treesOf .postgres text with
  | ok trees => cases trees <;> simp
  | error error =>
      cases hblank : isBlank text.toList <;>
        by_cases hunknown : ofKeywords .postgres text = .unknown <;> simp [hunknown, eq_comm]

end SqlPipe.Classify
