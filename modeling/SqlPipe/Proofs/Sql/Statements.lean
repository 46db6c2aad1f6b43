import SqlPipe.Proofs.Sql.Lexing
import SqlPipe.Proofs.Sql.Parsing

/-!
# Statements by their first word

What the grammar makes of a statement depends on its first word alone.  Inserts are kept in parts; a
statement with any other word either has a class that the word tells, or is left to the keywords.
-/

namespace SqlPipe.Sql

open SqlPipe.Sql.Parser

namespace Statement

section Productions

variable {context : Context}

theorem yields_whole (tree : Tree) : Yields context (whole tree) (· = tree) :=
  yields_bind fun _ => yields_bind fun _ => yields_pure rfl

/-! ## Statements of a class -/

theorem yields_opening : Yields context opening (· = .ofClass (.transaction .opening)) :=
  yields_bind fun _ => yields_bind fun _ => yields_pure rfl

theorem yields_closing : Yields context closing (· = .ofClass (.transaction .closing)) :=
  yields_bind fun _ => yields_pure rfl

theorem yields_rollback : Yields context rollback (· = .ofClass (.transaction .closing)) := by
  unfold rollback
  refine yields_bind fun _ => yields_bind fun back => yields_ite ?_ (yields_pure rfl)
  exact yields_bind fun _ => yields_bind fun _ => yields_pure rfl

-- What follows a choice is read after either branch, so in each of these it is looked at first.

theorem yields_grant : Yields context grant (· = .ofClass .control) := by
  unfold grant
  extract_lets last rest
  have hlast (value : Unit) : Yields context (last value) (· = .ofClass .control) :=
    yields_pure rfl
  have hrest (value : Unit) : Yields context (rest value) (· = .ofClass .control) :=
    yields_bind fun _ => yields_bind fun _ => yields_ite (yields_bind fun _ => hlast ()) (hlast ())
  refine yields_bind fun _ => yields_bind fun _ => yields_bind fun _ => yields_bind fun _ => ?_
  refine yields_bind fun _ => yields_bind fun _ => yields_ite (hrest ()) ?_
  exact yields_bind fun _ => hrest ()

theorem yields_revoke : Yields context revoke (· = .ofClass .control) := by
  unfold revoke
  extract_lets rest
  have hrest (value : Unit) : Yields context (rest value) (· = .ofClass .control) :=
    yields_bind fun _ => yields_pure rfl
  refine yields_bind fun _ => yields_bind fun _ => yields_bind fun _ => yields_bind fun _ => ?_
  exact yields_bind fun _ => yields_ite (yields_bind fun _ => hrest ()) (hrest ())

theorem yields_create : Yields context create (· = .ofClass .definition) := by
  unfold create
  refine yields_bind fun _ => yields_bind fun _ => yields_bind fun _ => yields_bind fun _ => ?_
  refine yields_bind fun _ => yields_bind fun _ => yields_ite ?_ (yields_bind fun _ => ?_)
  · exact yields_bind fun _ => yields_bind fun _ => yields_whole _
  · exact yields_ite (yields_whole _) (yields_expected _)

/-! ## Statements left to the keywords -/

variable (below : Productions)

theorem yields_cursor : Yields context (cursor below) (· = .byKeywords) := by
  unfold cursor
  extract_lets last rest
  have hlast (value : Unit) : Yields context (last value) (· = .byKeywords) :=
    yields_bind fun _ => yields_bind fun _ => yields_pure rfl
  have hrest (value : Unit) : Yields context (rest value) (· = .byKeywords) :=
    yields_bind fun _ => yields_bind fun _ => yields_ite (yields_bind hlast) (hlast ())
  refine yields_bind fun _ => yields_bind fun _ => yields_bind fun _ => yields_bind fun _ => ?_
  exact yields_ite (hrest ()) (yields_bind fun _ => hrest ())

theorem yields_fetch : Yields context fetch (· = .byKeywords) := by
  unfold fetch
  extract_lets number last rest
  have hlast (value : Unit) : Yields context (last value) (· = .byKeywords) :=
    yields_bind fun _ => yields_bind fun _ => yields_pure rfl
  have hrest (value : Unit) : Yields context (rest value) (· = .byKeywords) :=
    yields_bind fun _ => yields_ite (hlast ()) (yields_bind hlast)
  have hall : Yields context (do if ← keyword? "ALL" then rest () else number >>= rest)
      (· = .byKeywords) := yields_bind fun _ => yields_ite (hrest ()) (yields_bind hrest)
  refine yields_bind fun direction => ?_
  split
  · exact yields_bind hrest
  · exact yields_bind hrest
  · exact hall
  · exact hall
  · exact hrest ()
  · exact yields_bind hrest

theorem yields_execute : Yields context (execute below) (· = .byKeywords) := by
  unfold execute
  extract_lets last rest
  have hlast (value : Unit) : Yields context (last value) (· = .byKeywords) :=
    yields_bind fun _ => yields_bind fun _ => yields_bind fun _ => yields_bind fun _ =>
      yields_pure rfl
  have hrest (value : Unit) : Yields context (rest value) (· = .byKeywords) := by
    refine yields_bind fun listed => yields_ite ?_ ?_
    · exact yields_bind fun _ => yields_bind hlast
    · refine yields_bind fun _ => yields_bind fun _ => yields_bind fun _ => ?_
      exact yields_ite (hlast ()) (yields_bind fun _ => hlast ())
  refine yields_bind fun _ => yields_ite ?_ ?_
  · exact yields_bind fun _ => yields_bind hrest
  · exact yields_bind fun _ => hrest ()

theorem yields_prepare : Yields context (prepare below) (· = .byKeywords) := by
  unfold prepare
  extract_lets rest
  have hrest (value : Unit) : Yields context (rest value) (· = .byKeywords) :=
    yields_bind fun _ => yields_bind fun _ => yields_pure rfl
  refine yields_bind fun _ => yields_bind fun _ => ?_
  exact yields_ite (yields_bind fun _ => yields_bind hrest) (hrest ())

theorem yields_conditional : Yields context (conditional below) (· = .byKeywords) := by
  unfold conditional
  extract_lets words rest
  have hrest (value : Unit) : Yields context (rest value) (· = .byKeywords) :=
    yields_bind fun _ => yields_pure rfl
  refine yields_bind fun _ => yields_bind fun _ => yields_bind fun _ => ?_
  exact yields_ite (yields_bind hrest) (hrest ())

theorem yields_loop : Yields context (loop below) (· = .byKeywords) :=
  yields_bind fun _ => yields_bind fun _ => yields_pure rfl

theorem yields_choice : Yields context (choice below) (· = .byKeywords) := by
  unfold choice
  extract_lets words last rest
  have hlast (value : Unit) : Yields context (last value) (· = .byKeywords) :=
    yields_bind fun _ => yields_bind fun _ => yields_pure rfl
  have hrest (value : Unit) : Yields context (rest value) (· = .byKeywords) := by
    refine yields_bind fun _ => yields_bind fun _ => yields_bind fun _ => yields_bind fun _ => ?_
    exact yields_ite (yields_bind hlast) (hlast ())
  exact yields_bind fun _ => yields_ite (hrest ()) (yields_bind fun _ => hrest ())

end Productions

end Statement

/-! ## All statements -/

/-- The class of the statements with a first word, where the grammar settles it. -/
def classOfWord? (word : String) : Option StatementClass :=
  match word with
  | "SELECT" | "WITH" | "VALUES" | "FROM"
  | "INSERT" | "REPLACE" | "UPDATE" | "DELETE" | "MERGE" | "COPY" | "EXPLAIN" =>
      some (.manipulation .anySession)
  | "SET" | "USE" => some (.manipulation .everySession)
  | "CREATE" | "ALTER" | "DROP" | "TRUNCATE" => some .definition
  | "GRANT" | "REVOKE" => some .control
  | "START" | "BEGIN" | "SAVEPOINT" => some (.transaction .opening)
  | "END" | "COMMIT" | "ROLLBACK" | "RELEASE" => some (.transaction .closing)
  | _ => none

/-- The word begins like one that stands alone in the phrases of transaction control. -/
def beginsPhrase (word : String) : Bool :=
  ["BEGIN", "START", "COMMIT"].any fun lead => lead.toList.isPrefixOf word.toList

/-- A tree is what the grammar makes of statements with a first word. -/
inductive Tree.FitsWord : String → Tree → Prop
  | insert (insert : InsertTree) : FitsWord "INSERT" ⟨.insert, some insert⟩
  | replace (insert : InsertTree) (hreplacing : insert.replacing = true) :
      FitsWord "REPLACE" ⟨.insert, some insert⟩
  | ofClass {word : String} {statementClass : StatementClass}
      (hclass : classOfWord? word = some statementClass) : FitsWord word (.ofClass statementClass)
  | byKeywords {word : String} (hclass : classOfWord? word = none)
      (hletters : lettersOnly word = true) (hphrase : beginsPhrase word = false) :
      FitsWord word .byKeywords

namespace Tree.FitsWord

variable {word : String} {tree : Tree}

theorem eq_ofClass
    (hfits : tree.FitsWord word) {statementClass : StatementClass}
    (hclass : classOfWord? word = some statementClass) (hinsert : word ≠ "INSERT")
    (hreplace : word ≠ "REPLACE") : tree = .ofClass statementClass := by
  cases hfits with
  | insert => exact absurd rfl hinsert
  | replace => exact absurd rfl hreplace
  | ofClass hother =>
      rw [hother] at hclass
      rw [Option.some.inj hclass]
  | byKeywords hnone =>
      rw [hnone] at hclass
      cases hclass

theorem lettersOnly (hfits : tree.FitsWord word) : lettersOnly word = true := by
  cases hfits with
  | insert | replace => decide
  | byKeywords _ hletters => exact hletters
  | ofClass hclass =>
      unfold classOfWord? at hclass
      split at hclass
      all_goals first
        | decide
        | cases hclass

theorem insert_eq_none
    (hfits : tree.FitsWord word) (hinsert : word ≠ "INSERT") (hreplace : word ≠ "REPLACE") :
    tree.insert = none := by
  cases hfits with
  | insert => exact absurd rfl hinsert
  | replace => exact absurd rfl hreplace
  | ofClass | byKeywords => rfl

theorem eq_byKeywords_iff (hfits : tree.FitsWord word) :
    tree = .byKeywords ↔ classOfWord? word = none := by
  cases hfits with
  | insert | replace => exact iff_of_false nofun nofun
  | ofClass hclass =>
      rw [hclass]
      exact iff_of_false nofun nofun
  | byKeywords hclass => exact iff_of_true rfl hclass

/-- Only what begins with `INSERT` adds rows without replacing others. -/
theorem of_not_replacing
    (hfits : tree.FitsWord word) {insert : InsertTree} (hinsert : tree.insert = some insert)
    (hreplacing : insert.replacing = false) : word = "INSERT" ∧ tree.kind = .insert := by
  cases hfits with
  | insert => exact ⟨rfl, rfl⟩
  | replace other hother =>
      cases hinsert
      rw [hother] at hreplacing
      cases hreplacing
  | ofClass | byKeywords => cases hinsert

end Tree.FitsWord

namespace Manipulation

variable {context : Context}

theorem replacing_insertHead (below : Productions) (replacing : Bool) :
    Yields context (insertHead below replacing) (·.replacing = replacing) := by
  unfold insertHead
  refine yields_bind fun dialect => yields_bind fun conflict => yields_ite_bind fun priority => ?_
  refine yields_ite_bind fun ignoring => yields_bind fun overwriting => yields_bind fun into => ?_
  refine yields_bind fun isLocal => yields_bind fun table => yields_bind fun target => ?_
  exact yields_ite_bind fun targetName => yields_pure rfl

theorem replacing_insertBody (below : Productions) (head : InsertTree) :
    Yields context (insertBody below head) (·.replacing = head.replacing) := by
  unfold insertBody
  refine yields_bind fun default_ => yields_ite (yields_pure rfl) ?_
  refine yields_bind fun atSymbol => yields_bind fun word => ?_
  lift_lets
  intro atQuery rest
  have hrest (columns : List Ident) :
      Yields context (rest columns) (·.replacing = head.replacing) :=
    yields_ite_bind fun partition => yields_bind fun source => yields_pure rfl
  exact yields_ite (yields_bind hrest) (yields_bind fun dialect => yields_bind hrest)

theorem replacing_insert (below : Productions) (replacing : Bool) :
    Yields context (insert below replacing) (·.replacing = replacing) := by
  unfold insert
  refine (replacing_insertHead below replacing).bind fun head hhead => ?_
  refine (replacing_insertBody below head).bind fun tree htree => ?_
  exact yields_bind fun rowName => yields_bind fun onConflict => yields_bind fun returning =>
    yields_pure (htree.trans hhead)

end Manipulation

namespace Statement

variable {context : Context}

theorem fitsWord_session? (below : Productions) (word : String) :
    Yields context (session? below word) (∀ tree ∈ ·, tree.FitsWord word) := by
  have hsome {word : String} {parser : Parser Tree}
      (hparser : Yields context parser (· = .byKeywords))
      (hword : classOfWord? word = none ∧ lettersOnly word = true ∧ beginsPhrase word = false) :
      Yields context (some <$> parser) (∀ tree ∈ ·, Tree.FitsWord word tree) :=
    hparser.map fun tree htree => by
      rintro _ ⟨⟩
      exact htree ▸ .byKeywords hword.1 hword.2.1 hword.2.2
  unfold session?
  extract_lets done
  have hdone {word : String} (parser : Parser Unit)
      (hword : classOfWord? word = none ∧ lettersOnly word = true ∧ beginsPhrase word = false) :
      Yields context (done parser) (∀ tree ∈ ·, Tree.FitsWord word tree) :=
    yields_bind fun _ => yields_pure (by
      rintro _ ⟨⟩
      exact .byKeywords hword.1 hword.2.1 hword.2.2)
  clear_value done
  split
  case h_5 | h_6 => exact hsome (yields_execute below) (by decide)
  case h_7 => exact hsome (yields_prepare below) (by decide)
  case h_9 => exact hsome (yields_cursor below) (by decide)
  case h_10 => exact hsome yields_fetch (by decide)
  case h_25 => exact hsome (yields_conditional below) (by decide)
  case h_26 => exact hsome (yields_loop below) (by decide)
  case h_27 => exact hsome (yields_choice below) (by decide)
  case h_35 | h_36 | h_37 | h_38 | h_39 => exact hsome (yields_whole _) (by decide)
  case h_40 => exact yields_pure (by simp)
  all_goals exact hdone _ (by decide)

/-- Behind its first word a statement is read as what the word says. -/
theorem fitsWord_behindWord? (below : Productions) (word : String) :
    Yields context (behindWord? below word) (∀ tree ∈ ·, tree.FitsWord word) := by
  have hsome {word : String} {parser : Parser Tree} {tree : Tree}
      (hparser : Yields context parser (· = tree)) (htree : tree.FitsWord word) :
      Yields context (some <$> parser) (∀ tree ∈ ·, Tree.FitsWord word tree) :=
    hparser.map fun found hfound => by
      rintro _ ⟨⟩
      exact hfound ▸ htree
  have hunsupported (word reason : String) :
      Yields context (unsupported reason : Parser (Option Tree))
        (∀ tree ∈ ·, Tree.FitsWord word tree) :=
    yields_bind fun _ => yields_throw _
  unfold behindWord?
  extract_lets done
  have hdone {word : String} {statementClass : StatementClass} (parser : Parser Unit)
      (hclass : classOfWord? word = some statementClass) :
      Yields context (done statementClass parser) (∀ tree ∈ ·, Tree.FitsWord word tree) :=
    yields_bind fun _ => yields_pure (by
      rintro _ ⟨⟩
      exact .ofClass hclass)
  clear_value done
  refine yields_bind fun shared => ?_
  split
  -- only `INSERT` and `REPLACE` come with an insert, and only the latter replaces
  case h_1 =>
    exact (Manipulation.replacing_insert below false).bind fun insert _ => yields_pure (by
      rintro _ ⟨⟩
      exact .insert insert)
  case h_2 =>
    refine yields_bind fun _ => yields_bind fun _ => yields_ite ?_ (hunsupported _ _)
    exact (Manipulation.replacing_insert below true).bind fun insert hinsert => yields_pure (by
      rintro _ ⟨⟩
      exact .replace insert hinsert)
  case h_10 => exact hsome yields_create (.ofClass rfl)
  case h_14 => exact hsome yields_grant (.ofClass rfl)
  case h_15 => exact hsome yields_revoke (.ofClass rfl)
  case h_16 | h_17 => exact yields_bind fun _ => hsome yields_opening (.ofClass rfl)
  case h_19 | h_20 => exact hsome yields_closing (.ofClass rfl)
  case h_21 => exact hsome yields_rollback (.ofClass rfl)
  case h_23 =>
    refine yields_bind fun _ => yields_bind fun _ => yields_ite ?_ (hunsupported _ _)
    exact hsome (yields_whole _) (.byKeywords rfl (by decide) (by decide))
  case h_24 => exact fitsWord_session? below word
  all_goals exact hdone _ rfl

theorem fitsWord_statement
    {below : Productions} {located : Located} {tokens rest : List Located} {tree : Tree}
    (htree : statement below context (located :: tokens) = .ok (tree, rest)) :
    if located.token = .symbol "(" then tree = .ofClass (.manipulation .anySession)
    else tree.FitsWord located.token.keyword := by
  split
  next hparenthesis =>
    unfold statement at htree
    rw [bind_of_ok peekKeyword_eq, bind_of_ok (atSymbol_of_eq hparenthesis), Bool.or_true,
      if_pos rfl] at htree
    obtain ⟨query, middle, -, hpure⟩ := bind_eq_ok.mp htree
    cases hpure
    rfl
  next hparenthesis =>
  by_cases hquery : ["SELECT", "WITH", "VALUES", "FROM"].contains located.token.keyword = true
  · have hat : tokenAt (located :: tokens) ≠ some (.symbol "(") := by
      simpa [tokenAt] using hparenthesis
    unfold statement at htree
    rw [bind_of_ok peekKeyword_eq, bind_of_ok (atSymbol_of_ne hat), keywordAt, hquery,
      Bool.true_or, if_pos rfl] at htree
    obtain ⟨query, middle, -, hpure⟩ := bind_eq_ok.mp htree
    cases hpure
    refine .ofClass ?_
    simp only [List.contains_iff_mem, List.mem_cons, List.not_mem_nil, or_false] at hquery
    rcases hquery with hword | hword | hword | hword <;> rw [hword] <;> rfl
  · have hbehind := behindWord?_of_statement located hparenthesis
      (Bool.not_eq_true _ ▸ hquery) htree
    exact fitsWord_behindWord? below _ hbehind tree rfl

/-! ## What the grammar leaves open -/

/-- The first words of the statements whose class the grammar leaves to the keywords. -/
def openWords : List String :=
  ["CALL", "LISTEN", "UNLISTEN", "NOTIFY", "EXECUTE", "EXEC", "PREPARE", "DEALLOCATE", "DECLARE",
    "FETCH", "CLOSE", "OPEN", "LOAD", "PRAGMA", "KILL", "ATTACH", "ASSERT", "PRINT", "RETURN",
    "RAISE", "VACUUM", "RENAME", "DISCARD", "RESET", "IF", "WHILE", "CASE", "UNLOAD", "EXPORT",
    "MSCK", "CACHE", "RAISERROR", "UNCACHE", "DENY", "SHOW", "DESC", "DESCRIBE", "ANALYZE",
    "COMMENT", "FLUSH"]

theorem classOfWord?_of_openWords : ∀ word ∈ openWords, classOfWord? word = none := by
  decide

theorem session?_of_not_mem (below : Productions) {word : String} (hword : word ∉ openWords) :
    session? below word = pure none := by
  unfold session?
  extract_lets done
  split
  case h_40 => rfl
  all_goals exact absurd (by decide) hword

theorem behindWord?_of_not_mem (below : Productions) {word : String}
    (hclass : classOfWord? word = none) (hword : word ∉ openWords) :
    Yields context (behindWord? below word) (· = none) := by
  have hsession : Yields context (session? below word) (· = none) := by
    rw [session?_of_not_mem below hword]
    exact yields_pure rfl
  unfold behindWord?
  extract_lets done
  clear_value done
  refine yields_bind fun shared => ?_
  split
  case h_23 => exact absurd (by decide) hword
  case h_24 => exact hsession
  all_goals cases hclass

/-- The class of a statement is left open exactly where its first word is one of these. -/
theorem byKeywords_iff
    {below : Productions} {located : Located} {tokens rest : List Located} {tree : Tree}
    (htree : statement below context (located :: tokens) = .ok (tree, rest)) :
    tree = .byKeywords ↔ located.token.keyword ∈ openWords := by
  have hfits := fitsWord_statement htree
  split at hfits
  next hparenthesis =>
    rw [hfits, hparenthesis]
    exact iff_of_false nofun (by decide)
  next hparenthesis =>
    rw [hfits.eq_byKeywords_iff]
    refine ⟨fun hclass => ?_, classOfWord?_of_openWords _⟩
    by_contra hword
    have hquery :
        ["SELECT", "WITH", "VALUES", "FROM"].contains located.token.keyword = false := by
      rw [← Bool.not_eq_true]
      intro hmem
      simp only [List.contains_iff_mem, List.mem_cons, List.not_mem_nil, or_false] at hmem
      rcases hmem with hmem | hmem | hmem | hmem <;> rw [hmem] at hclass <;> cases hclass
    have hbehind := behindWord?_of_statement located hparenthesis hquery htree
    have hnone := behindWord?_of_not_mem below hclass hword hbehind
    cases hnone

end Statement

end SqlPipe.Sql
