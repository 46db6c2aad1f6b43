import SqlPipe.Proofs.Classify.Layout
import SqlPipe.Proofs.Engine.Roles
import SqlPipe.Proofs.Sql.Lexing
import SqlPipe.Proofs.Sql.Statements

/-!
# Statements of transaction control

Statements that open a transaction or a savepoint and statements that close one are told by their
first word, whatever name a savepoint has.  The keyword tables say so directly.  The grammar of
PostgreSQL either refuses the text, so that the tables decide, or reads it as what its first word
says.
-/

namespace SqlPipe

/-- A statement of transaction control. -/
inductive TransactionStatement
  | begin
  | savepoint (name : String)
  | release (name : String)
  | rollbackTo (name : String)
  | commit
  | rollback
  deriving DecidableEq, Repr

namespace TransactionStatement

def word : TransactionStatement → String
  | begin => "BEGIN"
  | savepoint _ => "SAVEPOINT"
  | release _ => "RELEASE"
  | rollbackTo _ | rollback => "ROLLBACK"
  | commit => "COMMIT"

def others : TransactionStatement → String
  | begin | commit | rollback => ""
  | savepoint name => " " ++ name
  | release name => " SAVEPOINT " ++ name
  | rollbackTo name => " TO SAVEPOINT " ++ name

/-- What stands behind the first word, with a semicolon at the end or without. -/
def behind (terminated : Bool) (statement : TransactionStatement) : String :=
  statement.others ++ if terminated then ";" else ""

def text (terminated : Bool) (statement : TransactionStatement) : String :=
  statement.word ++ statement.behind terminated

def boundary : TransactionStatement → Boundary
  | begin | savepoint _ => .opening
  | release _ | rollbackTo _ | commit | rollback => .closing

theorem word_letters (statement : TransactionStatement) :
    ∀ c ∈ statement.word.toList, c.isAlpha = true := by
  cases statement <;> simp [word]

theorem head_behind (terminated : Bool) (statement : TransactionStatement) :
    ∀ c ∈ (statement.behind terminated).toList.head?, c = ' ' ∨ c = ';' := by
  cases statement <;> cases terminated <;> simp [behind, others]

end TransactionStatement

namespace Classify

variable {dialect : Dialect}

/-! ## By keywords -/

theorem body_of_isAlpha {c : Char} (hc : c.isAlpha = true) (rest : List Char) :
    body (c :: rest) = c :: rest := by
  have hspace := Sql.isSpace_of_isAlpha hc
  have hdash := Sql.ne_of_isAlpha hc (d := '-') (by decide)
  have hhash := Sql.ne_of_isAlpha hc (d := '#') (by decide)
  have hslash := Sql.ne_of_isAlpha hc (d := '/') (by decide)
  have htrim := trimStart_of_not_isSpace hspace rest
  have hcomment : afterComment? (c :: rest) = none := by
    simp [afterComment?, hdash, hhash, hslash]
  rw [body_of_code (by rw [htrim, hcomment]), htrim]

/-- A text begins with a word of ASCII letters and does not go on with a letter. -/
structure StartsWith (word behind text : List Char) : Prop where
  text_eq : text = word ++ behind
  word_ne : word ≠ []
  letters : ∀ c ∈ word, c.isAlpha = true
  stops : ∀ c ∈ behind.head?, Text.isAlphabetic c = false

theorem StartsWith.takeWhile {word behind text : List Char}
    (hstarts : StartsWith word behind text) : text.takeWhile Text.isAlphabetic = word := by
  obtain ⟨rfl, -, hletters, hstops⟩ := hstarts
  rw [List.takeWhile_append_of_pos fun c hc => Sql.isAlphabetic_of_isAlpha (hletters c hc)]
  cases behind with
  | nil => simp
  | cons c behind => simp [hstops c rfl]

theorem StartsWith.firstWord {word behind text : List Char}
    (hstarts : StartsWith word behind text) : firstWord text = word.map foldLetter := by
  have htake := hstarts.takeWhile
  obtain ⟨rfl, hne, hletters, -⟩ := hstarts
  obtain ⟨c, more, rfl⟩ := List.exists_cons_of_ne_nil hne
  have hc := Sql.isAlphabetic_of_isAlpha (hletters c List.mem_cons_self)
  have hdrop : ((c :: more) ++ behind).dropWhile (fun d => !Text.isAlphabetic d) =
      (c :: more) ++ behind := by simp [hc]
  rw [Classify.firstWord, hdrop, htake]

theorem StartsWith.prefix_words {word behind text : List Char}
    (hstarts : StartsWith word behind text) (words : List (List Char))
    (hwords : words? text = some words) : ∃ more, words = word.map foldLetter :: more := by
  have htake := hstarts.takeWhile
  obtain ⟨rfl, hne, hletters, -⟩ := hstarts
  obtain ⟨c, more, rfl⟩ := List.exists_cons_of_ne_nil hne
  have hc := hletters c List.mem_cons_self
  have hspace := Sql.isSpace_of_isAlpha hc
  have halphabetic := Sql.isAlphabetic_of_isAlpha hc
  rw [List.cons_append] at hwords htake
  have htrim := trimStart_of_not_isSpace hspace (more ++ behind)
  rw [words?, wordsOnto_of_letter htrim halphabetic] at hwords
  rw [List.takeWhile_cons_of_pos halphabetic] at htake
  rw [htake] at hwords
  obtain ⟨others, hothers⟩ := prefix_of_wordsOnto hwords
  exact ⟨others, hothers.symm⟩

/-- A text has the class of its first word, if no phrase that begins with the word has another. -/
theorem StartsWith.ofKeywords
    {word behind : List Char} {text : String} (hstarts : StartsWith word behind text.toList)
    {statementClass : StatementClass}
    (hphrase : ∀ phrase : String, word.map foldLetter <+: phrase.toList →
      phraseClass? dialect phrase = none ∨ phraseClass? dialect phrase = some statementClass)
    (hdialect : dialectClass? dialect (String.ofList (word.map foldLetter)) = none)
    (hshared : sharedClass? (String.ofList (word.map foldLetter)) = some statementClass) :
    ofKeywords dialect text = statementClass := by
  have hfirst := hstarts.firstWord
  have hwords := hstarts.prefix_words
  obtain ⟨htext, hne, hletters, -⟩ := hstarts
  obtain ⟨c, more, rfl⟩ := List.exists_cons_of_ne_nil hne
  have hc := hletters c List.mem_cons_self
  have hslash := Sql.ne_of_isAlpha hc (d := '/') (by decide)
  have hbody : body text.toList = text.toList := by
    rw [htext, List.cons_append, body_of_isAlpha hc]
  unfold Classify.ofKeywords
  rw [hbody]
  split
  next hnil =>
    rw [htext] at hnil
    cases hnil
  next hcomment =>
    rw [htext] at hcomment
    exact absurd (List.cons.inj hcomment).1 hslash
  next =>
    dsimp only
    rw [hfirst, hdialect, hshared]
    cases hfound : words? text.toList with
    | none => rfl
    | some words =>
        -- a phrase begins with the first word, so none of another class is met
        obtain ⟨others, rfl⟩ := hwords words hfound
        have hbegins : (c :: more).map foldLetter <+: (String.ofList
            (Text.joinWith [' '] ((c :: more).map foldLetter :: others))).toList := by
          rw [String.toList_ofList]
          cases others with
          | nil => simp [Text.joinWith]
          | cons second others => simp [Text.joinWith, List.intercalate]
        rcases hphrase _ hbegins with hnone | hsome
        · rw [Option.bind_some, hnone]
          rfl
        · rw [Option.bind_some, hsome]
          rfl

/-- Words that the shared table knows as transaction control. -/
inductive Controls : String → Boundary → Prop
  | savepoint : Controls "savepoint" .opening
  | release : Controls "release" .closing
  | rollback : Controls "rollback" .closing

theorem Controls.phraseClass? {word : String} {boundary : Boundary}
    (hcontrols : Controls word boundary) {phrase : String}
    (hphrase : word.toList <+: phrase.toList) :
    phraseClass? dialect phrase = none ∨
      phraseClass? dialect phrase = some (.transaction boundary) := by
  unfold Classify.phraseClass?
  cases hcontrols <;> split
  all_goals try split
  all_goals first
    | exact .inl rfl
    | exact .inr rfl
    | exact absurd hphrase (by decide)

theorem Controls.dialectClass? {word : String} {boundary : Boundary}
    (hcontrols : Controls word boundary) : dialectClass? dialect word = none := by
  cases hcontrols <;> cases dialect <;> rfl

theorem Controls.sharedClass? {word : String} {boundary : Boundary}
    (hcontrols : Controls word boundary) :
    sharedClass? word = some (.transaction boundary) := by
  cases hcontrols <;> rfl

end Classify

namespace TransactionStatement

open Classify

theorem startsWith_text (terminated : Bool) (statement : TransactionStatement) :
    StartsWith statement.word.toList (statement.behind terminated).toList
      (statement.text terminated).toList where
  text_eq := String.toList_append
  word_ne := by cases statement <;> simp [word]
  letters := statement.word_letters
  stops := by
    intro c hc
    rcases statement.head_behind terminated c hc with rfl | rfl <;> decide

theorem ofKeywords_of_controls
    {dialect : Dialect} {terminated : Bool} {statement : TransactionStatement} {word : String}
    (hcontrols : Controls word statement.boundary)
    (hword : statement.word.toList.map foldLetter = word.toList) :
    ofKeywords dialect (statement.text terminated) = .transaction statement.boundary := by
  have hback : String.ofList (statement.word.toList.map foldLetter) = word := by
    rw [hword, String.ofList_toList]
  apply (statement.startsWith_text terminated).ofKeywords
  · intro phrase hphrase
    rw [hword] at hphrase
    exact hcontrols.phraseClass? hphrase
  · rw [hback]
    exact hcontrols.dialectClass?
  · rw [hback]
    exact hcontrols.sharedClass?

/-- The keywords tell every statement of transaction control by its first word. -/
theorem ofKeywords_text (dialect : Dialect) (terminated : Bool)
    (statement : TransactionStatement) :
    ofKeywords dialect (statement.text terminated) = .transaction statement.boundary := by
  cases statement with
  | begin => cases dialect <;> cases terminated <;> decide +kernel
  | commit => cases dialect <;> cases terminated <;> decide +kernel
  | savepoint name => exact ofKeywords_of_controls .savepoint (by simp only [word]; decide)
  | release name => exact ofKeywords_of_controls .release (by simp only [word]; decide)
  | rollbackTo name => exact ofKeywords_of_controls .rollback (by simp only [word]; decide)
  | rollback => exact ofKeywords_of_controls .rollback (by simp only [word]; decide)

/-! ## By grammar -/

open Sql Sql.Parser

theorem classOfWord?_word (statement : TransactionStatement) :
    classOfWord? statement.word = some (.transaction statement.boundary) := by
  cases statement <;> rfl

theorem exists_tokensOf_text
    {dialect : Dialect} {terminated : Bool} {statement : TransactionStatement}
    {tokens : List Located}
    (htokens : tokensOf (Lexicon.of dialect) (statement.text terminated) = .ok tokens) :
    ∃ others, tokens = ⟨wordToken statement.word.toList, ⟨1, 1⟩, .none⟩ :: others := by
  obtain ⟨c, more, hword⟩ : ∃ c more, statement.word.toList = c :: more := by
    cases statement <;> simp only [word] <;> exact ⟨_, _, rfl⟩
  have hletters := statement.word_letters
  rw [hword] at hletters ⊢
  apply exists_tokensOf_word (hletters c List.mem_cons_self) _ _ _ _ htokens
  · exact (statement.behind terminated).toList
  · intro d hd
    exact continuesName_of_isAlpha (hletters d (List.mem_cons_of_mem c hd))
  · intro d hd
    rcases statement.head_behind terminated d hd with rfl | rfl <;> cases dialect <;> decide
  · apply announcesNothing_append fun d hd => hletters d (List.mem_cons_of_mem c hd)
    intro d hd
    rcases statement.head_behind terminated d hd with rfl | rfl <;> decide
  · rw [text, String.toList_append, hword]
    rfl

theorem first_of_treesOf
    {dialect : Dialect} {terminated : Bool} {statement : TransactionStatement}
    {trees : List Tree} (htrees : treesOf dialect (statement.text terminated) = .ok trees) :
    trees.head? = some (.ofClass (.transaction statement.boundary)) := by
  obtain ⟨tokens, rest, htokens, hlist⟩ := treesOf_eq_ok.mp htrees
  obtain ⟨others, rfl⟩ := exists_tokensOf_text htokens
  obtain ⟨tree, more, middle, rfl, htree⟩ :=
    exists_first_of_statementList (by simp [wordToken]) hlist
  have hkeyword : (wordToken statement.word.toList).keyword = statement.word := by
    cases statement <;> simp only [word] <;> decide
  have hfits := Statement.fitsWord_statement htree
  rw [if_neg (by simp [wordToken]), hkeyword] at hfits
  have hother : statement.word ≠ "INSERT" ∧ statement.word ≠ "REPLACE" := by
    cases statement <;> simp [word]
  rw [List.head?_cons, hfits.eq_ofClass statement.classOfWord?_word hother.1 hother.2]

/-- Every dialect knows a statement of transaction control for what it is. -/
theorem roleOf_text (dialect : Dialect) (terminated : Bool) (statement : TransactionStatement) :
    roleOf dialect (statement.text terminated) =
      .barrier (.transaction statement.boundary) := by
  have hkeywords := ofKeywords_text dialect terminated statement
  obtain ⟨parsed, hparsed, hclass⟩ : ∃ parsed,
      (parse dialect (statement.text terminated)).1 = .ok parsed ∧
        parsed.statementClass = .transaction statement.boundary := by
    unfold parse
    split
    · unfold parseByGrammar
      split
      next htrees => cases first_of_treesOf htrees
      next first others htrees =>
        have hfirst : first = .ofClass (.transaction statement.boundary) :=
          Option.some.inj (first_of_treesOf htrees)
        exact ⟨_, rfl, by rw [hfirst]; rfl⟩
      next failure htrees =>
        rw [hkeywords]
        exact ⟨_, rfl, rfl⟩
    · exact ⟨_, rfl, hkeywords⟩
  unfold roleOf
  rw [hparsed]
  simp [Parsed.role, Parsed.toInsert?, hclass]

end TransactionStatement

end SqlPipe
