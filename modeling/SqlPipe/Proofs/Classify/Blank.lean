import SqlPipe.Engine.Rehearsal
import SqlPipe.Proofs.Classify.Grammar
import SqlPipe.Proofs.Classify.PlainInserts

/-!
# Blank texts

A blank text holds layout only, and the layout is read by several readers.  The keywords set aside
the comments in front of the first semicolon and no others, so that a blank text is told by the
first word of a comment behind a semicolon where that word is a keyword.  The grammar ends comments
elsewhere where they nest and where a carriage return ends a line comment, so that it may find a
statement inside of one.  Where neither happens, every dialect passes a blank text over.
-/

namespace SqlPipe.Classify

open Sql

variable {dialect : Dialect} {text : List Char}

/-! ## By keywords -/

theorem body_of_isBlank (hblank : isBlank text = true) :
    body text = [] ∨ ∃ rest, body text = ';' :: rest := by
  unfold isBlank at hblank
  fun_induction body text with
  | case1 text rest hcomment ih => exact ih hblank
  | case2 text hcode =>
      cases htrim : Text.trimStart text with
      | nil => exact .inl rfl
      | cons c rest =>
          by_cases hc : c = ';'
          · exact .inr ⟨rest, by rw [hc]⟩
          · have hagain : Text.trimStart (c :: rest) = c :: rest := by
              have hspace := List.head?_dropWhile_not Text.isSpace text
              rw [show text.dropWhile Text.isSpace = c :: rest from htrim] at hspace
              exact trimStart_of_not_isSpace hspace rest
            rw [htrim] at hblank hcode
            rw [isTrailer_of_code hagain hc hcode] at hblank
            cases hblank

theorem ofKeywords_of_isBlank {text : String} (hblank : isBlank text.toList = true) :
    ofKeywords dialect text = (leadingClass? dialect text.toList).getD .unknown := by
  have hbody := body_of_isBlank hblank
  have hconditional : isConditional text.toList = false := by
    rcases hbody with hbody | ⟨rest, hbody⟩ <;>
    · rw [isConditional, hbody]
      rfl
  have hwords : words? (body text.toList) = some [] := by
    rcases hbody with hbody | ⟨rest, hbody⟩
    · rw [hbody]
      exact wordsOnto_of_blank rfl
    · rw [isBlank, hbody] at hblank
      rw [hbody, words?, wordsOnto_of_sign rfl (by decide), hblank]
      rfl
  rw [ofKeywords_eq, hconditional, hwords, Option.bind_some, phraseOf?_nil]
  rfl

theorem ofKeywords_eq_unknown_of_isBlank {text : String} (hblank : isBlank text.toList = true) :
    ofKeywords dialect text = .unknown ↔ leadingClass? dialect text.toList = none := by
  rw [ofKeywords_of_isBlank hblank]
  cases hleading : leadingClass? dialect text.toList with
  | none => simp
  | some statementClass =>
      have hne : statementClass ≠ .unknown := by
        rintro rfl
        exact leadingClass?_ne_unknown hleading
      simp [hne]

/-! ## By the grammar -/

/-- The grammar ends a comment at the very beginning at the same place. -/
def opensAlike (lexicon : Lexicon) (text : List Char) : Bool :=
  (!lexicon.nestedComments || opensFlat text) && (!lexicon.returnEndsComment || opensUnbroken text)

/-- The grammar ends all comments of a blank text at the same places. -/
def readsAlike (lexicon : Lexicon) (text : List Char) : Bool :=
  match _h : Text.trimStart text with
  | [] => true
  | ';' :: rest => readsAlike lexicon rest
  | rest =>
      match _hafter : afterComment? rest with
      | some rest' => opensAlike lexicon rest && readsAlike lexicon rest'
      | none => true
termination_by text.length
decreasing_by
  · have hle := length_trimStart_le text
    simp only [_h, List.length_cons] at hle
    omega
  · have hlt := length_afterComment?_lt _hafter
    have hle := length_trimStart_le text
    rw [_h] at hle
    omega

theorem readsAlike_of_semicolon {lexicon : Lexicon} {rest : List Char}
    (htrim : Text.trimStart text = ';' :: rest) :
    readsAlike lexicon text = readsAlike lexicon rest := by
  rw [readsAlike]
  split
  next hother => rw [htrim] at hother; cases hother
  next hother =>
    rw [htrim] at hother
    cases hother
    rfl
  next hother => exact absurd htrim (hother rest)

theorem readsAlike_of_comment {lexicon : Lexicon} {rest : List Char}
    (hcomment : afterComment? (Text.trimStart text) = some rest) :
    readsAlike lexicon text =
      (opensAlike lexicon (Text.trimStart text) && readsAlike lexicon rest) := by
  rw [readsAlike]
  split
  next htrim => rw [htrim] at hcomment; cases hcomment
  next htrim => rw [htrim] at hcomment; cases hcomment
  next =>
    split
    next hafter =>
      rw [hcomment] at hafter
      cases hafter
      rfl
    next hafter =>
      rw [hcomment] at hafter
      cases hafter

/-- What is read of a blank text ends with it, if the grammar ends its comments alike. -/
theorem readsOn_nil_of_isTrailer {tokens : List Located}
    (hbegins : BeginsStatement (Lexicon.of dialect) tokens)
    (hreads : ReadsOn (Lexicon.of dialect) tokens text) (htrailer : isTrailer text = true)
    (halike : readsAlike (Lexicon.of dialect) text = true) :
    ReadsOn (Lexicon.of dialect) tokens [] := by
  have htrimmed {text : List Char} (hreads : ReadsOn (Lexicon.of dialect) tokens text) :
      ReadsOn (Lexicon.of dialect) tokens (Text.trimStart text) :=
    hbegins.dropWhile (fun _ => .inl) (by decide) hreads
  fun_induction isTrailer text with
  | case1 text htrim => exact htrim ▸ htrimmed hreads
  | case2 text rest htrim ih =>
      have hsemicolon := htrimmed hreads
      rw [htrim] at hsemicolon
      rw [readsAlike_of_semicolon htrim] at halike
      exact ih hsemicolon.semicolon htrailer halike
  | case3 text rest hnil hsemicolon hcomment ih =>
      -- Here both readers have to leave the comment at the same place.
      rw [readsAlike_of_comment hcomment, Bool.and_eq_true] at halike
      obtain ⟨hopens, hrest⟩ := halike
      obtain ⟨hflat, hunbroken⟩ := Bool.and_eq_true_iff.mp hopens
      have hlater := readsOn_of_afterComment? hbegins (htrimmed hreads) hcomment
        (fun hnested => by simpa [hnested] using hflat)
        (fun hreturn => by simpa [hreturn] using hunbroken)
      exact ih hlater htrailer hrest
  | case4 => cases htrailer

theorem no_trees_of_isBlank {text : String} (hblank : isBlank text.toList = true)
    (halike : readsAlike (Lexicon.of dialect) text.toList = true) {trees : List Tree}
    (htrees : treesOf dialect text = .ok trees) : trees = [] := by
  cases trees with
  | nil => rfl
  | cons tree others =>
      obtain ⟨tokens, remaining, htokens, hlist⟩ := treesOf_eq_ok.mp htrees
      have hbegins := beginsStatement_of_treesOf htokens htrees
      rw [isBlank, isTrailer_body] at hblank
      exact (readsOn_nil_of_isTrailer hbegins (.of_tokensOf htokens) hblank halike).no_trees hlist

/-! ## By a dialect -/

theorem exists_parse_eq_ok_of_isBlank {text : String} (hblank : isBlank text.toList = true) :
    ∃ parsed, (parse dialect text).1 = .ok parsed := by
  by_cases hdialect : dialect = .postgres
  · rw [parse, if_pos hdialect, parseByGrammar]
    cases treesOf dialect text with
    | ok trees => cases trees <;> exact ⟨_, rfl⟩
    | error error =>
        dsimp only
        rw [hblank, if_neg (by simp)]
        exact ⟨_, rfl⟩
  · rw [parse, if_neg hdialect]
    exact ⟨_, rfl⟩

theorem exists_parsed_of_isBlank {text : String} (hblank : isBlank text.toList = true)
    (halike : dialect = .postgres → readsAlike (Lexicon.of dialect) text.toList = true) :
    ∃ statementClass, (parse dialect text).1 = .ok ⟨text, statementClass, none⟩ ∧
      (statementClass = .unknown ↔ leadingClass? dialect text.toList = none ∨
        dialect = .postgres ∧ treesOf dialect text = .ok []) := by
  by_cases hdialect : dialect = .postgres
  · have hnone {trees : List Tree} (htrees : treesOf dialect text = .ok trees) : trees = [] :=
      no_trees_of_isBlank hblank (halike hdialect) htrees
    rw [parse, if_pos hdialect, parseByGrammar]
    cases htrees : treesOf dialect text with
    | ok trees =>
        obtain rfl := hnone htrees
        exact ⟨.unknown, rfl, fun _ => .inr ⟨hdialect, rfl⟩, fun _ => rfl⟩
    | error error =>
        dsimp only
        rw [hblank, if_neg (by simp)]
        refine ⟨_, rfl, ?_⟩
        rw [ofKeywords_eq_unknown_of_isBlank hblank]
        simp
  · rw [parse, if_neg hdialect, parseByKeywords]
    refine ⟨_, rfl, ?_⟩
    rw [ofKeywords_eq_unknown_of_isBlank hblank]
    simp [hdialect]

theorem exec_of_unknown {text : String} {parsed : Parsed}
    (hparsed : (parse dialect text).1 = .ok parsed) (hclass : parsed.statementClass = .unknown)
    {σ : Type} (destination : Destination σ) (engine : Engine σ)
    (hdialect : destination.dialect = dialect) :
    engine.exec destination text =
        (.ok (), (engine.reportAll (parse dialect text).2).skip text) ∧
      (engine.exec destination text).2.messages = engine.messages := by
  subst hdialect
  have hrole : roleOf destination.dialect text = .skipped :=
    roleOf_eq_skipped_iff.mpr ⟨parsed, hparsed, hclass⟩
  have hexec : engine.exec destination text =
      (.ok (), (engine.reportAll (parse destination.dialect text).2).skip text) := by
    rw [Engine.exec_eq, hrole]
  refine ⟨hexec, ?_⟩
  rw [hexec, Engine.skip, Engine.messages_report]
  exact Engine.messages_reportAll engine _

/-! ## Definitions -/

theorem parse_of_definition {text : String} (hclass : ofKeywords .mysql text = .definition) :
    (parse .mysql text).1 = .ok ⟨text, .definition, none⟩ := by
  rw [parse, if_neg (by decide), parseByKeywords, hclass]

/-- A definition is sent as it stands, on a connection that is opened for it. -/
theorem messages_exec_of_definition
    {text : String} (hclass : ofKeywords .mysql text = .definition) :
    ((Engine.fresh 0 (Rehearsal.fresh [] [] [])).exec (Rehearsal.destination .mysql 4 false)
      text).2.messages = [(0, .statement text)] := by
  have hrole : roleOf (Rehearsal.destination .mysql 4 false).dialect text =
      .barrier .definition := by
    rw [Rehearsal.destination, roleOf, parse_of_definition hclass]
    rfl
  rw [Engine.exec_eq, hrole]
  rfl

/-! ## A comment with a keyword -/

/-- In front of semicolons a comment with a keyword is set aside. -/
def commentInFront : String :=
  "/* drop; */\n;;"

/-- Behind semicolons it is not. -/
def commentBehind : String :=
  ";; -- drop the old tables"

theorem afterComment?_commentInFront :
    afterComment? (Text.trimStart commentInFront.toList) = some "\n;;".toList :=
  rfl

theorem body_commentInFront : body commentInFront.toList = ";;".toList := by
  have hcode : afterComment? (Text.trimStart "\n;;".toList) = none := rfl
  rw [body_of_comment afterComment?_commentInFront, body_of_code hcode]
  rfl

theorem isBlank_commentInFront : isBlank commentInFront.toList = true := by
  have hfirst : Text.trimStart ";;".toList = ';' :: ";".toList := rfl
  have hsecond : Text.trimStart ";".toList = [';'] := rfl
  rw [isBlank, body_commentInFront, isTrailer_of_semicolon hfirst, isTrailer_of_semicolon hsecond,
    isTrailer_of_blank rfl]

theorem readsAlike_commentInFront :
    readsAlike (Lexicon.of .postgres) commentInFront.toList = true := by
  have hopens :
      opensAlike (Lexicon.of .postgres) (Text.trimStart commentInFront.toList) = true := by decide
  have hfirst : Text.trimStart "\n;;".toList = ';' :: ";".toList := rfl
  have hsecond : Text.trimStart ";".toList = [';'] := rfl
  rw [readsAlike_of_comment afterComment?_commentInFront, hopens, Bool.true_and,
    readsAlike_of_semicolon hfirst, readsAlike_of_semicolon hsecond]
  simp [readsAlike, Text.trimStart]

theorem isBlank_commentBehind : isBlank commentBehind.toList = true := by
  have hfirst : Text.trimStart commentBehind.toList =
      ';' :: "; -- drop the old tables".toList := rfl
  have hsecond : Text.trimStart "; -- drop the old tables".toList =
      ';' :: " -- drop the old tables".toList := rfl
  have hcomment : afterComment? (Text.trimStart " -- drop the old tables".toList) = some [] := rfl
  rw [isBlank, isTrailer_body, isTrailer_of_semicolon hfirst, isTrailer_of_semicolon hsecond,
    isTrailer_of_comment hcomment, isTrailer_of_blank rfl]

theorem ofKeywords_commentBehind (dialect : Dialect) :
    ofKeywords dialect commentBehind = .definition := by
  have hcode : afterComment? (Text.trimStart commentBehind.toList) = none := rfl
  have hword : firstWord (body commentBehind.toList) = "drop".toList := by
    rw [body_of_code hcode]
    rfl
  rw [ofKeywords_of_isBlank isBlank_commentBehind, leadingClass?, hword]
  cases dialect <;> rfl

/-! ## What is passed over -/

/-- A blank text is passed over unless a comment behind a semicolon begins with a keyword.  The
keywords pass it over exactly then, and always where no comment stands behind a semicolon.  Its
dialect never fails on it.  If the grammar ends the comments at the same places, the dialect passes
it over where the keywords do, and PostgreSQL also where its grammar accepts it.  What is passed
over sends nothing. -/
theorem passed_over_of_isBlank {text : String} (hblank : isBlank text.toList = true) :
    (ofKeywords dialect text = .unknown ↔ leadingClass? dialect text.toList = none) ∧
    ((∀ c ∈ body text.toList, Text.isSpace c = true ∨ c = ';') →
      leadingClass? dialect text.toList = none) ∧
    (∃ parsed, (parse dialect text).1 = .ok parsed) ∧
    ((dialect = .postgres → readsAlike (Lexicon.of dialect) text.toList = true) →
      ∃ statementClass, (parse dialect text).1 = .ok ⟨text, statementClass, none⟩ ∧
        (statementClass = .unknown ↔ leadingClass? dialect text.toList = none ∨
          dialect = .postgres ∧ treesOf dialect text = .ok []) ∧
        (statementClass = .unknown →
          ∀ {σ : Type} (destination : Destination σ) (engine : Engine σ),
            destination.dialect = dialect →
            engine.exec destination text =
                (.ok (), (engine.reportAll (parse dialect text).2).skip text) ∧
              (engine.exec destination text).2.messages = engine.messages)) := by
  refine ⟨ofKeywords_eq_unknown_of_isBlank hblank, fun hlayout => ?_,
    exists_parse_eq_ok_of_isBlank hblank, fun halike => ?_⟩
  · exact leadingClass?_eq_none_of_no_word (firstWord_of_layout hlayout)
  · obtain ⟨statementClass, hparsed, hunknown⟩ := exists_parsed_of_isBlank hblank halike
    exact ⟨statementClass, hparsed, hunknown,
      fun hclass {_} destination engine => exec_of_unknown hparsed hclass destination engine⟩

theorem passed_over_of_comment_in_front :
    let destination := Rehearsal.destination .postgres 4 false
    let engine := Engine.fresh 0 (Rehearsal.fresh [] [] [])
    isBlank commentInFront.toList = true ∧ ofKeywords .postgres commentInFront = .unknown ∧
      engine.exec destination commentInFront =
        (.ok (), (engine.reportAll (parse .postgres commentInFront).2).skip commentInFront) := by
  intro destination engine
  obtain ⟨hkeywords, hlayout, -, hparsed⟩ := passed_over_of_isBlank isBlank_commentInFront
  have hnone : leadingClass? .postgres commentInFront.toList = none := by
    refine hlayout fun c hc => .inr ?_
    rw [body_commentInFront] at hc
    simpa using hc
  obtain ⟨statementClass, -, hunknown, hexec⟩ := hparsed fun _ => readsAlike_commentInFront
  have hskipped : statementClass = .unknown := hunknown.mpr (.inl hnone)
  exact ⟨isBlank_commentInFront, hkeywords.mpr hnone, (hexec hskipped destination engine rfl).1⟩

/-- A comment behind semicolons that begins with a keyword is sent as a statement of its class. -/
theorem exists_isBlank_sent :
    ∃ text : String, isBlank text.toList = true ∧ ofKeywords .mysql text = .definition ∧
      (parse .mysql text).1 = .ok ⟨text, .definition, none⟩ ∧
      ((Engine.fresh 0 (Rehearsal.fresh [] [] [])).exec (Rehearsal.destination .mysql 4 false)
        text).2.messages = [(0, .statement text)] := by
  have hclass := ofKeywords_commentBehind .mysql
  exact ⟨commentBehind, isBlank_commentBehind, hclass, parse_of_definition hclass,
    messages_exec_of_definition hclass⟩

end SqlPipe.Classify
