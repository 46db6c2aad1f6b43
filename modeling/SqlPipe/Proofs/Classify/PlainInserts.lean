import SqlPipe.Engine.Rehearsal
import SqlPipe.Proofs.Classify.Keywords
import SqlPipe.Proofs.Engine.Roles
import SqlPipe.Proofs.Sql.Clauses
import SqlPipe.Proofs.Sql.Comments
import SqlPipe.Script.Splitter

/-!
# Plain inserts

An insert that can be batched is read twice where keywords decide: they tell its class, and the
grammar takes it apart.  The two readers agree on where the insert begins if no comment stands
behind a semicolon, no comment opens inside another one where comments nest, and the first word is
of ASCII letters.  In PostgreSQL there is one reader only.
-/

namespace SqlPipe.Classify

open Sql

/-! ## Plain openings -/

def isLead (c : Char) : Bool :=
  Text.isSpace c || c == ';'

theorem isLead_iff {c : Char} : isLead c = true ↔ Text.isSpace c = true ∨ c = ';' := by
  simp [isLead]

def opensFlat (text : List Char) : Bool :=
  match text with
  | '/' :: '*' :: inside =>
      match Text.splitAt? ['*', '/'] inside with
      | some (comment, _) => !decide (['/', '*'] <:+: comment ++ ['*'])
      | none => true
  | _ => true

/-- A dashed comment at the very beginning holds no carriage return. -/
def opensUnbroken (text : List Char) : Bool :=
  match text with
  | '-' :: '-' :: line => !(line.takeWhile (· != '\n')).contains '\r'
  | _ => true

/-- A word of ASCII letters stands behind white space and semicolons. -/
def opensWithWord (text : List Char) : Bool :=
  Sql.lettersOnly (String.ofList ((text.dropWhile isLead).takeWhile Text.isAlphabetic))

/-- The text opens with white space and comments, then goes on with white space and semicolons, and
then with a word of ASCII letters. -/
def opensPlainly (lexicon : Lexicon) (text : List Char) : Bool :=
  match _h : afterComment? (Text.trimStart text) with
  | some rest =>
      (!lexicon.nestedComments || opensFlat (Text.trimStart text)) && opensPlainly lexicon rest
  | none => opensWithWord (Text.trimStart text)
termination_by text.length
decreasing_by
  have hlt := length_afterComment?_lt _h
  have hle := length_trimStart_le text
  omega

variable {dialect : Dialect} {c : Char} {more text : List Char} {tokens : List Located}

theorem exists_of_opensWithWord (hopens : opensWithWord text = true) :
    ∃ c more, text.dropWhile isLead = c :: more ∧ c.isAlpha = true ∧
      ∀ d ∈ more.takeWhile Text.isAlphabetic, d.isAlpha = true := by
  rw [opensWithWord, lettersOnly, Bool.and_eq_true, String.toList_ofList,
    List.all_eq_true] at hopens
  obtain ⟨hne, hletters⟩ := hopens
  cases hdrop : text.dropWhile isLead with
  | nil =>
      rw [hdrop] at hne
      cases hne
  | cons c more =>
      rw [hdrop] at hne hletters
      cases hc : Text.isAlphabetic c with
      | false =>
          rw [List.takeWhile_cons_of_neg (by rw [hc]; decide)] at hne
          cases hne
      | true =>
          rw [List.takeWhile_cons_of_pos hc] at hletters
          obtain ⟨hhead, hothers⟩ := List.forall_mem_cons.mp hletters
          exact ⟨c, more, rfl, hhead, hothers⟩

/-! ## The first word -/

theorem map_toLower_upperLetter {d : Char} (hd : d.isAlpha = true) :
    (upperLetter d).map Char.toLower = [foldLetter d] := by
  have hcode := isAlpha_iff.mp hd
  have hall : ∀ n < 128, (Char.ofNat n).isAlpha = true →
      (upperLetter (Char.ofNat n)).map Char.toLower = [foldLetter (Char.ofNat n)] := by
    decide
  rw [← Char.ofNat_toNat d] at hd ⊢
  exact hall d.toNat (by omega) hd

theorem map_foldLetter_of_keywordOf {letters : List Char}
    (hletters : ∀ d ∈ letters, d.isAlpha = true) {word : String}
    (hword : keywordOf letters = word) :
    letters.map foldLetter = word.toList.map Char.toLower := by
  rw [← hword, keywordOf, String.toList_ofList]
  clear hword
  induction letters with
  | nil => rfl
  | cons d letters ih =>
      obtain ⟨hd, hothers⟩ := List.forall_mem_cons.mp hletters
      rw [List.flatMap_cons, List.map_append, map_toLower_upperLetter hd, ← ih hothers]
      rfl

/-- Where the tokens begin with `INSERT`, so do the words of a plainly opened text. -/
theorem firstWord_of_opensWithWord
    (hbegins : BeginsWith (Lexicon.of dialect) tokens "INSERT")
    (hreads : ReadsOn (Lexicon.of dialect) tokens text) (hopens : opensWithWord text = true) :
    firstWord text = "insert".toList := by
  obtain ⟨c, more, hdrop, hc, hletters⟩ := exists_of_opensWithWord hopens
  have hreads :=
    (hbegins.beginsStatement (by decide)).dropWhile (fun _ => isLead_iff.mp) rfl hreads
  rw [hdrop] at hreads
  have hkeyword := hbegins c more hreads (ne_of_isAlpha hc (by decide))
    (readGap?_of_isAlpha hc more)
  have hname : lettersOnly (keywordOf (c :: more.takeWhile (Lexicon.of dialect).continuesName))
      = true := by rw [hkeyword]; decide
  have hsame : more.takeWhile Text.isAlphabetic =
      more.takeWhile (Lexicon.of dialect).continuesName :=
    Text.takeWhile_eq_takeWhile (fun d hd => continuesName_of_isAlpha (hletters d hd)) fun d hd =>
      isAlphabetic_of_lettersOnly hname d (List.mem_cons_of_mem c hd)
  rw [← hsame] at hkeyword
  have hfirst : text.dropWhile (fun d => !Text.isAlphabetic d) = c :: more := by
    rw [← hdrop]
    apply Text.dropWhile_eq_dropWhile
    · intro d hd
      rcases isLead_iff.mp hd with hspace | rfl
      · rw [isAlphabetic_of_isSpace hspace]
        rfl
      · decide
    · intro d hd
      rw [hdrop] at hd
      cases hd
      rw [isAlphabetic_of_isAlpha hc]
      rfl
  rw [firstWord, hfirst, List.takeWhile_cons_of_pos (isAlphabetic_of_isAlpha hc),
    map_foldLetter_of_keywordOf (List.forall_mem_cons.mpr ⟨hc, hletters⟩) hkeyword]
  decide

/-! ## The body -/

theorem opensPlainly_of_comment {lexicon : Lexicon} {rest : List Char}
    (hcomment : afterComment? (Text.trimStart text) = some rest)
    (hopens : opensPlainly lexicon text = true) :
    (lexicon.nestedComments = true → opensFlat (Text.trimStart text) = true) ∧
      opensPlainly lexicon rest = true := by
  rw [opensPlainly] at hopens
  split at hopens
  next hafter =>
    rw [hcomment] at hafter
    cases hafter
    obtain ⟨hflat, hrest⟩ := Bool.and_eq_true_iff.mp hopens
    exact ⟨fun hnested => by simpa [hnested] using hflat, hrest⟩
  next hafter =>
    rw [hcomment] at hafter
    cases hafter

theorem opensPlainly_of_code {lexicon : Lexicon}
    (hcode : afterComment? (Text.trimStart text) = none)
    (hopens : opensPlainly lexicon text = true) : opensWithWord (Text.trimStart text) = true := by
  rw [opensPlainly] at hopens
  split at hopens
  next hafter =>
    rw [hcode] at hafter
    cases hafter
  next => exact hopens

/-- Behind a comment the tokens go on, if the grammar ends it at the same place. -/
theorem readsOn_of_afterComment?
    (hbegins : BeginsStatement (Lexicon.of dialect) tokens)
    (hreads : ReadsOn (Lexicon.of dialect) tokens text) {rest : List Char}
    (hafter : afterComment? text = some rest)
    (hflat : (Lexicon.of dialect).nestedComments = true → opensFlat text = true)
    (hreturn : (Lexicon.of dialect).returnEndsComment = true → opensUnbroken text = true) :
    ReadsOn (Lexicon.of dialect) tokens rest := by
  unfold afterComment? at hafter
  split at hafter
  next line =>
    cases hafter
    exact hbegins.lineComment (fun hends => by simpa [opensUnbroken] using hreturn hends) hreads
  next line =>
    cases hafter
    exact hbegins.hashComment hreads
  next => cases hafter
  next inside hconditional =>
    cases hafter
    obtain ⟨split, hsplit⟩ := Option.isSome_iff_exists.mp
      (Text.occursIn_iff.mpr hreads.infix_of_blockComment)
    obtain ⟨comment, rest⟩ := split
    rw [Text.dropThrough, hsplit]
    obtain ⟨comment, rfl, rfl, hclosing⟩ := Text.splitAtOnto_eq_some hsplit
    rw [List.append_assoc] at hreads
    refine hreads.blockComment (hclosing (by decide)) fun hnested => ?_
    have hflat := hflat hnested
    rw [opensFlat, hsplit] at hflat
    simpa using hflat
  next => cases hafter

theorem isPrefixOf_of_opensWithWord (hopens : opensWithWord text = true) :
    ['/', '*', '!'].isPrefixOf text = false := by
  rw [← Bool.not_eq_true]
  intro hconditional
  obtain ⟨rest, rfl⟩ := List.isPrefixOf_iff_prefix.mp hconditional
  obtain ⟨c, more, hdrop, hc, -⟩ := exists_of_opensWithWord hopens
  cases hdrop
  cases hc

/-- Where the tokens begin with `INSERT`, so does the body of a plainly opened text. -/
theorem firstWord_of_opensPlainly (hdialect : dialect ≠ .postgres)
    (hbegins : BeginsWith (Lexicon.of dialect) tokens "INSERT")
    (hreads : ReadsOn (Lexicon.of dialect) tokens text)
    (hopens : opensPlainly (Lexicon.of dialect) text = true) :
    isConditional text = false ∧ firstWord (body text) = "insert".toList := by
  unfold isConditional
  have hstatement := hbegins.beginsStatement (by decide)
  have htrim : ReadsOn (Lexicon.of dialect) tokens (Text.trimStart text) :=
    hstatement.dropWhile (fun _ => .inl) (by decide) hreads
  fun_induction body text with
  | case1 text rest hcomment ih =>
      obtain ⟨hflat, hplainly⟩ := opensPlainly_of_comment hcomment hopens
      have hlater := readsOn_of_afterComment? hstatement htrim hcomment hflat
        (by simp [returnEndsComment_eq hdialect])
      exact ih hlater hplainly (hstatement.dropWhile (fun _ => .inl) (by decide) hlater)
  | case2 text hcode =>
      have hword := opensPlainly_of_code hcode hopens
      exact ⟨isPrefixOf_of_opensWithWord hword, firstWord_of_opensWithWord hbegins htrim hword⟩

/-! ## The class -/

theorem phraseClass?_of_insert {phrase : String} (hphrase : "insert".toList <+: phrase.toList) :
    phraseClass? dialect phrase = none := by
  unfold phraseClass?
  split
  all_goals try split
  all_goals first
    | rfl
    | exact absurd hphrase (by decide)

theorem ofKeywords_of_insert {text : String} (hconditional : isConditional text.toList = false)
    (hword : firstWord (body text.toList) = "insert".toList) :
    ofKeywords dialect text = .manipulation .anySession := by
  have hleading : leadingClass? dialect text.toList = some (.manipulation .anySession) := by
    rw [leadingClass?, hword]
    cases dialect <;> rfl
  have hphrase : (words? (body text.toList)).bind (phraseOf? dialect) = none := by
    rw [Option.bind_eq_none_iff]
    intro words hwords
    by_cases hne : words = []
    · rw [hne, phraseOf?_nil]
    · obtain ⟨c, rest, more, -, -, rfl⟩ := exists_letter_of_words? hwords hne
      rw [hword]
      apply phraseClass?_of_insert
      rw [String.toList_ofList]
      cases more with
      | nil => simp [Text.joinWith]
      | cons second more => simp [Text.joinWith, List.intercalate]
  rw [ofKeywords_eq, hconditional, hphrase, hleading]
  rfl

/-! ## The role -/

/-- What appends rows begins with `INSERT`. -/
theorem beginsWith_of_treesOf {text : String} {tree : Tree} {others : List Tree}
    (htokens : tokensOf (Lexicon.of dialect) text = .ok tokens)
    (htrees : treesOf dialect text = .ok (tree :: others)) {insert : InsertTree}
    (hinsert : tree.insert = some insert) (hreplacing : insert.replacing = false) :
    BeginsWith (Lexicon.of dialect) tokens "INSERT" := by
  intro c rest hreads hc hgap
  obtain ⟨_, remaining, hsame, hlist⟩ := treesOf_eq_ok.mp htrees
  rw [htokens] at hsame
  cases hsame
  obtain ⟨previous, place, token, after, first, more, htoken, htree, hfits⟩ :=
    hreads.first_tree hc hgap hlist
  cases htree
  split at hfits
  next =>
    rw [hfits] at hinsert
    cases hinsert
  next =>
    obtain ⟨-, -, -, rfl⟩ := word_of_readToken htoken hfits.lettersOnly
    exact (hfits.of_not_replacing hinsert hreplacing).1

theorem kind_of_treesOf {text : String} {tree : Tree} {others : List Tree}
    (htrees : treesOf dialect text = .ok (tree :: others)) {insert : InsertTree}
    (hinsert : tree.insert = some insert) (hreplacing : insert.replacing = false) :
    tree.kind = .insert := by
  obtain ⟨token, -, hfits, -⟩ := exists_firstToken_of_treesOf htrees
  split at hfits
  next =>
    rw [hfits] at hinsert
    cases hinsert
  next => exact (hfits.of_not_replacing hinsert hreplacing).2

theorem exists_parsed_of_grammar {text : String} {insert : Insert}
    (hinsert : decompose? .postgres text = some insert) :
    ∃ parsed, (parse .postgres text).1 = .ok parsed ∧
      parsed.statementClass = .manipulation .anySession ∧
      parsed.toInsert? .postgres = some insert := by
  obtain ⟨kind, ignoring, into, table, name, columns, body, tail, htrees, -, -, -⟩ :=
    exists_appending_of_decompose? hinsert
  have hkind := kind_of_treesOf htrees rfl rfl
  cases hkind
  have hparsed : (parse .postgres text).1 = .ok ⟨text, .manipulation .anySession,
      some ⟨.insert, some (.appending ignoring into table name columns
        (.plain ⟨body, some insert.rows⟩ tail))⟩⟩ := by
    rw [parse, if_pos rfl, parseByGrammar, htrees]
    rfl
  rw [decompose?, htrees] at hinsert
  exact ⟨_, hparsed, rfl, hinsert⟩

theorem exists_parsed_of_keywords {text : String} {insert : Insert} (hdialect : dialect ≠ .postgres)
    (hinsert : decompose? dialect text = some insert)
    (hopens : opensPlainly (Lexicon.of dialect) text.toList = true) :
    ∃ parsed, (parse dialect text).1 = .ok parsed ∧
      parsed.statementClass = .manipulation .anySession ∧
      parsed.toInsert? dialect = some insert := by
  obtain ⟨kind, ignoring, into, table, name, columns, body, tail, htrees, -, -, -⟩ :=
    exists_appending_of_decompose? hinsert
  obtain ⟨tokens, remaining, htokens, -⟩ := treesOf_eq_ok.mp htrees
  have hbegins := beginsWith_of_treesOf htokens htrees rfl rfl
  obtain ⟨hconditional, hword⟩ :=
    firstWord_of_opensPlainly hdialect hbegins (ReadsOn.of_tokensOf htokens) hopens
  have hclass : ofKeywords dialect text = .manipulation .anySession :=
    ofKeywords_of_insert hconditional hword
  refine ⟨⟨text, .manipulation .anySession, none⟩, ?_, rfl, hinsert⟩
  rw [parse, if_neg hdialect, parseByKeywords, hclass]

/-- An insert that can be batched is batched, where the grammar tells its class or where it opens
plainly: a sink with room for buffers keeps its rows, and neither passes over its text nor sends
it. -/
theorem batched_of_decompose?
    {text : String} {insert : Insert} (hinsert : decompose? dialect text = some insert)
    (hopens : dialect = .postgres ∨ opensPlainly (Lexicon.of dialect) text.toList = true) :
    (∃ parsed, (parse dialect text).1 = .ok parsed ∧
      parsed.statementClass = .manipulation .anySession ∧
      parsed.toInsert? dialect = some insert) ∧
    ∀ {σ : Type} (destination : Destination σ) (engine : Engine σ),
      destination.dialect = dialect → 1 < destination.maxOpen →
      engine.exec destination text =
        (engine.reportAll (parse dialect text).2).buffer destination insert := by
  have hexists : ∃ parsed, (parse dialect text).1 = .ok parsed ∧
      parsed.statementClass = .manipulation .anySession ∧
      parsed.toInsert? dialect = some insert := by
    by_cases hdialect : dialect = .postgres
    · subst hdialect
      exact exists_parsed_of_grammar hinsert
    · exact exists_parsed_of_keywords hdialect hinsert (hopens.resolve_left hdialect)
  refine ⟨hexists, fun {σ} destination engine hsame hroom => ?_⟩
  subst hsame
  obtain ⟨parsed, hparsed, hclass, hrows⟩ := hexists
  have hrole : roleOf destination.dialect text = .rows insert := by
    rw [roleOf, hparsed]
    simp [Parsed.role, hclass, hrows]
  rw [Engine.exec_eq, hrole]
  dsimp only
  rw [if_neg (Nat.not_le.mpr hroom)]

theorem batched_behind_layout :
    let text := "-- a\n/* b */ ;; Insert Into t Values (1)"
    let insert : Insert := ⟨"INSERT INTO `t` ", [⟨["1"]⟩]⟩
    let destination := Rehearsal.destination .mysql 4 false
    let engine := Engine.fresh 0 (Rehearsal.fresh [] [] [])
    decompose? .mysql text = some insert ∧ opensPlainly (Lexicon.of .mysql) text.toList = true ∧
      (∃ parsed, (parse .mysql text).1 = .ok parsed ∧
        parsed.statementClass = .manipulation .anySession ∧
        parsed.toInsert? .mysql = some insert) ∧
      engine.exec destination text =
        (engine.reportAll (parse .mysql text).2).buffer destination insert := by
  intro text insert destination engine
  have hinsert : decompose? .mysql text = some insert := by decide +kernel
  have hopens : opensPlainly (Lexicon.of .mysql) text.toList = true := by decide +kernel
  obtain ⟨hparsed, hexec⟩ := batched_of_decompose? hinsert (.inr hopens)
  exact ⟨hinsert, hopens, hparsed, hexec destination engine rfl (by decide)⟩

/-- A comment behind a semicolon has the first word, and the insert is sent to every session. -/
theorem exists_decompose?_everySession :
    ∃ text insert, decompose? .mysql text = some insert ∧ isConditional text.toList = false ∧
      Script.statements .mysql (Text.utf8Bytes text) = [text] ∧
      ∃ parsed, (parse .mysql text).1 = .ok parsed ∧
        parsed.statementClass = .manipulation .everySession ∧
        parsed.toInsert? .mysql = none := by
  have hclass : ofKeywords .mysql "; /* set */ INSERT INTO t VALUES (1);" =
      .manipulation .everySession := by decide +kernel
  have hparsed : (parse .mysql "; /* set */ INSERT INTO t VALUES (1);").1 =
      .ok ⟨"; /* set */ INSERT INTO t VALUES (1);", .manipulation .everySession, none⟩ := by
    rw [parse, if_neg (by decide), parseByKeywords, hclass]
  exact ⟨_, ⟨"INSERT INTO `t` ", [⟨["1"]⟩]⟩, by decide +kernel, by decide +kernel,
    by decide +kernel, _, hparsed, rfl, rfl⟩

end SqlPipe.Classify
