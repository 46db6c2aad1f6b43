import SqlPipe.Proofs.Classify.Keywords
import SqlPipe.Proofs.Engine.Solo
import SqlPipe.Proofs.Sql.Openings

/-!
# How the grammar tells a class

The grammar tells a class by the first word of a text, or by the parenthesis that it opens with, and
leaves the other texts to the keywords.  More text behind a semicolon changes neither, so that a
text that PostgreSQL knows is not passed over in front of more text.
-/

namespace SqlPipe.Classify

open Sql

/-! ## What a text opens with -/

/-- The first tree is what the grammar makes of a text that opens with the characters. -/
inductive OpensWith (lexicon : Lexicon) (c : Char) (more : List Char) (tree : Tree) : Prop
  | parenthesis (hc : c = '(') (htree : tree = .ofClass (.manipulation .anySession))
  | word (hfits : tree.FitsWord (keywordOf (c :: more.takeWhile lexicon.continuesName)))

namespace OpensWith

variable {lexicon : Lexicon} {c : Char} {more : List Char} {tree other : Tree}

theorem isSpace (hopens : OpensWith lexicon c more tree) : Text.isSpace c = false := by
  cases hopens with
  | parenthesis hc => rw [hc]; rfl
  | word hfits => exact isSpace_of_lettersOnly hfits.lettersOnly

theorem ne (hopens : OpensWith lexicon c more tree) {d : Char}
    (hd : d ≠ '(' ∧ d.isAlpha = false ∧ d.toNat < 128) : c ≠ d := by
  cases hopens with
  | parenthesis hc => rw [hc]; exact hd.1.symm
  | word hfits => exact (wordHead_of_lettersOnly hfits.lettersOnly).ne hd.2

theorem afterComment? (hopens : OpensWith lexicon c more tree) (rest : List Char) :
    afterComment? (c :: rest) = none := by
  have hdash : c ≠ '-' := hopens.ne (by decide)
  have hhash : c ≠ '#' := hopens.ne (by decide)
  have hslash : c ≠ '/' := hopens.ne (by decide)
  simp [Classify.afterComment?, hdash, hhash, hslash]

end OpensWith

theorem classOfTree?_of_fitsWord {word : String} {tree : Tree} (hfits : tree.FitsWord word) :
    classOfTree? tree = classOfWord? word := by
  cases hfits with
  | insert | replace => rfl
  | ofClass hclass => rw [hclass]; rfl
  | byKeywords hclass => rw [hclass]; rfl

theorem beginsPhrase_of_fitsWord {word : String} {tree : Tree} (hfits : tree.FitsWord word)
    (hclass : classOfTree? tree = none) : beginsPhrase word = false := by
  cases hfits with
  | insert | replace | ofClass => cases hclass
  | byKeywords _ _ hphrase => exact hphrase

theorem classOfWord?_ne_unknown (word : String) : classOfWord? word ≠ some .unknown := by
  unfold classOfWord?
  split
  all_goals nofun

namespace OpensWith

variable {lexicon : Lexicon} {c : Char} {more : List Char} {tree other : Tree}

theorem classOfTree?_ne_unknown (hopens : OpensWith lexicon c more tree) :
    classOfTree? tree ≠ some .unknown := by
  cases hopens with
  | parenthesis hc htree => rw [htree]; nofun
  | word hfits =>
      rw [classOfTree?_of_fitsWord hfits]
      exact classOfWord?_ne_unknown _

/-- Texts that open alike have the same class, where the grammar settles it. -/
theorem classOfTree?_eq (hopens : OpensWith lexicon c more tree)
    (hother : OpensWith lexicon c more other) : classOfTree? tree = classOfTree? other := by
  cases hopens with
  | parenthesis hc htree =>
      cases hother with
      | parenthesis _ hsame => rw [htree, hsame]
      | word hfits =>
          exact absurd hc ((wordHead_of_lettersOnly hfits.lettersOnly).ne (by decide))
  | word hfits =>
      cases hother with
      | parenthesis hc =>
          exact absurd hc ((wordHead_of_lettersOnly hfits.lettersOnly).ne (by decide))
      | word hsame => rw [classOfTree?_of_fitsWord hfits, classOfTree?_of_fitsWord hsame]

end OpensWith

/-! ## By the grammar of PostgreSQL -/

variable {c : Char} {more behind : List Char}

/-- A semicolon ends the text, or stands where it goes on. -/
def EndsStatement (behind : List Char) : Prop :=
  ∀ d ∈ behind.head?, d = ';'

theorem head?_append_ne
    (hbehind : EndsStatement behind) {d : Char} (hpair : ¬ [c, d] <:+: c :: more) (hd : d ≠ ';') :
    (more ++ behind).head? ≠ some d := by
  intro hhead
  cases more with
  | nil => exact hd (hbehind d hhead)
  | cons e more =>
      obtain rfl : e = d := Option.some.inj hhead
      exact hpair (List.prefix_append [c, e] more).isInfix

theorem lead_of_passes {lexicon : Lexicon} {text : List Char} :
    ∀ d ∈ text.takeWhile lexicon.passes, Text.isSpace d = true ∨ d = ';' := by
  intro d hd
  exact (Lexicon.passes_iff.mp (List.mem_takeWhile_imp hd)).imp And.left id

theorem readGap?_of_uncommented
    (huncommented : Uncommented (c :: more)) (hbehind : EndsStatement behind)
    (hpasses : (Lexicon.of .postgres).passes c = false) (place : Place) :
    readGap? (Lexicon.of .postgres) ⟨c :: (more ++ behind), place⟩ = none := by
  have hspace : (Text.isSpace c && !(Lexicon.of .postgres).beginsName c) = false :=
    (Bool.or_eq_false_iff.mp hpasses).1
  have hhash : (Lexicon.of .postgres).hashComments = false := rfl
  unfold readGap?
  split
  iterate 3
    next hrest =>
      obtain ⟨rfl, -⟩ := List.cons.inj hrest
      cases hpasses
  next hrest =>
    obtain ⟨rfl, hmore⟩ := List.cons.inj hrest
    exact absurd (by rw [hmore]; rfl) (head?_append_ne hbehind huncommented.dashes (by decide))
  next hrest =>
    obtain ⟨rfl, hmore⟩ := List.cons.inj hrest
    exact absurd (by rw [hmore]; rfl) (head?_append_ne hbehind huncommented.block (by decide))
  next hrest =>
    obtain ⟨rfl, -⟩ := List.cons.inj hrest
    have hblank : c ≠ ' ' := by rintro rfl; cases hpasses
    have htab : c ≠ '\t' := by rintro rfl; cases hpasses
    simp [hblank, htab, hhash, hspace]
  next => rfl

theorem opensWith_of_treesOf
    {text : String} {trees : List Tree} (htrees : treesOf .postgres text = .ok trees)
    (hpassed : text.toList.dropWhile (Lexicon.of .postgres).passes = c :: (more ++ behind))
    (huncommented : Uncommented (c :: more)) (hbehind : EndsStatement behind) :
    ∃ tree others, trees = tree :: others ∧ OpensWith (Lexicon.of .postgres) c more tree := by
  have hstops := List.head?_dropWhile_not (Lexicon.of .postgres).passes text.toList
  rw [hpassed] at hstops
  have hgap := readGap?_of_uncommented huncommented hbehind (by simpa using hstops)
  obtain ⟨previous, place, token, after, tree, others, htoken, rfl, hfits⟩ :=
    first_tree_of_treesOf htrees hpassed hgap
  refine ⟨tree, others, rfl, ?_⟩
  split at hfits
  next hparenthesis =>
    exact .parenthesis (sign_of_readToken htoken (by decide) hparenthesis) hfits
  next =>
    obtain ⟨-, -, -, rfl⟩ := word_of_readToken htoken hfits.lettersOnly
    have hsame : (more ++ behind).takeWhile (Lexicon.of .postgres).continuesName =
        more.takeWhile (Lexicon.of .postgres).continuesName := by
      cases behind with
      | nil => rw [List.append_nil]
      | cons d tail =>
          obtain rfl : d = ';' := hbehind d rfl
          exact Text.takeWhile_append_of_stop (by decide) more tail
    rw [hsame] at hfits
    exact .word hfits

/-! ## Phrases -/

theorem upperLetter_of_toLower {d : Char} (hlower : d.toLower.isLower = true) :
    upperLetter d = [d.toLower.toUpper] := by
  have hascii : d.toNat < 128 := by
    by_contra hbeyond
    have hsame : d.toLower = d := by
      unfold Char.toLower
      split
      next hupper =>
        have hle : d.toNat ≤ 90 := by simpa [UInt32.le_iff_toNat_le] using hupper.2
        omega
      next => rfl
    have hcode := isLower_iff.mp (hsame ▸ hlower)
    omega
  have hall : ∀ n < 128, (Char.ofNat n).toLower.isLower = true →
      upperLetter (Char.ofNat n) = [(Char.ofNat n).toLower.toUpper] := by decide
  rw [← Char.ofNat_toNat d] at hlower ⊢
  exact hall d.toNat hascii hlower

/-- The Kelvin sign aside, a letter and its folded form have the same upper case. -/
theorem upperLetter_of_foldLetter {d e : Char} (hfold : foldLetter d = e)
    (hlower : e.isLower = true) (hkelvin : e ≠ 'k') : upperLetter d = [e.toUpper] := by
  have hd : d ≠ '\u212a' := by
    rintro rfl
    exact hkelvin hfold.symm
  have hfold : d.toLower = e := by simpa [foldLetter, hd] using hfold
  rw [← hfold] at hlower ⊢
  exact upperLetter_of_toLower hlower

theorem prefix_flatMap_upperLetter {lead letters : List Char}
    (hlead : ∀ e ∈ lead, e.isLower = true ∧ e ≠ 'k')
    (hbegins : lead <+: letters.map foldLetter) :
    lead.map Char.toUpper <+: letters.flatMap upperLetter := by
  induction lead generalizing letters with
  | nil => exact List.nil_prefix
  | cons e lead ih =>
      cases letters with
      | nil => exact absurd (List.prefix_nil.mp hbegins) (List.cons_ne_nil _ _)
      | cons d letters =>
          obtain ⟨he, hlead⟩ := List.forall_mem_cons.mp hlead
          rw [List.map_cons, List.cons_prefix_cons] at hbegins
          rw [List.map_cons, List.flatMap_cons, upperLetter_of_foldLetter hbegins.1.symm he.1 he.2,
            List.singleton_append, List.cons_prefix_cons]
          exact ⟨rfl, ih hlead hbegins.2⟩

theorem phrase_of_postgres {phrase : String} {statementClass : StatementClass}
    (hphrase : phraseClass? .postgres phrase = some statementClass) :
    phrase ∈ ["begin", "start transaction", "commit", "rollback"] := by
  unfold phraseClass? at hphrase
  split at hphrase
  case h_5 => cases hphrase
  all_goals decide

theorem begins_start_of_append {word more : List Char}
    (hphrase : word ++ ' ' :: more = "start transaction".toList) : "start".toList <+: word := by
  have hstart : "start".toList <+: word ++ ' ' :: more := by rw [hphrase]; decide
  rcases List.prefix_or_prefix_of_prefix hstart (List.prefix_append _ _) with hlonger | hshorter
  · exact hlonger
  · obtain ⟨rest, hrest⟩ := hshorter
    cases rest with
    | nil => exact ⟨[], by rw [← hrest, List.append_nil, List.append_nil]⟩
    | cons d rest =>
        have hwhole : word ++ ' ' :: more = word ++ (d :: rest ++ " transaction".toList) := by
          rw [hphrase, ← List.append_assoc, hrest]
          rfl
        obtain ⟨rfl, -⟩ := List.cons.inj (List.append_cancel_left hwhole)
        have hblank : ' ' ∈ "start".toList := by
          rw [← hrest]
          exact List.mem_append_right word List.mem_cons_self
        exact absurd hblank (by decide)

/-- A phrase that PostgreSQL knows begins with a word of its own, or with one that is known. -/
theorem exists_lead_of_phraseOf? {word : List Char} {words : List (List Char)}
    {statementClass : StatementClass}
    (hphrase : phraseOf? .postgres (word :: words) = some statementClass)
    (hshared : sharedClass? (String.ofList word) = none) :
    ∃ lead ∈ ["begin", "start", "commit"], lead.toList <+: word := by
  have hmem := phrase_of_postgres hphrase
  simp only [List.mem_cons, List.not_mem_nil, or_false, ← String.toList_inj,
    String.toList_ofList] at hmem
  cases words with
  | nil =>
      rw [Text.joinWith, List.intercalate_singleton] at hmem
      rcases hmem with rfl | rfl | rfl | rfl
      · exact ⟨"begin", by decide, List.prefix_refl _⟩
      · exact ⟨"start", by decide, by decide⟩
      · exact ⟨"commit", by decide, List.prefix_refl _⟩
      · cases hshared
  | cons other words =>
      rw [Text.joinWith, List.intercalate_cons_cons, List.append_assoc, List.singleton_append]
        at hmem
      have hblank (more : List Char) : ' ' ∈ word ++ ' ' :: more :=
        List.mem_append_right word List.mem_cons_self
      rcases hmem with hword | hword | hword | hword
      · exact absurd (hword ▸ hblank _) (by decide)
      · exact ⟨"start", by decide, begins_start_of_append hword⟩
      · exact absurd (hword ▸ hblank _) (by decide)
      · exact absurd (hword ▸ hblank _) (by decide)

/-- The keyword of a word whose letters are those of a phrase begins the phrase. -/
theorem beginsPhrase_of_letters {letters others : List Char} {lead : String}
    (hmem : lead ∈ ["begin", "start", "commit"]) (hbegins : lead.toList <+: letters.map foldLetter)
    (hothers : letters <+: others) : beginsPhrase (keywordOf others) = true := by
  have hlead : ∀ lead ∈ ["begin", "start", "commit"],
      lead.toList.all (fun e => e.isLower && e != 'k') = true ∧
        String.ofList (lead.toList.map Char.toUpper) ∈ ["BEGIN", "START", "COMMIT"] := by decide
  obtain ⟨hlower, hupper⟩ := hlead lead hmem
  simp only [List.all_eq_true, Bool.and_eq_true, bne_iff_ne] at hlower
  obtain ⟨behind, rfl⟩ := hothers
  have hkeyword := prefix_flatMap_upperLetter hlower hbegins
  rw [beginsPhrase, List.any_eq_true]
  refine ⟨_, hupper, List.isPrefixOf_iff_prefix.mpr ?_⟩
  rw [String.toList_ofList, keywordOf, String.toList_ofList, List.flatMap_append]
  exact hkeyword.trans (List.prefix_append _ _)

/-! ## In front of more text -/

/-- What PostgreSQL knows is told by the grammar or by the keywords. -/
theorem exists_of_isKnown {text : String} (hknown : isKnown .postgres text = true) :
    (∃ tree others, treesOf .postgres text = .ok (tree :: others) ∧ classOfTree? tree ≠ none) ∨
      ofKeywords .postgres text ≠ .unknown ∧ treesOf .postgres text ≠ .ok [] := by
  unfold isKnown parse at hknown
  rw [if_pos rfl] at hknown
  unfold parseByGrammar at hknown
  split at hknown
  next parsed hparsed =>
    split at hparsed
    next => cases hparsed; cases hknown
    next tree others htrees =>
      cases hparsed
      cases hclass : classOfTree? tree with
      | some statementClass => exact .inl ⟨tree, others, htrees, by rw [hclass]; nofun⟩
      | none =>
          rw [hclass] at hknown
          exact .inr ⟨by simpa using hknown, by rw [htrees]; nofun⟩
    next error htrees =>
      dsimp only at hparsed
      split at hparsed
      · cases hparsed
      · cases hparsed
        exact .inr ⟨by simpa using hknown, by rw [htrees]; nofun⟩
  next => cases hknown

theorem roleOf_eq_skipped_iff {dialect : Dialect} {text : String} :
    roleOf dialect text = .skipped ↔
      ∃ parsed, (parse dialect text).1 = .ok parsed ∧ parsed.statementClass = .unknown := by
  unfold roleOf Parsed.role
  cases (parse dialect text).1 with
  | error failure => simp
  | ok parsed =>
      by_cases hclass : parsed.statementClass = .unknown
      · simp [hclass]
      · cases htree : parsed.toInsert? dialect <;> simp [hclass, htree]

/-- What PostgreSQL passes over is told neither by the grammar nor by the keywords. -/
theorem of_roleOf_skipped {text : String} (hskipped : roleOf .postgres text = .skipped) :
    treesOf .postgres text = .ok [] ∨
      (∃ tree others, treesOf .postgres text = .ok (tree :: others) ∧
        (classOfTree? tree).getD (ofKeywords .postgres text) = .unknown) ∨
      ofKeywords .postgres text = .unknown ∧ isTrailer (body text.toList) = true := by
  obtain ⟨parsed, hparsed, hclass⟩ := roleOf_eq_skipped_iff.mp hskipped
  unfold parse at hparsed
  rw [if_pos rfl] at hparsed
  unfold parseByGrammar at hparsed
  split at hparsed
  next htrees => exact .inl htrees
  next tree others htrees =>
    cases hparsed
    exact .inr (.inl ⟨tree, others, htrees, hclass⟩)
  next =>
    dsimp only at hparsed
    split at hparsed
    · cases hparsed
    next hblank =>
      cases hparsed
      have hblank : ofKeywords .postgres text = .unknown → isTrailer (body text.toList) = true := by
        simpa [isBlank] using hblank
      exact .inr (.inr ⟨hclass, hblank hclass⟩)

section

variable {first joined : String} {tail : List Char}
  (hjoined : joined.toList = first.toList ++ ';' :: tail)
  (huncommented : Uncommented first.toList)

include huncommented

/-- A text that PostgreSQL knows is not only white space and semicolons. -/
theorem dropWhile_ne_nil_of_isKnown (hknown : isKnown .postgres first = true) :
    first.toList.dropWhile (Lexicon.of .postgres).passes ≠ [] := by
  intro hpassed
  rcases exists_of_isKnown hknown with ⟨tree, others, htrees, -⟩ | ⟨hkeywords, -⟩
  · cases no_trees_of_treesOf htrees hpassed
  · refine firstWord_ne_nil_of_known hkeywords huncommented.isConditional ?_
    apply firstWord_body_of_layout
    rw [List.dropWhile_eq_nil_iff] at hpassed
    exact fun d hd => (Lexicon.passes_iff.mp (hpassed d hd)).imp And.left id

include hjoined

/-- A text that the keywords know only by a phrase opens with the phrase. -/
theorem opens_phrase
    (hknown : ofKeywords .postgres first ≠ .unknown)
    (hunknown : ofKeywords .postgres joined = .unknown) :
    ∃ c rest, Text.trimStart (body first.toList) = c :: rest ∧ Text.isAlphabetic c = true ∧
      ∃ lead ∈ ["begin", "start", "commit"],
        lead.toList <+: (c :: rest.takeWhile Text.isAlphabetic).map foldLetter := by
  have hleading : leadingClass? .postgres first.toList = none := by
    by_contra hleading
    exact ofKeywords_ne_unknown_of_leading hjoined hleading hunknown
  have hphrase : (words? (body first.toList)).bind (phraseOf? .postgres) ≠ none := fun hnone =>
    hknown (ofKeywords_eq_unknown_iff.mpr ⟨huncommented.isConditional, hnone, hleading⟩)
  obtain ⟨statementClass, hclass⟩ := Option.ne_none_iff_exists'.mp hphrase
  obtain ⟨words, hwords, hclass⟩ := Option.bind_eq_some_iff.mp hclass
  have hne : words ≠ [] := by
    rintro rfl
    cases hclass
  obtain ⟨c, rest, more, htrim, hc, rfl⟩ := exists_letter_of_words? hwords hne
  have hshared : sharedClass? (String.ofList (firstWord (body first.toList))) = none := by
    rw [leadingClass?, Option.orElse_eq_orElse, Option.orElse_eq_or] at hleading
    exact (Option.or_eq_none_iff.mp hleading).2
  refine ⟨c, rest, htrim, hc, ?_⟩
  rw [← firstWord_of_letter htrim hc]
  exact exists_lead_of_phraseOf? hclass hshared

/-- Where the grammar leaves a text to the keywords, they do not know it by a phrase alone. -/
theorem ofKeywords_ne_unknown_of_opensWith
    {c : Char} {more : List Char} {tree : Tree}
    (hpassed : first.toList.dropWhile (Lexicon.of .postgres).passes = c :: more)
    (hopens : OpensWith (Lexicon.of .postgres) c more tree) (hclass : classOfTree? tree = none)
    (hknown : ofKeywords .postgres first ≠ .unknown) : ofKeywords .postgres joined ≠ .unknown := by
  intro hunknown
  obtain ⟨d, rest, htrim, hd, lead, hmem, hlead⟩ :=
    opens_phrase hjoined huncommented hknown hunknown
  rw [← List.takeWhile_append_dropWhile (p := (Lexicon.of .postgres).passes) (l := first.toList),
    hpassed] at htrim
  rcases body_of_lead lead_of_passes hopens.isSpace (hopens.afterComment? more) with
    hbody | ⟨behind, hbody⟩
  · rw [hbody, trimStart_of_not_isSpace hopens.isSpace] at htrim
    cases htrim
    cases hopens with
    | parenthesis _ htree => rw [htree] at hclass; cases hclass
    | word hfits =>
        have hcontinues (e : Char) (he : Text.isAlphabetic e = true) :
            (Lexicon.of .postgres).continuesName e = true := by simp [Lexicon.of, he]
        have hletters := Text.takeWhile_prefix_takeWhile hcontinues more
        have hphrase := beginsPhrase_of_letters hmem hlead
          (List.cons_prefix_cons.mpr ⟨rfl, hletters⟩)
        rw [beginsPhrase_of_fitsWord hfits hclass] at hphrase
        cases hphrase
  · rw [hbody, trimStart_semicolon] at htrim
    cases htrim
    cases hd

/-- A text that PostgreSQL knows is not passed over in front of more text. -/
theorem roleOf_ne_skipped_of_postgres (hknown : isKnown .postgres first = true) :
    roleOf .postgres joined ≠ .skipped := by
  obtain ⟨c, more, hpassed⟩ :=
    List.exists_cons_of_ne_nil (dropWhile_ne_nil_of_isKnown huncommented hknown)
  have hlonger : joined.toList.dropWhile (Lexicon.of .postgres).passes =
      c :: (more ++ ';' :: tail) := by
    rw [hjoined, List.dropWhile_append, hpassed]
    rfl
  have hrest : Uncommented (c :: more) :=
    huncommented.of_infix (hpassed ▸ (List.dropWhile_suffix _).isInfix)
  have hends : EndsStatement (';' :: tail) := by simp [EndsStatement]
  -- Where the grammar reads the text alone as well, it opens in the same way.
  have halone {trees : List Tree} (htrees : treesOf .postgres first = .ok trees) :
      ∃ tree others, trees = tree :: others ∧ OpensWith (Lexicon.of .postgres) c more tree :=
    opensWith_of_treesOf htrees (hpassed.trans (by rw [List.append_nil])) hrest
      (by simp [EndsStatement])
  intro hskipped
  rcases of_roleOf_skipped hskipped with hnone | ⟨tree, others, htrees, hclass⟩ | ⟨hunknown, hblank⟩
  · obtain ⟨tree, others, hsome, -⟩ := opensWith_of_treesOf hnone hlonger hrest hends
    cases hsome
  · obtain ⟨tree, others, htree, hopens⟩ := opensWith_of_treesOf htrees hlonger hrest hends
    cases htree
    cases hsettled : classOfTree? tree with
    | some statementClass =>
        rw [hsettled, Option.getD_some] at hclass
        exact hopens.classOfTree?_ne_unknown (hclass ▸ hsettled)
    | none =>
        rw [hsettled, Option.getD_none] at hclass
        rcases exists_of_isKnown hknown with ⟨other, _, hother, hne⟩ | ⟨hkeywords, -⟩
        · obtain ⟨_, _, hsame, hopensAlone⟩ := halone hother
          cases hsame
          exact hne (hopensAlone.classOfTree?_eq hopens ▸ hsettled)
        · exact ofKeywords_ne_unknown_of_opensWith hjoined huncommented hpassed hopens hsettled
            hkeywords hclass
  · rcases exists_of_isKnown hknown with ⟨other, _, hother, hne⟩ | ⟨hkeywords, -⟩
    · obtain ⟨_, _, -, hopens⟩ := halone hother
      have htext : joined.toList =
          first.toList.takeWhile (Lexicon.of .postgres).passes ++ c :: (more ++ ';' :: tail) := by
        rw [hjoined, ← List.cons_append, ← hpassed, ← List.append_assoc,
          List.takeWhile_append_dropWhile]
      rw [htext, isTrailer_body_of_lead lead_of_passes hopens.isSpace (hopens.afterComment? _)
        (hopens.ne (by decide))] at hblank
      cases hblank
    · obtain ⟨d, rest, htrim, hd, -⟩ := opens_phrase hjoined huncommented hkeywords hunknown
      have hbody := body_ne_nil_of_known hkeywords
      have hlonger := trimStart_append (htrim ▸ List.cons_ne_nil d rest) (';' :: tail)
      rw [htrim, List.cons_append, ← body_append hbody, ← hjoined] at hlonger
      rw [isTrailer_of_letter hlonger hd] at hblank
      cases hblank

end

end SqlPipe.Classify
