import SqlPipe.Proofs.Classify.Layout

/-!
# How keywords tell a class

The class of a text by its keywords is told in one of three ways: by a comment that some servers
run, by all of its words where they are a phrase, or by the first word.  The first and the last of
them stand in front of more text.
-/

namespace SqlPipe.Classify

variable {dialect : Dialect} {text tail : List Char} {d : Char} {words : List (List Char)}

/-! ## The three ways -/

def isConditional (text : List Char) : Bool :=
  ['/', '*', '!'].isPrefixOf (body text)

def phraseOf? (dialect : Dialect) (words : List (List Char)) : Option StatementClass :=
  phraseClass? dialect (String.ofList (Text.joinWith [' '] words))

def leadingClass? (dialect : Dialect) (text : List Char) : Option StatementClass :=
  let word := String.ofList (firstWord (body text))
  dialectClass? dialect word <|> sharedClass? word

theorem leadingClass?_eq_none_of_no_word (hword : firstWord (body text) = []) :
    leadingClass? dialect text = none := by
  unfold leadingClass?
  rw [hword]
  cases dialect <;> rfl

theorem phraseOf?_nil : phraseOf? dialect [] = none := by
  cases dialect <;> rfl

theorem ofKeywords_eq (dialect : Dialect) (text : String) :
    ofKeywords dialect text =
      if isConditional text.toList then .manipulation .everySession
      else
        ((words? (body text.toList)).bind (phraseOf? dialect) <|>
          leadingClass? dialect text.toList).getD .unknown := by
  unfold ofKeywords
  split
  next hbody =>
    have hwords : words? [] = some [] := wordsOnto_of_blank rfl
    rw [leadingClass?_eq_none_of_no_word (by rw [hbody]; rfl), isConditional, hbody, hwords,
      Option.bind_some, phraseOf?_nil]
    rfl
  next rest hbody =>
    rw [isConditional, hbody]
    rfl
  next hconditional =>
    rw [if_neg]
    · rfl
    · intro hbegins
      obtain ⟨rest, hrest⟩ := List.isPrefixOf_iff_prefix.mp hbegins
      exact hconditional rest hrest.symm

/-! ## Unknown texts -/

theorem phraseClass?_ne_unknown (phrase : String) :
    phraseClass? dialect phrase ≠ some .unknown := by
  unfold phraseClass?
  split
  all_goals try split
  all_goals nofun

theorem dialectClass?_ne_unknown (word : String) :
    dialectClass? dialect word ≠ some .unknown := by
  unfold dialectClass?
  split
  all_goals nofun

theorem sharedClass?_ne_unknown (word : String) : sharedClass? word ≠ some .unknown := by
  unfold sharedClass?
  split
  all_goals nofun

theorem leadingClass?_ne_unknown : leadingClass? dialect text ≠ some .unknown := by
  intro hunknown
  rw [leadingClass?, Option.orElse_eq_orElse, Option.orElse_eq_or] at hunknown
  rcases Option.or_eq_some_iff.mp hunknown with hword | ⟨-, hword⟩
  · exact dialectClass?_ne_unknown _ hword
  · exact sharedClass?_ne_unknown _ hword

/-- A text is of unknown class if none of the three ways tells one. -/
theorem ofKeywords_eq_unknown_iff {text : String} :
    ofKeywords dialect text = .unknown ↔
      isConditional text.toList = false ∧
      (words? (body text.toList)).bind (phraseOf? dialect) = none ∧
      leadingClass? dialect text.toList = none := by
  rw [ofKeywords_eq]
  cases isConditional text.toList with
  | true => simp
  | false =>
      cases hphrase : (words? (body text.toList)).bind (phraseOf? dialect) with
      | some statementClass =>
          have hne : statementClass ≠ .unknown := by
            rintro rfl
            obtain ⟨words, -, hwords⟩ := Option.bind_eq_some_iff.mp hphrase
            exact phraseClass?_ne_unknown _ hwords
          simp [hne]
      | none =>
          cases hleading : leadingClass? dialect text.toList with
          | none => simp
          | some statementClass =>
              have hne : statementClass ≠ .unknown := by
                rintro rfl
                exact leadingClass?_ne_unknown hleading
              simp [hne]

theorem body_ne_nil_of_known {text : String} (hknown : ofKeywords dialect text ≠ .unknown) :
    body text.toList ≠ [] := by
  intro hbody
  have hwords : words? [] = some [] := wordsOnto_of_blank rfl
  refine hknown (ofKeywords_eq_unknown_iff.mpr ⟨?_, ?_, ?_⟩)
  · rw [isConditional, hbody]
    rfl
  · rw [hbody, hwords, Option.bind_some, phraseOf?_nil]
  · exact leadingClass?_eq_none_of_no_word (by rw [hbody]; rfl)

theorem firstWord_ne_nil_of_known
    {text : String} (hknown : ofKeywords dialect text ≠ .unknown)
    (hconditional : isConditional text.toList = false) : firstWord (body text.toList) ≠ [] := by
  intro hword
  refine hknown (ofKeywords_eq_unknown_iff.mpr ⟨hconditional, ?_, ?_⟩)
  · rw [Option.bind_eq_none_iff]
    intro words hwords
    by_cases hne : words = []
    · rw [hne, phraseOf?_nil]
    · obtain ⟨c, rest, more, htrim, hc, -⟩ := exists_letter_of_words? hwords hne
      rw [firstWord_of_letter htrim hc] at hword
      cases hword
  · exact leadingClass?_eq_none_of_no_word hword

/-! ## In front of more text -/

theorem leadingClass?_append (hword : firstWord (body text) ≠ []) (tail : List Char) :
    leadingClass? dialect (text ++ ';' :: tail) = leadingClass? dialect text := by
  have hbody : body text ≠ [] := by
    intro hnil
    rw [hnil] at hword
    exact hword rfl
  rw [leadingClass?, leadingClass?, body_append hbody, firstWord_append hword]

/-- A character that is no sign of comments begins no comment that some servers run. -/
theorem isPrefixOf_concat (hd : d ∉ commentSigns) (code : List Char) :
    ['/', '*', '!'].isPrefixOf (code ++ [d]) = ['/', '*', '!'].isPrefixOf code := by
  simp only [commentSigns, List.mem_cons, List.not_mem_nil, or_false, not_or] at hd
  obtain ⟨-, -, -, -, hmark⟩ := hd
  rcases code with - | ⟨c, - | ⟨e, - | ⟨f, rest⟩⟩⟩
  · simp [List.isPrefixOf]
  · simp [List.isPrefixOf]
  · simp [List.isPrefixOf, Ne.symm hmark]
  · rfl

theorem Uncommented.isConditional (huncommented : Uncommented text) :
    isConditional text = false := by
  rw [← Bool.not_eq_true]
  intro hconditional
  obtain ⟨rest, hrest⟩ := List.isPrefixOf_iff_prefix.mp hconditional
  have hblock : ['/', '*'] <+: body text := ⟨'!' :: rest, hrest⟩
  exact huncommented.block (hblock.isInfix.trans (body_suffix text).isInfix)

theorem Uncommented.isConditional_append
    (huncommented : Uncommented text) (hbody : body text ≠ []) (tail : List Char) :
    Classify.isConditional (text ++ ';' :: tail) = false := by
  have hplain := huncommented.isConditional
  rw [Classify.isConditional] at hplain
  rw [Classify.isConditional, body_append hbody]
  generalize body text = code at hplain
  rcases code with - | ⟨c, - | ⟨d, - | ⟨e, rest⟩⟩⟩
  · rfl
  · simp [List.isPrefixOf]
  · simp [List.isPrefixOf]
  · simpa [List.isPrefixOf] using hplain

variable {first joined : String}

/-- A text whose first word tells its class stays known in front of more text. -/
theorem ofKeywords_ne_unknown_of_leading
    (hjoined : joined.toList = first.toList ++ ';' :: tail)
    (hleading : leadingClass? dialect first.toList ≠ none) :
    ofKeywords dialect joined ≠ .unknown := by
  have hword : firstWord (body first.toList) ≠ [] := fun hnil =>
    hleading (leadingClass?_eq_none_of_no_word hnil)
  rw [Ne, ofKeywords_eq_unknown_iff, hjoined, leadingClass?_append hword]
  exact fun hunknown => hleading hunknown.2.2

/-- White space or a semicolon at the end does not change the class. -/
theorem ofKeywords_concat
    (hjoined : joined.toList = first.toList ++ [d]) (hlayout : Text.isSpace d = true ∨ d = ';') :
    ofKeywords dialect joined = ofKeywords dialect first := by
  have hword := firstWord_concat (isAlphabetic_of_layout hlayout) (body first.toList)
  have hwords : words? (body first.toList ++ [d]) = words? (body first.toList) :=
    wordsOnto_concat hlayout _
  have hmark : ['/', '*', '!'].isPrefixOf (body first.toList ++ [d]) =
      ['/', '*', '!'].isPrefixOf (body first.toList) :=
    isPrefixOf_concat (not_mem_commentSigns hlayout) _
  rw [ofKeywords_eq, ofKeywords_eq, hjoined, isConditional, isConditional, leadingClass?,
    leadingClass?]
  rcases body_concat hlayout first.toList with hbody | hbody
  · rw [hbody, hmark, hwords, hword]
  · rw [hbody]

theorem ofKeywords_concat_ne_unknown
    (hjoined : joined.toList = first.toList ++ [';'])
    (hknown : ofKeywords dialect first ≠ .unknown) : ofKeywords dialect joined ≠ .unknown := by
  rwa [ofKeywords_concat hjoined (.inr rfl)]

/-- A text that only a phrase tells is unknown in front of more than layout. -/
theorem ofKeywords_eq_unknown_of_phrase
    (hjoined : joined.toList = first.toList ++ ';' :: tail)
    (huncommented : Uncommented first.toList) (hhash : '#' ∉ first.toList)
    (hknown : ofKeywords dialect first ≠ .unknown)
    (hleading : leadingClass? dialect first.toList = none) (htail : isTrailer tail = false) :
    ofKeywords dialect joined = .unknown := by
  have hbody := body_ne_nil_of_known hknown
  have hword := firstWord_ne_nil_of_known hknown huncommented.isConditional
  have hinside := huncommented.of_infix (body_suffix first.toList).isInfix
  have hfew : '#' ∉ body first.toList := fun hmem => hhash ((body_suffix _).subset hmem)
  rw [ofKeywords_eq_unknown_iff, hjoined, leadingClass?_append hword, body_append hbody, words?,
    wordsOnto_append_eq_none hinside hfew htail]
  exact ⟨huncommented.isConditional_append hbody tail, rfl, hleading⟩

end SqlPipe.Classify
