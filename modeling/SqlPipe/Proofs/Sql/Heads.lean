import SqlPipe.Proofs.Sql.Lexing

/-!
# What is read at a character

Words of letters are read in one way only, and so are the semicolons and parentheses that a
statement may begin with.  Every other token stands aside: it is none of these, whatever it is.
-/

namespace SqlPipe.Sql

variable {lexicon : Lexicon} {dialect : Dialect} {previous : Previous}

/-! ## What is not a word -/

/-- The token is no word of letters, and it is a semicolon or an opening parenthesis only where the
character is one. -/
structure Token.Aside (c : Char) (token : Token) : Prop where
  keyword : lettersOnly token.keyword = false
  symbol : ∀ sign ∈ [';', '('], token = .symbol (String.singleton sign) → c = sign

/-- Whatever is read stands aside. -/
def Reading.Aside (c : Char) (reading : Reading) : Prop :=
  ∀ ⦃token after⦄, reading = .ok (token, after) → token.Aside c

variable {c : Char}

theorem aside_error (failure : SyntaxError) : Reading.Aside c (.error failure) :=
  fun _ _ h => nomatch h

theorem aside_ok {token : Token} {after : Cursor} (htoken : token.Aside c) :
    Reading.Aside c (.ok (token, after)) := by
  intro other rest h
  cases h
  exact htoken

theorem aside_of_ne {token : Token} (hkeyword : lettersOnly token.keyword = false)
    (hsymbol : ∀ text, token ≠ .symbol text) : token.Aside c where
  keyword := hkeyword
  symbol _ _ hsame := absurd hsame (hsymbol _)

theorem aside_literal (kind : Literal) (inside : String) : (Token.literal kind inside).Aside c :=
  aside_of_ne rfl (by simp)

theorem aside_symbol {text : String}
    (htext : text ∉ [';', '('].map String.singleton) : (Token.symbol text).Aside c where
  keyword := rfl
  symbol sign hsign hsame := by
    rw [Token.symbol.inj hsame] at htext
    exact absurd (List.mem_map_of_mem hsign) htext

theorem aside_readLiteral (kind : Literal) (quote : Char) (backslash : Bool) (cursor : Cursor) :
    Reading.Aside c (readLiteral kind quote backslash cursor) := by
  unfold readLiteral
  split
  · exact aside_ok (aside_literal _ _)
  · exact aside_error _

theorem aside_readRaw (once thrice : Literal) (quote : Char) (cursor : Cursor) :
    Reading.Aside c (readRaw once thrice quote cursor) := by
  unfold readRaw
  extract_lets unterminated
  split
  · split
    · exact aside_ok (aside_literal _ _)
    · exact aside_error _
  · split
    · exact aside_ok (aside_literal _ _)
    · exact aside_readLiteral _ _ _ _

theorem aside_readAnnounced? {cursor : Cursor} {reading : Reading}
    (hreading : readAnnounced? lexicon cursor = some reading) : reading.Aside c := by
  unfold readAnnounced? at hreading
  dsimp only at hreading
  split at hreading
  · repeat' split at hreading
    all_goals cases hreading
    · exact aside_readLiteral _ _ _ _
    · exact aside_readRaw _ _ _ _
    · exact aside_readLiteral _ _ _ _
    · exact aside_ok (aside_literal _ _)
    · exact aside_error _
    · exact aside_readLiteral _ _ _ _
  · repeat' split at hreading
    all_goals cases hreading
    · exact aside_readLiteral _ _ _ _
    · exact aside_readRaw _ _ _ _
  · split at hreading
    · cases hreading
      cases hinside : unicodeInside? [] (cursor.drop 3) cursor.rest.length with
      | error failure => exact aside_error failure
      | ok done => exact aside_ok (aside_literal _ _)
    · cases hreading
  · cases hreading

theorem aside_readQuotedName (cursor : Cursor) (opening : Char) :
    Reading.Aside c (readQuotedName cursor opening) := by
  unfold readQuotedName
  extract_lets closing
  split
  · exact aside_ok (aside_of_ne rfl (by simp))
  · exact aside_error _

/-! ## Words that are not of letters -/

theorem upperLetter_eq {d : Char} (hd : d.toNat < 128) (hlower : d.isLower = false) :
    upperLetter d = [d] := by
  have hupper : d.toUpper = d := by
    unfold Char.toUpper
    split
    next hbetween =>
      have htrue : d.isLower = true := by
        rw [isLower_iff]
        simpa [UInt32.le_iff_toNat_le] using hbetween
      rw [hlower] at htrue
      cases htrue
    next => rfl
  unfold upperLetter
  split
  case h_11 => rw [hupper]
  all_goals omega

/-- A word keeps what is no letter, so that its keyword is no word of letters. -/
theorem aside_word {value : List Char} {d : Char} (hd : d ∈ value) (hascii : d.toNat < 128)
    (hletter : d.isAlpha = false) :
    (Token.word (String.ofList value) none (keywordOf value)).Aside c := by
  have hlower : d.isLower = false := by
    rw [← Bool.not_eq_true]
    intro hlower
    rw [isAlpha_of_isLower hlower] at hletter
    cases hletter
  have hmem : d ∈ (keywordOf value).toList := by
    rw [keywordOf, String.toList_ofList, List.mem_flatMap]
    exact ⟨d, hd, by rw [upperLetter_eq hascii hlower]; exact List.mem_singleton_self d⟩
  refine aside_of_ne ?_ (by simp)
  rw [Token.keyword, lettersOnly, Bool.and_eq_false_iff]
  refine .inr (List.all_eq_false.mpr ⟨d, hmem, ?_⟩)
  rw [hletter]
  decide

theorem mem_spanOnto {keep : Char → Option Char → Bool} {taken : List Char} {place : Place}
    {text : List Char} {d : Char} (hd : d ∈ (Cursor.spanOnto keep taken place text).1) :
    d ∈ taken ∨ ∃ next, keep d next = true := by
  induction text generalizing taken place with
  | nil => exact .inl (List.mem_reverse.mp hd)
  | cons e text ih =>
      unfold Cursor.spanOnto at hd
      split at hd
      next hkeep =>
        rcases ih hd with htaken | hlater
        · rcases List.mem_cons.mp htaken with rfl | htaken
          · exact .inr ⟨_, hkeep⟩
          · exact .inl htaken
        · exact .inr hlater
      next => exact .inl (List.mem_reverse.mp hd)

theorem not_isAlpha_of_mem_spanOnto {keep : Char → Option Char → Bool} {place : Place}
    {text : List Char} (hkeep : ∀ d next, keep d next = true → d.isDigit = true ∨ d = '_') :
    ∀ d ∈ (Cursor.spanOnto keep [] place text).1, d.toNat < 128 ∧ d.isAlpha = false := by
  intro d hd
  rcases mem_spanOnto hd with hnone | ⟨next, hkept⟩
  · cases hnone
  · rcases hkeep d next hkept with hdigit | rfl
    · have hcode := isDigit_iff.mp hdigit
      refine ⟨by omega, ?_⟩
      rw [← Bool.not_eq_true, isAlpha_iff]
      omega
    · decide

theorem aside_readNumber (cursor : Cursor) :
    Reading.Aside c (readNumber lexicon previous cursor) := by
  have hperiod : (Token.symbol ".").Aside c := aside_symbol (by decide)
  unfold readNumber
  extract_lets afterWord afterPeriod separator digits
  have hdigits (cursor : Cursor) :
      ∀ d ∈ (digits cursor).1, d.toNat < 128 ∧ d.isAlpha = false := by
    apply not_isAlpha_of_mem_spanOnto
    intro d next hkeep
    refine (Bool.or_eq_true _ _ ▸ hkeep).imp_right fun hseparator => ?_
    simp only [separator, Bool.and_eq_true, beq_iff_eq] at hseparator
    exact hseparator.1.2
  clear_value digits
  split
  · split
    · exact aside_ok hperiod
    · exact aside_error _
  have hwhole := hdigits cursor
  split
  next whole after heq =>
  rw [heq] at hwhole
  split
  · exact aside_ok (aside_literal _ _)
  extract_lets point behind
  split
  · exact aside_ok hperiod
  have hfraction := hdigits behind
  split
  next fraction rest heq =>
  rw [heq] at hfraction
  split
  · exact aside_ok hperiod
  next hsome =>
  -- What is read holds a digit, so it is no word of letters even where names begin with digits.
  obtain ⟨d, hd, hascii, hletter⟩ :
      ∃ d ∈ whole ++ fraction, d.toNat < 128 ∧ d.isAlpha = false := by
    have hne : whole ++ fraction ≠ [] := by simpa [List.append_eq_nil_iff] using hsome
    obtain ⟨d, hd⟩ := List.exists_mem_of_ne_nil _ hne
    rcases List.mem_append.mp hd with hd' | hd'
    · exact ⟨d, hd, hwhole d hd'⟩
    · exact ⟨d, hd, hfraction d hd'⟩
  extract_lets mantissa
  have hmantissa : d ∈ mantissa := by
    rcases List.mem_append.mp hd with hd' | hd'
    · exact List.mem_append_left _ (List.mem_append_left _ hd')
    · exact List.mem_append_right _ hd'
  clear_value mantissa
  split
  next exponent behind heq =>
  extract_lets number
  have hnumber : d ∈ number := List.mem_append_left _ hmantissa
  clear_value number
  split
  next more afterName heq =>
  split
  · exact aside_ok (aside_word (List.mem_append_left _ hnumber) hascii hletter)
  split
  · exact aside_ok (aside_word hnumber hascii hletter)
  split
  · exact aside_ok (aside_of_ne rfl (by simp))
  · exact aside_ok (aside_of_ne rfl (by simp))

/-! ## Operators -/

theorem head?_of_startsWith {sign : Char} {text : List Char}
    (hstarts : Text.startsWith [sign] text = true) : text.head? = some sign := by
  cases text with
  | nil => simp [Text.startsWith, Text.after?] at hstarts
  | cons d rest =>
      by_cases hd : sign = d
      · rw [hd]
        rfl
      · simp [Text.startsWith, Text.after?, hd] at hstarts

theorem aside_readSpelling {spellings : List Spelling} {spelling : Spelling} {cursor : Cursor}
    (hspellings : ∀ spelling ∈ spellings, ∀ sign ∈ [';', '('].map String.singleton,
      spelling.symbol = some sign → spelling.text = sign.toList)
    (hfind : Spelling.find? lexicon cursor.rest spellings = some spelling)
    (hcursor : cursor.rest.head? = some c) :
    Reading.Aside c (readSpelling lexicon spelling cursor) := by
  unfold Spelling.find? at hfind
  have hstarts : Text.startsWith spelling.text cursor.rest = true := by
    have hfits := List.find?_some hfind
    exact (Bool.and_eq_true_iff.mp hfits).2
  unfold readSpelling
  extract_lets after
  split
  next more behind heq =>
  split
  · exact aside_ok (aside_of_ne rfl (by simp))
  split
  next symbol hsome =>
    refine aside_ok ⟨rfl, fun sign hsign hsame => ?_⟩
    rw [Token.symbol.inj hsame] at hsome
    rw [hspellings spelling (List.mem_of_find?_eq_some hfind) _ (List.mem_map_of_mem hsign) hsome,
      String.toList_singleton] at hstarts
    have hhead := head?_of_startsWith hstarts
    rw [hcursor] at hhead
    exact Option.some.inj hhead
  · exact aside_error _

theorem head?_of_signedName? {text : List Char} {width : ℕ}
    (hwidth : signedName? lexicon text = some width) :
    0 < width ∧ (text.head? = some '@' ∨ text.head? = some '#') := by
  unfold signedName? at hwidth
  split at hwidth
  · split at hwidth
    · cases hwidth
      exact ⟨by decide, .inl rfl⟩
    · cases hwidth
  · cases hwidth
  · split at hwidth
    · cases hwidth
      exact ⟨by decide, .inl rfl⟩
    · cases hwidth
  · split at hwidth
    · cases hwidth
      exact ⟨by decide, .inr rfl⟩
    · cases hwidth
  · cases hwidth

theorem aside_readOperator? {cursor : Cursor} {reading : Reading}
    (hcursor : cursor.rest.head? = some c)
    (hreading : readOperator? lexicon cursor = some reading) : reading.Aside c := by
  unfold readOperator? at hreading
  split at hreading
  next spelling hfind =>
    cases hreading
    exact aside_readSpelling (by decide) hfind hcursor
  split at hreading
  next width hwidth =>
    cases hreading
    obtain ⟨hpositive, hhead⟩ := head?_of_signedName? hwidth
    obtain ⟨fewer, rfl⟩ := Nat.exists_eq_succ_of_ne_zero hpositive.ne'
    have hsign : c.toNat < 128 ∧ c.isAlpha = false := by
      rcases hhead with hhead | hhead <;> rw [hcursor] at hhead <;> cases hhead <;> decide
    obtain ⟨rest, hrest⟩ := List.head?_eq_some_iff.mp hcursor
    refine aside_ok (aside_word (List.mem_append_left _ ?_) hsign.1 hsign.2)
    rw [hrest]
    exact List.mem_cons_self
  split at hreading
  · cases hreading
    exact aside_ok (aside_symbol (by decide))
  · split at hreading
    · cases hreading
      exact aside_ok (aside_symbol (by decide))
    · cases hreading
      exact aside_ok (aside_symbol (by decide))
  · obtain ⟨spelling, hfind, rfl⟩ := Option.map_eq_some_iff.mp hreading
    exact aside_readSpelling (by decide) hfind hcursor

theorem aside_readDollar (cursor : Cursor) : Reading.Aside c (readDollar lexicon cursor) := by
  unfold readDollar
  extract_lets after
  split
  next tag behind heq =>
  split
  · extract_lets delimiter
    split
    · exact aside_ok (aside_of_ne rfl (by simp))
    · exact aside_error _
  · exact aside_ok (aside_of_ne rfl (by simp))

/-! ## Words -/

theorem readWord_eq (lexicon : Lexicon) (c : Char) (rest : List Char) (place : Place) :
    ∃ after, readWord lexicon [c] ⟨rest, place⟩ =
      (wordToken (c :: rest.takeWhile lexicon.continuesName), after) := by
  have hword : ∀ d ∈ rest.takeWhile lexicon.continuesName, lexicon.continuesName d = true :=
    fun d hd => List.mem_takeWhile_imp hd
  have hbehind : EndsWord lexicon (rest.dropWhile lexicon.continuesName) := by
    intro d hd
    have hstops := List.head?_dropWhile_not lexicon.continuesName rest
    simpa [Option.mem_def.mp hd] using hstops
  have hread := readWord_append hword hbehind c place
  rw [List.takeWhile_append_dropWhile] at hread
  exact ⟨_, hread⟩

/-- What is read stands aside, or it is the word that begins at the character. -/
theorem aside_or_word_of_readToken
    {rest : List Char} {place : Place} {token : Token} {after : Cursor}
    (hread : readToken lexicon previous c ⟨c :: rest, place⟩ = .ok (token, after)) :
    token.Aside c ∨
      lexicon.beginsName c = true ∧ readAnnounced? lexicon ⟨c :: rest, place⟩ = none ∧
        token = wordToken (c :: rest.takeWhile lexicon.continuesName) := by
  unfold readToken at hread
  split at hread
  next reading hannounced => exact .inl (aside_readAnnounced? hannounced hread)
  next hannounced =>
  split at hread
  · exact .inl (aside_readLiteral _ _ _ _ hread)
  split at hread
  · exact .inl (aside_readQuotedName _ _ hread)
  split at hread
  · exact .inl (aside_readLiteral _ _ _ _ hread)
  split at hread
  · exact .inl (aside_readNumber _ hread)
  split at hread
  next reading hoperator => exact .inl (aside_readOperator? rfl hoperator hread)
  split at hread
  · cases hread
    exact .inl (aside_of_ne rfl (by simp))
  split at hread
  next hbegins =>
    obtain ⟨behind, hword⟩ := readWord_eq lexicon c rest (place.after c)
    rw [Cursor.skip, hword] at hread
    cases hread
    exact .inr ⟨hbegins, hannounced, rfl⟩
  split at hread
  · exact .inl (aside_readDollar _ hread)
  · cases hread
    exact .inl (aside_of_ne rfl (by simp))

theorem sign_of_readToken
    {rest : List Char} {place : Place} {token : Token} {after : Cursor}
    (hread : readToken lexicon previous c ⟨c :: rest, place⟩ = .ok (token, after))
    {sign : Char} (hsign : sign ∈ [';', '(']) (htoken : token = .symbol (String.singleton sign)) :
    c = sign := by
  rcases aside_or_word_of_readToken hread with haside | ⟨-, -, hword⟩
  · exact haside.symbol sign hsign htoken
  · rw [htoken] at hword
    cases hword

/-- The head of a word of letters is a letter or a character beyond ASCII whose upper case is. -/
theorem wordHead_of_lettersOnly {more : List Char}
    (hletters : lettersOnly (keywordOf (c :: more)) = true) : WordHead c := by
  by_contra hhead
  have hother : c.isAlpha = false ∧ c.toNat < 128 := by
    simpa [WordHead, not_or] using hhead
  have haside := aside_word (c := c) (List.mem_cons_self (a := c) (l := more)) hother.2 hother.1
  have hnone := haside.keyword
  rw [Token.keyword, hletters] at hnone
  cases hnone

theorem isAlphabetic_of_upperLetter {d : Char} (hupper : ∀ e ∈ upperLetter d, e.isAlpha = true) :
    Text.isAlphabetic d = true := by
  unfold upperLetter at hupper
  split at hupper
  case h_11 =>
    apply isAlphabetic_of_isAlpha
    have hletter := hupper d.toUpper (List.mem_singleton_self _)
    unfold Char.toUpper at hletter
    split at hletter
    next hbetween =>
      rw [isAlpha_iff]
      exact .inr (by simpa [UInt32.le_iff_toNat_le] using hbetween)
    next => exact hletter
  all_goals
    rename_i hcode
    rw [Text.isAlphabetic, if_neg (by omega), hcode]
    decide +kernel

theorem isAlphabetic_of_lettersOnly {letters : List Char}
    (hletters : lettersOnly (keywordOf letters) = true) :
    ∀ d ∈ letters, Text.isAlphabetic d = true := by
  intro d hd
  rw [lettersOnly, Bool.and_eq_true, List.all_eq_true, keywordOf, String.toList_ofList] at hletters
  exact isAlphabetic_of_upperLetter fun e he => hletters.2 e (List.mem_flatMap.mpr ⟨d, hd, he⟩)

theorem isSpace_of_lettersOnly {more : List Char}
    (hletters : lettersOnly (keywordOf (c :: more)) = true) : Text.isSpace c = false := by
  have halphabetic := isAlphabetic_of_lettersOnly hletters c List.mem_cons_self
  rw [← Bool.not_eq_true]
  intro hspace
  rw [isAlphabetic_of_isSpace hspace] at halphabetic
  cases halphabetic

theorem word_of_readToken
    {rest : List Char} {place : Place} {token : Token} {after : Cursor}
    (hread : readToken lexicon previous c ⟨c :: rest, place⟩ = .ok (token, after))
    (hletters : lettersOnly token.keyword = true) :
    WordHead c ∧ lexicon.beginsName c = true ∧
      readAnnounced? lexicon ⟨c :: rest, place⟩ = none ∧
      token = wordToken (c :: rest.takeWhile lexicon.continuesName) := by
  rcases aside_or_word_of_readToken hread with haside | ⟨hbegins, hannounced, rfl⟩
  · rw [haside.keyword] at hletters
    cases hletters
  · exact ⟨wordHead_of_lettersOnly hletters, hbegins, hannounced, rfl⟩

end SqlPipe.Sql
