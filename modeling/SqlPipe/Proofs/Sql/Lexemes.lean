import SqlPipe.Proofs.Sql.Pieces
import SqlPipe.Sql.Name

/-!
# Single tokens

What is enough for a text to be read as one token: for punctuation, words, quoted names, strings and
numbers.
-/

namespace SqlPipe.Sql

variable {lexicon : Lexicon} {dialect : Dialect} {previous : Previous} {behind : List Char}

/-! ## Punctuation and words -/

theorem readAnnounced?_of_not_isAlpha {c : Char} (hc : c.isAlpha = false) (rest : List Char)
    (place : Place) : readAnnounced? lexicon ⟨c :: rest, place⟩ = none := by
  have hne (d : Char) (hd : d.isAlpha = true) : c ≠ d := (ne_of_isAlpha hd hc).symm
  unfold readAnnounced?
  split
  next d more heq =>
    simp only [List.cons.injEq] at heq
    obtain ⟨rfl, -⟩ := heq
    simp [hne 'b', hne 'B', hne 'r', hne 'R', hne 'n', hne 'N', hne 'e', hne 'E', hne 'x', hne 'X']
  next d more heq =>
    simp only [List.cons.injEq] at heq
    obtain ⟨rfl, -⟩ := heq
    simp [hne 'b', hne 'B', hne 'r', hne 'R']
  next d more heq =>
    simp only [List.cons.injEq] at heq
    obtain ⟨rfl, -⟩ := heq
    simp [hne 'u', hne 'U']
  next => rfl

theorem readGap?_eq_none {c : Char} {rest : List Char}
    (hc : Text.isSpace c = false) (hhash : c ≠ '#') (hslash : c ≠ '/')
    (hdash : c = '-' → rest.head? ≠ some '-') (place : Place) :
    readGap? lexicon ⟨c :: rest, place⟩ = none := by
  have hne (d : Char) (hd : Text.isSpace d = true) : c ≠ d := by
    rintro rfl
    rw [hc] at hd
    cases hd
  have hfeed := hne '\n' (by decide)
  have hreturn := hne '\r' (by decide)
  have hblank := hne ' ' (by decide)
  have htab := hne '\t' (by decide)
  by_cases hsign : c = '-'
  · subst hsign
    cases rest with
    | nil => simp [readGap?, hc]
    | cons d rest =>
        have hd : d ≠ '-' := by simpa using hdash rfl
        simp [readGap?, hc, hd]
  · simp [readGap?, hreturn, hsign, hslash, hblank, htab, hhash, hc]

def punctuation : List Char := ['(', ')', ',', ';']

theorem readsAs_punctuation {c : Char} (hc : c ∈ punctuation) :
    ReadsAs (Lexicon.of dialect) previous [c] (.symbol (String.singleton c)) behind := by
  simp only [punctuation, List.mem_cons, List.not_mem_nil, or_false] at hc
  refine ⟨List.cons_ne_nil _ _, fun place => ?_, ?_⟩
  · apply readGap?_eq_none
    all_goals rcases hc with rfl | rfl | rfl | rfl <;> simp [Text.isSpace]
  · rintro d more hd place
    obtain ⟨rfl, rfl⟩ : c = d ∧ [] = more := by simpa using hd
    have halpha : c.isAlpha = false := by rcases hc with rfl | rfl | rfl | rfl <;> decide
    simp only [readToken, List.singleton_append, readAnnounced?_of_not_isAlpha halpha]
    rcases hc with rfl | rfl | rfl | rfl
    · cases dialect <;> rfl
    · cases dialect <;> rfl
    · cases dialect <;> rfl
    · cases dialect <;> rfl

theorem readsAs_period (hbehind : ∀ c ∈ behind.head?, c.isDigit = false ∧ c ≠ '_') :
    ReadsAs (Lexicon.of dialect) previous ['.'] (.symbol ".") behind := by
  refine ⟨List.cons_ne_nil _ _, fun place => ?_, ?_⟩
  · exact readGap?_eq_none (by decide) (by decide) (by decide) (fun hsign => by cases hsign) place
  · rintro d more hd place
    obtain ⟨rfl, rfl⟩ : '.' = d ∧ [] = more := by simpa using hd
    have hopens : (Lexicon.of dialect).opensName '.' = false := by cases dialect <;> rfl
    have hnumber : readNumber (Lexicon.of dialect) previous ⟨'.' :: behind, place⟩ =
        .ok (.symbol ".", ⟨behind, place.after '.'⟩) := by
      cases behind with
      | nil => simp [readNumber, Text.startsWith, Text.after?, Cursor.spanOnto, Cursor.skip]
      | cons c behind =>
          obtain ⟨hdigit, hscore⟩ := hbehind c rfl
          simp [readNumber, Text.startsWith, Text.after?, Cursor.spanOnto, Cursor.skip, hdigit,
            hscore, Ne.symm hscore]
    simp only [readToken, List.singleton_append]
    rw [readAnnounced?_of_not_isAlpha (by decide)]
    simp [hopens, hnumber, Place.afterAll]

theorem readsAs_word {c : Char} {more : List Char} (hc : c.isAlpha = true)
    (hmore : ∀ d ∈ more, (Lexicon.of dialect).continuesName d = true)
    (hbehind : EndsWord (Lexicon.of dialect) behind)
    (hnothing : AnnouncesNothing (more ++ behind)) :
    ReadsAs (Lexicon.of dialect) previous (c :: more) (wordToken (c :: more)) behind := by
  refine ⟨List.cons_ne_nil _ _, fun place => readGap?_of_isAlpha hc _ place, ?_⟩
  rintro d others hd place
  obtain ⟨rfl, rfl⟩ : c = d ∧ more = others := by simpa using hd
  exact readToken_word hc hmore hbehind hnothing previous place

theorem readsAs_letters {word : String} (hword : lettersOnly word = true)
    (hends : EndsWord (Lexicon.of dialect) behind) (hnothing : AnnouncesNothing behind) :
    ReadsAs (Lexicon.of dialect) previous word.toList (wordToken word.toList) behind := by
  obtain ⟨hne, halpha⟩ : word.toList ≠ [] ∧ ∀ c ∈ word.toList, c.isAlpha = true := by
    simpa [lettersOnly] using hword
  obtain ⟨c, more, htext⟩ := List.exists_cons_of_ne_nil hne
  rw [htext] at halpha ⊢
  have hmore : ∀ d ∈ more, d.isAlpha = true := fun d hd => halpha d (List.mem_cons_of_mem c hd)
  exact readsAs_word (halpha c List.mem_cons_self)
    (fun d hd => continuesName_of_isAlpha (hmore d hd)) hends
    (announcesNothing_append hmore hnothing)

/-! ## Keywords and lists -/

def keywordPieces (word : String) : List Piece :=
  [.lexeme word.toList (wordToken word.toList), .blank]

@[simp] theorem charsOf_keywordPieces (word : String) :
    charsOf (keywordPieces word) = word.toList ++ [' '] := by
  simp [keywordPieces, Piece.chars]

@[simp] theorem tokensIn_keywordPieces (word : String) :
    tokensIn (keywordPieces word) = [wordToken word.toList] := rfl

theorem lexes_keywordPieces {word : String} (hword : lettersOnly word = true) :
    Lexes (Lexicon.of dialect) previous (keywordPieces word) behind := by
  have hends : EndsWord (Lexicon.of dialect) (' ' :: behind) := by
    intro c hc
    obtain rfl : ' ' = c := Option.some.inj hc
    cases dialect <;> rfl
  have hblank : AnnouncesNothing (' ' :: behind) := by
    intro c hc
    obtain rfl : ' ' = c := Option.some.inj hc
    decide
  exact ⟨readsAs_letters hword hends hblank, trivial⟩

def commaPieces : List Piece := [.lexeme [','] (.symbol ","), .blank]

def parenthesizedPieces (inside : List Piece) : List Piece :=
  .lexeme ['('] (.symbol "(") :: inside ++ [.lexeme [')'] (.symbol ")")]

@[simp] theorem tokensIn_parenthesizedPieces (inside : List Piece) :
    tokensIn (parenthesizedPieces inside) = .symbol "(" :: (tokensIn inside ++ [.symbol ")"]) := by
  simp [parenthesizedPieces]

/-- Items of a list are read one after another, each but the first behind a blank. -/
theorem lexes_commaPieces
    {fits : List Char → Prop} {items : List (List Piece)}
    (hfits : ∀ behind, fits (',' :: behind))
    (hitems : ∀ item ∈ items, ∀ ⦃previous behind⦄, fits behind →
      Lexes (Lexicon.of dialect) previous item behind)
    {previous : Previous} {behind : List Char} (hbehind : fits behind) :
    Lexes (Lexicon.of dialect) previous (commaPieces.intercalate items) behind := by
  apply lexes_intercalate _ _ hitems hbehind
  · intro item _ previous behind
    exact ⟨readsAs_punctuation (by decide), trivial⟩
  · intro behind
    exact hfits _

theorem lexes_parenthesizedPieces {inside : List Piece} {previous : Previous} {behind : List Char}
    (hinside : Lexes (Lexicon.of dialect) (some (.symbol "(")) inside (')' :: behind)) :
    Lexes (Lexicon.of dialect) previous (parenthesizedPieces inside) behind := by
  refine ⟨readsAs_punctuation (by decide), ?_⟩
  exact lexes_append.mpr ⟨hinside, readsAs_punctuation (by decide), trivial⟩

/-! ## Quoted texts -/

/-- The inside of a quoted text as it may be written: its quotes are doubled, or stand behind a
backslash where this escapes them. -/
inductive Inside (quote : Char) (backslash : Bool) : List Char → Prop
  | nil : Inside quote backslash []
  | plain {c : Char} {rest : List Char} (hquote : c ≠ quote)
      (hbackslash : backslash = true → c ≠ '\\') (hrest : Inside quote backslash rest) :
      Inside quote backslash (c :: rest)
  | doubled {rest : List Char} (hrest : Inside quote backslash rest) :
      Inside quote backslash (quote :: quote :: rest)
  | escaped {c : Char} {rest : List Char} (hbackslash : backslash = true)
      (hrest : Inside quote backslash rest) : Inside quote backslash ('\\' :: c :: rest)

theorem insideOnto_append
    {quote : Char} {backslash : Bool} {inside : List Char} (hquote : quote ≠ '\\')
    (hinside : Inside quote backslash inside) (hbehind : behind.head? ≠ some quote)
    (taken : List Char) (place : Place) :
    insideOnto quote backslash taken place (inside ++ quote :: behind) =
      some (taken.reverse ++ inside, ⟨behind, place.afterAll (inside ++ [quote])⟩) := by
  induction hinside generalizing taken place with
  | nil =>
      cases behind with
      | nil => simp [insideOnto, Place.afterAll]
      | cons d behind =>
          have hd : d ≠ quote := by simpa using hbehind
          simp [insideOnto, hd, Place.afterAll]
  | @plain c rest hc hbackslash hrest ih =>
      obtain ⟨d, more, hmore⟩ : ∃ d more, rest ++ quote :: behind = d :: more :=
        List.exists_cons_of_ne_nil (by simp)
      have hgo : ¬(backslash = true ∧ c = '\\') := fun h => hbackslash h.1 h.2
      rw [List.cons_append, hmore, insideOnto, if_neg (by simpa using hc),
        if_neg (by simpa using hgo), ← hmore, ih]
      simp [Place.afterAll]
  | @doubled rest hrest ih =>
      simp [insideOnto, ih, Place.afterAll]
  | @escaped c rest hbackslash hrest ih =>
      have hescape : ('\\' == quote) = false := by simpa using hquote.symm
      rw [List.cons_append, List.cons_append, insideOnto, hescape, if_neg (by simp),
        if_pos (by simpa using hbackslash), ih]
      simp [Place.afterAll]

theorem doubleLoneQuotesOnto_of_ne {quote c : Char} (hc : c ≠ quote) (written rest : List Char)
    (previous : Char) : doubleLoneQuotesOnto quote written previous (c :: rest) =
      doubleLoneQuotesOnto quote (c :: written) c rest := by
  cases rest with
  | nil => simp [doubleLoneQuotesOnto, hc]
  | cons d rest => simp [doubleLoneQuotesOnto, hc]

theorem doubleLoneQuotesOnto_backslash (quote : Char) (written rest : List Char) :
    doubleLoneQuotesOnto quote written '\\' (quote :: rest) =
      doubleLoneQuotesOnto quote (quote :: written) '\\' rest := by
  cases rest with
  | nil => simp [doubleLoneQuotesOnto]
  | cons d rest => simp [doubleLoneQuotesOnto]

/-- A text that could stand between the quotes stays as it is when it is written again. -/
theorem doubleLoneQuotesOnto_of_inside
    {quote : Char} {backslash : Bool} {inside : List Char} (hquote : quote ≠ '\\')
    (hinside : Inside quote backslash inside) (written : List Char) (previous : Char) :
    doubleLoneQuotesOnto quote written previous inside = written.reverse ++ inside := by
  induction hinside generalizing written previous with
  | nil => simp [doubleLoneQuotesOnto]
  | @plain c rest hc hbackslash hrest ih =>
      rw [doubleLoneQuotesOnto_of_ne hc, ih]
      simp
  | @doubled rest hrest ih =>
      by_cases hprevious : previous = '\\'
      · rw [hprevious, doubleLoneQuotesOnto_backslash, doubleLoneQuotesOnto_backslash, ih]
        simp
      · have hboth : doubleLoneQuotesOnto quote written previous (quote :: quote :: rest) =
            doubleLoneQuotesOnto quote (quote :: quote :: written) quote rest := by
          simp [doubleLoneQuotesOnto, hprevious]
        rw [hboth, ih]
        simp
  | @escaped c rest hbackslash hrest ih =>
      rw [doubleLoneQuotesOnto_of_ne hquote.symm]
      by_cases hc : c = quote
      · rw [hc, doubleLoneQuotesOnto_backslash, ih]
        simp
      · rw [doubleLoneQuotesOnto_of_ne hc, ih]
        simp

theorem toList_betweenQuotes
    {quote : Char} {backslash : Bool} {inside : String} (hquote : quote ≠ '\\')
    (hinside : Inside quote backslash inside.toList) :
    (betweenQuotes quote inside).toList = quote :: inside.toList ++ [quote] := by
  have hsame := doubleLoneQuotesOnto_of_inside hquote hinside [] '\x00'
  simp [betweenQuotes, hsame, Char.toString]

theorem readsAs_string {inside : List Char}
    (hinside : Inside '\x27' (Lexicon.of dialect).backslashEscapes inside)
    (hbehind : behind.head? ≠ some '\x27') :
    ReadsAs (Lexicon.of dialect) previous ('\x27' :: inside ++ ['\x27'])
      (.literal .single (String.ofList inside)) behind := by
  refine ⟨List.cons_ne_nil _ _, fun place => ?_, ?_⟩
  · exact readGap?_eq_none (by decide) (by decide) (by decide) (fun hsign => by cases hsign) place
  · rintro d more hd place
    obtain ⟨rfl, rfl⟩ : '\x27' = d ∧ inside ++ ['\x27'] = more := by simpa using hd
    have hread := insideOnto_append (by decide) hinside hbehind [] (place.after '\x27')
    rw [List.cons_append, List.cons_append, readToken, readAnnounced?_of_not_isAlpha (by decide)]
    simp [readLiteral, inside?, Cursor.skip, hread, Place.afterAll]

theorem readsAs_quoted {opening : Char} {inside : List Char}
    (hopens : (Lexicon.of dialect).opensName opening = true)
    (hinside : Inside (closingQuote opening) false inside)
    (hbehind : behind.head? ≠ some (closingQuote opening)) :
    ReadsAs (Lexicon.of dialect) previous (opening :: inside ++ [closingQuote opening])
      (.word (String.ofList inside) (some opening) "") behind := by
  have hcases : opening = '\x22' ∨ opening = '\x60' ∨ opening = '[' := by
    cases dialect <;> simp [Lexicon.of, Lexicon.shared] at hopens <;> tauto
  have hclosing : closingQuote opening ≠ '\\' := by
    rcases hcases with rfl | rfl | rfl <;> decide
  refine ⟨List.cons_ne_nil _ _, fun place => ?_, ?_⟩
  · apply readGap?_eq_none
    all_goals rcases hcases with rfl | rfl | rfl <;> simp [Text.isSpace]
  · rintro d more hd place
    obtain ⟨rfl, rfl⟩ : opening = d ∧ inside ++ [closingQuote opening] = more := by simpa using hd
    have halpha : opening.isAlpha = false := by rcases hcases with rfl | rfl | rfl <;> decide
    have hsingle : opening ≠ '\x27' := by rcases hcases with rfl | rfl | rfl <;> decide
    have hread := insideOnto_append hclosing hinside hbehind [] (place.after opening)
    rw [List.cons_append, List.cons_append, readToken, readAnnounced?_of_not_isAlpha halpha]
    simp [hsingle, hopens, readQuotedName, inside?, Cursor.skip, hread, Place.afterAll]

/-! ## Numbers -/

/-- The text of a number: digits, and perhaps a period with digits behind it. -/
def numeral (whole : List Char) (fraction : Option (List Char)) : List Char :=
  whole ++ (fraction.map ('.' :: ·)).getD []

/-- What stands behind a value in a row: a comma or a closing parenthesis. -/
def ClosesValue (behind : List Char) : Prop :=
  behind.head? = some ',' ∨ behind.head? = some ')'

/-- A character that ends a numeral. -/
structure EndsNumeral (lexicon : Lexicon) (c : Char) : Prop where
  notDigit : c.isDigit = false
  notMark : c ≠ '_' ∧ c ≠ 'x' ∧ c ≠ 'e' ∧ c ≠ 'E' ∧ c ≠ 'L'
  notName : lexicon.continuesName c = false

theorem endsNumeral_of_closesValue (dialect : Dialect) {c : Char} {rest : List Char}
    (hcloses : ClosesValue (c :: rest)) : EndsNumeral (Lexicon.of dialect) c ∧ c ≠ '.' := by
  obtain rfl | rfl : c = ',' ∨ c = ')' := by simpa [ClosesValue] using hcloses
  · exact ⟨⟨by decide, by decide, by cases dialect <;> rfl⟩, by decide⟩
  · exact ⟨⟨by decide, by decide, by cases dialect <;> rfl⟩, by decide⟩

theorem readNumber_numeral (dialect : Dialect) (previous : Previous) {whole : List Char}
    {fraction : Option (List Char)} (hwhole : whole ≠ []) (hdigits : ∀ c ∈ whole, c.isDigit = true)
    (hfraction : ∀ digits ∈ fraction, ∀ c ∈ digits, c.isDigit = true)
    (hbehind : ClosesValue behind) (place : Place) :
    readNumber (Lexicon.of dialect) previous ⟨numeral whole fraction ++ behind, place⟩ =
      .ok (.number (String.ofList (numeral whole fraction)) false,
        ⟨behind, place.afterAll (numeral whole fraction)⟩) := by
  obtain ⟨d, digits, rfl⟩ := List.exists_cons_of_ne_nil hwhole
  obtain ⟨e, rest, rfl⟩ : ∃ e rest, behind = e :: rest := by
    cases behind with
    | nil => simp [ClosesValue] at hbehind
    | cons e rest => exact ⟨e, rest, rfl⟩
  -- what closes a value goes on with no part of a number
  obtain ⟨⟨hdigit, ⟨hscore, hx, hlower, hupper, hlong⟩, hname⟩, hperiod⟩ :=
    endsNumeral_of_closesValue dialect hbehind
  have hd : d.isDigit = true := hdigits d List.mem_cons_self
  have hdperiod : d ≠ '.' := by
    rintro rfl
    cases hd
  have hexponent (place : Place) :
      takeExponent ⟨e :: rest, place⟩ = ([], ⟨e :: rest, place⟩) := by
    simp [takeExponent, hlower, hupper]
  have hmore (place : Place) : Cursor.span ⟨e :: rest, place⟩ (Lexicon.of dialect).continuesName =
      ([], ⟨e :: rest, place⟩) := by
    simp [Cursor.span, Cursor.spanOnto, hname]
  unfold readNumber
  extract_lets afterWord afterPeriod separator taken
  have htaken {run : List Char} (hrun : ∀ c ∈ run, c.isDigit = true) (c : Char)
      (others : List Char) (hc : c.isDigit = false ∧ c ≠ '_') (place : Place) :
      taken ⟨run ++ c :: others, place⟩ = (run, ⟨c :: others, place.afterAll run⟩) := by
    apply spanOnto_append [] place
    · intro digit hdigit next
      simp [hrun digit hdigit]
    · rintro other hother next
      obtain rfl : c = other := by simpa using hother
      simp [separator, hc.1, hc.2]
  have hnone (place : Place) : taken ⟨e :: rest, place⟩ = ([], ⟨e :: rest, place⟩) :=
    htaken (List.forall_mem_nil _) e rest ⟨hdigit, hscore⟩ place
  cases fraction with
  | none =>
      have hfirst := htaken hdigits e rest ⟨hdigit, hscore⟩ place
      simp only [numeral, Option.map_none, Option.getD_none, List.append_nil, hfirst]
      simp [Text.startsWith, Text.after?, Ne.symm hdperiod, hx, hperiod, hexponent, hmore, hlong,
        hnone]
  | some others =>
      have hfirst := htaken hdigits '.' (others ++ e :: rest) ⟨by decide, by decide⟩ place
      have hsecond := htaken (hfraction others rfl) e rest ⟨hdigit, hscore⟩
        (((place.after d).afterAll digits).after '.')
      simp only [numeral, Option.map_some, Option.getD_some, List.append_assoc, List.cons_append]
      rw [List.cons_append] at hfirst
      simp [Text.startsWith, Text.after?, Ne.symm hdperiod, hfirst, hsecond, hexponent, hmore,
        hlong, Cursor.skip]

theorem readsAs_numeral {whole : List Char} {fraction : Option (List Char)}
    (hwhole : whole ≠ []) (hdigits : ∀ c ∈ whole, c.isDigit = true)
    (hfraction : ∀ digits ∈ fraction, ∀ c ∈ digits, c.isDigit = true)
    (hbehind : ClosesValue behind) :
    ReadsAs (Lexicon.of dialect) previous (numeral whole fraction)
      (.number (String.ofList (numeral whole fraction)) false) behind := by
  obtain ⟨d, digits, rfl⟩ := List.exists_cons_of_ne_nil hwhole
  have hd := hdigits d List.mem_cons_self
  have hne {e : Char} (he : e.isDigit = false) : d ≠ e := by
    rintro rfl
    rw [hd] at he
    cases he
  have hcode := isDigit_iff.mp hd
  have halpha : d.isAlpha = false := by
    rw [← Bool.not_eq_true, isAlpha_iff]
    omega
  have hspace : Text.isSpace d = false := by
    simp only [Text.isSpace, Bool.or_eq_false_iff, Bool.and_eq_false_iff, decide_eq_false_iff_not,
      beq_eq_false_iff_ne]
    omega
  have hopens : (Lexicon.of dialect).opensName d = false := by
    have hdouble := hne (e := '\x22') (by decide)
    have hback := hne (e := '\x60') (by decide)
    have hbracket := hne (e := '[') (by decide)
    cases dialect <;> simp [Lexicon.of, Lexicon.shared, hdouble, hback, hbracket]
  refine ⟨List.cons_ne_nil _ _, fun place => ?_, ?_⟩
  · exact readGap?_eq_none hspace (hne (by decide)) (hne (by decide))
      (fun hsign => absurd hsign (hne (by decide))) place
  · rintro c more hc place
    obtain rfl : d = c := (List.cons.inj hc).1
    have hnumber := readNumber_numeral dialect previous hwhole hdigits hfraction hbehind
      place
    have hcursor : numeral (d :: digits) fraction ++ behind = d :: (more ++ behind) := by
      rw [hc, List.cons_append]
    rw [hcursor] at hnumber ⊢
    rw [readToken, readAnnounced?_of_not_isAlpha halpha]
    simp [hopens, hd, hnumber, hne (e := '\x27') (by decide), hne (e := '\x22') (by decide)]

/-- No operator of several characters begins with a minus sign in front of a digit. -/
theorem find?_compound_minus (lexicon : Lexicon) {c : Char} (hc : c.isDigit = true)
    (more : List Char) :
    Spelling.find? lexicon ('-' :: c :: more) Spelling.compound = none := by
  rw [Spelling.find?, List.find?_eq_none]
  intro spelling hmem
  have hhead : spelling.text.take 2 = ['-', '>'] ∨ spelling.text.head?.any (· != '-') := by
    revert spelling
    decide
  rcases htext : spelling.text with _ | ⟨d, others⟩
  · simp [htext] at hhead
  · by_cases hd : d = '-'
    · obtain ⟨more, rfl⟩ : ∃ more, others = '>' :: more := by
        rcases others with _ | ⟨e, more⟩
        · simp [htext, hd] at hhead
        · exact ⟨more, by simpa [htext, hd] using hhead⟩
      have hgreater : '>' ≠ c := by
        rintro rfl
        cases hc
      simp [hd, Text.startsWith, Text.after?, hgreater]
    · simp [Text.startsWith, Text.after?, hd]

theorem continuesOperator_of_isDigit (dialect : Dialect) {c : Char} (hc : c.isDigit = true) :
    (Lexicon.of dialect).continuesOperator c = false := by
  cases dialect
  case postgres =>
    rw [← Bool.not_eq_true]
    intro hmem
    have hmarks : ("+-*/<>=~!@#%^&|`?".toList.all fun d => !d.isDigit) = true := by decide
    have hmark := List.all_eq_true.mp hmarks c (List.contains_iff_mem.mp hmem)
    rw [hc] at hmark
    cases hmark
  all_goals rfl

theorem readsAs_minus {c : Char} {more : List Char} (hc : c.isDigit = true) :
    ReadsAs (Lexicon.of dialect) previous ['-'] (.symbol "-") (c :: more) := by
  have hminus : c ≠ '-' := by
    rintro rfl
    cases hc
  have hcompound := find?_compound_minus (Lexicon.of dialect) hc more
  have hsingle : Spelling.find? (Lexicon.of dialect) ('-' :: c :: more) Spelling.single =
      some (.extensible "-") := rfl
  have hoperator := continuesOperator_of_isDigit dialect hc
  refine ⟨List.cons_ne_nil _ _, fun place => ?_, ?_⟩
  · refine readGap?_eq_none (by decide) (by decide) (by decide) (fun _ => ?_) place
    simpa using hminus
  · rintro d others hd place
    obtain ⟨rfl, rfl⟩ : '-' = d ∧ [] = others := by simpa using hd
    have hopens : (Lexicon.of dialect).opensName '-' = false := by cases dialect <;> rfl
    rw [List.singleton_append, readToken, readAnnounced?_of_not_isAlpha (by decide)]
    simp [hopens, readOperator?, hcompound, hsingle, signedName?, readSpelling,
      Spelling.extensible, Cursor.drop, Cursor.skip, Cursor.span, Cursor.spanOnto, hoperator]

end SqlPipe.Sql
