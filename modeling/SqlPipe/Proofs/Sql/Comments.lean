import SqlPipe.Proofs.Sql.Openings
import SqlPipe.Proofs.Text.Search

/-!
# Comments as gaps

A line comment is passed up to its line feed and a block comment up to its end.  Where block
comments nest, the end of one that holds no other opening is its first closing all the same.
-/

namespace SqlPipe.Sql

variable {lexicon : Lexicon} {dialect : Dialect}

/-! ## Line comments -/

theorem rest_spanOnto (keep : Char → Bool) (taken : List Char) (place : Place) (text : List Char) :
    (Cursor.spanOnto (fun c _ => keep c) taken place text).2.rest = text.dropWhile keep := by
  induction text generalizing taken place with
  | nil => rfl
  | cons c text ih =>
      rw [Cursor.spanOnto]
      cases hc : keep c with
      | true => rw [if_pos rfl, ih, List.dropWhile_cons_of_pos hc]
      | false =>
          rw [if_neg (by decide), List.dropWhile_cons_of_neg (by rw [hc]; decide)]

theorem rest_skip (cursor : Cursor) : cursor.skip.rest = cursor.rest.tail := by
  unfold Cursor.skip
  split
  next hrest => rw [hrest]; rfl
  next hrest => rw [hrest]; rfl

def inLineComment (lexicon : Lexicon) (c : Char) : Bool :=
  !(c == '\n' || (lexicon.returnEndsComment && c == '\r'))

theorem dropWhile_inLineComment {text : List Char}
    (hreturn : lexicon.returnEndsComment = true → '\r' ∉ text.takeWhile (· != '\n')) :
    text.dropWhile (inLineComment lexicon) = text.dropWhile (· != '\n') := by
  induction text with
  | nil => rfl
  | cons c text ih =>
      by_cases hfeed : c = '\n'
      · simp [inLineComment, hfeed]
      have hline : (c != '\n') = true := by simpa using hfeed
      rw [List.takeWhile_cons, if_pos hline] at hreturn
      have hkeep : inLineComment lexicon c = true := by
        cases hends : lexicon.returnEndsComment with
        | false => simp [inLineComment, hends, hfeed]
        | true =>
            have hc : c ≠ '\r' := fun hc => hreturn hends (hc ▸ List.mem_cons_self)
            simp [inLineComment, hfeed, hc]
      rw [List.dropWhile_cons, if_pos hkeep, List.dropWhile_cons, if_pos hline]
      exact ih fun hends hmem => hreturn hends (List.mem_cons_of_mem c hmem)

/-- A line comment ends behind the line feed, where nothing else ends it. -/
theorem exists_lineEnd (lexicon : Lexicon) (cursor : Cursor)
    (hreturn : lexicon.returnEndsComment = true → '\r' ∉ cursor.rest.takeWhile (· != '\n')) :
    ∃ after, lineEnd lexicon cursor = ⟨Text.dropThrough ['\n'] cursor.rest, after⟩ := by
  have hrest : (lineEnd lexicon cursor).rest = Text.dropThrough ['\n'] cursor.rest := by
    rw [lineEnd, rest_skip, Cursor.span, rest_spanOnto, Text.dropThrough_singleton]
    exact congrArg List.tail (dropWhile_inLineComment hreturn)
  exact ⟨(lineEnd lexicon cursor).place, by rw [← hrest]⟩

/-! ## Block comments -/

/-- A block comment ends at its first closing, if comments do not nest or it opens no other. -/
theorem exists_blockEnd
    {nested : Bool} {inside : List Char} (hclosing : ¬ ['*', '/'] <:+: inside ++ ['*'])
    (hopening : nested = true → ¬ ['/', '*'] <:+: inside ++ ['*']) (place : Place)
    (rest : List Char) :
    ∃ after, blockEnd nested 0 place (inside ++ '*' :: '/' :: rest) = some ⟨rest, after⟩ := by
  induction inside generalizing place with
  | nil =>
      refine ⟨(place.after '*').after '/', ?_⟩
      rw [List.nil_append, blockEnd, if_neg (by simp)]
      simp
  | cons c inside ih =>
      have hmore (part : List Char) (hpart : ¬ part <:+: c :: inside ++ ['*']) :
          ¬ part <:+: inside ++ ['*'] := fun hoccurs =>
        hpart (hoccurs.trans (List.suffix_cons c _).isInfix)
      obtain ⟨after, hafter⟩ :=
        ih (hmore _ hclosing) (fun hnested => hmore _ (hopening hnested)) (place.after c)
      obtain ⟨d, more, hd⟩ := List.exists_cons_of_ne_nil (List.concat_ne_nil '*' inside)
      have htext : inside ++ '*' :: '/' :: rest = d :: (more ++ '/' :: rest) := by
        rw [← List.cons_append, ← hd, List.append_assoc]
        rfl
      have hnext {opening closing : Char}
          (hpair : ¬ [opening, closing] <:+: c :: inside ++ ['*']) :
          ¬ (c = opening ∧ d = closing) := by
        rintro ⟨rfl, rfl⟩
        rw [List.cons_append, hd] at hpair
        exact hpair (List.prefix_append [c, d] more).isInfix
      have hcloses : (c == '*' && d == '/') = false := by simpa using hnext hclosing
      have hopens : (nested && c == '/' && d == '*') = false := by
        cases nested with
        | false => rfl
        | true => simpa using hnext (hopening rfl)
      refine ⟨after, ?_⟩
      rw [List.cons_append, htext, blockEnd, if_neg (by rw [hopens]; decide),
        if_neg (by rw [hcloses]; decide), ← htext, hafter]

theorem infix_of_blockEnd {nested : Bool} {depth : ℕ} {place : Place} {text : List Char}
    {after : Cursor} (hend : blockEnd nested depth place text = some after) :
    ['*', '/'] <:+: text := by
  fun_induction blockEnd nested depth place text with
  | case1 | case2 => cases hend
  | case3 depth place c d rest _ ih =>
      exact (ih hend).trans ((List.suffix_cons d rest).trans (List.suffix_cons c _)).isInfix
  | case4 place c d rest _ hcloses =>
      obtain ⟨hc, hd⟩ := Bool.and_eq_true_iff.mp hcloses
      rw [beq_iff_eq.mp hc, beq_iff_eq.mp hd]
      exact (List.prefix_append ['*', '/'] rest).isInfix
  | case5 place c d rest _ hcloses =>
      obtain ⟨hc, hd⟩ := Bool.and_eq_true_iff.mp hcloses
      rw [beq_iff_eq.mp hc, beq_iff_eq.mp hd]
      exact (List.prefix_append ['*', '/'] rest).isInfix
  | case6 depth place c d rest _ _ ih => exact (ih hend).trans (List.suffix_cons c _).isInfix

/-! ## In front of a statement -/

variable {tokens : List Located}

theorem returnEndsComment_eq (hdialect : dialect ≠ .postgres) :
    (Lexicon.of dialect).returnEndsComment = false := by
  cases dialect with
  | postgres => exact absurd rfl hdialect
  | mysql | sqlite | oracle | sqlServer => rfl

theorem returnEndsComment_of_hashComments (hhash : (Lexicon.of dialect).hashComments = true) :
    (Lexicon.of dialect).returnEndsComment = false := by
  cases dialect with
  | mysql => rfl
  | postgres | sqlite | oracle | sqlServer => cases hhash

theorem readGap?_of_beginsName {c : Char} (hspace : Text.isSpace c = true)
    (hname : (Lexicon.of dialect).beginsName c = true) (rest : List Char) (place : Place) :
    readGap? (Lexicon.of dialect) ⟨c :: rest, place⟩ = none := by
  have hne {d : Char} (hd : ∀ dialect, (Lexicon.of dialect).beginsName d = false) : c ≠ d := by
    rintro rfl
    rw [hd dialect] at hname
    cases hname
  have hfeed : c ≠ '\n' := hne fun dialect => by cases dialect <;> rfl
  have hreturn : c ≠ '\r' := hne fun dialect => by cases dialect <;> rfl
  have hblank : c ≠ ' ' := hne fun dialect => by cases dialect <;> rfl
  have htab : c ≠ '\t' := hne fun dialect => by cases dialect <;> rfl
  have hdash : c ≠ '-' := ReadsOn.ne_of_isSpace hspace (by decide)
  have hslash : c ≠ '/' := ReadsOn.ne_of_isSpace hspace (by decide)
  have hhash : c ≠ '#' := ReadsOn.ne_of_isSpace hspace (by decide)
  simp [readGap?, hreturn, hblank, htab, hdash, hslash, hhash, hname]

/-- Where a token is read first, a statement begins there: with a parenthesis or with a word. -/
def BeginsStatement (lexicon : Lexicon) (tokens : List Located) : Prop :=
  ∀ c rest, ReadsOn lexicon tokens (c :: rest) → c ≠ ';' →
    (∀ place, readGap? lexicon ⟨c :: rest, place⟩ = none) →
    (c = '(' ∨ WordHead c) ∧ Text.isSpace c = false

/-- Where a token is read first, it is the given word. -/
def BeginsWith (lexicon : Lexicon) (tokens : List Located) (word : String) : Prop :=
  ∀ c rest, ReadsOn lexicon tokens (c :: rest) → c ≠ ';' →
    (∀ place, readGap? lexicon ⟨c :: rest, place⟩ = none) →
    keywordOf (c :: rest.takeWhile lexicon.continuesName) = word

theorem BeginsWith.beginsStatement {word : String} (hbegins : BeginsWith lexicon tokens word)
    (hword : lettersOnly word = true) : BeginsStatement lexicon tokens := by
  intro c rest hreads hc hgap
  have hkeyword := hbegins c rest hreads hc hgap
  rw [← hkeyword] at hword
  exact ⟨.inr (wordHead_of_lettersOnly hword), isSpace_of_lettersOnly hword⟩

theorem beginsStatement_of_treesOf {text : String} {tree : Tree} {others : List Tree}
    (htokens : tokensOf (Lexicon.of dialect) text = .ok tokens)
    (htrees : treesOf dialect text = .ok (tree :: others)) :
    BeginsStatement (Lexicon.of dialect) tokens := by
  intro c rest hreads hc hgap
  obtain ⟨_, remaining, hsame, hlist⟩ := treesOf_eq_ok.mp htrees
  rw [htokens] at hsame
  cases hsame
  obtain ⟨previous, place, token, after, first, more, htoken, -, hfits⟩ :=
    hreads.first_tree hc hgap hlist
  split at hfits
  next hparenthesis =>
    have hsign : c = '(' := sign_of_readToken htoken (by decide) hparenthesis
    exact ⟨.inl hsign, by rw [hsign]; rfl⟩
  next =>
    obtain ⟨hhead, -, -, rfl⟩ := word_of_readToken htoken hfits.lettersOnly
    exact ⟨.inr hhead, isSpace_of_lettersOnly hfits.lettersOnly⟩

namespace BeginsStatement

variable {c : Char} {rest text : List Char}

theorem ne (hbegins : BeginsStatement lexicon tokens) (hreads : ReadsOn lexicon tokens (c :: rest))
    (hc : c ≠ ';') (hgap : ∀ place, readGap? lexicon ⟨c :: rest, place⟩ = none) {d : Char}
    (hd : d ≠ '(' ∧ d.isAlpha = false ∧ d.toNat < 128) : c ≠ d := by
  rcases (hbegins c rest hreads hc hgap).1 with rfl | hhead
  · exact hd.1.symm
  · exact hhead.ne hd.2

theorem dropWhile
    (hbegins : BeginsStatement (Lexicon.of dialect) tokens)
    {layout : Char → Bool} (hlayout : ∀ d, layout d = true → Text.isSpace d = true ∨ d = ';')
    (hfeed : layout '\n' = true) (hreads : ReadsOn (Lexicon.of dialect) tokens text) :
    ReadsOn (Lexicon.of dialect) tokens (text.dropWhile layout) := by
  have hpassed : ReadsOn (Lexicon.of dialect) tokens
      (text.dropWhile fun d => layout d && (Lexicon.of dialect).passes d) := by
    apply hreads.dropWhile
    · intro d hd
      exact Lexicon.passes_iff.mp (Bool.and_eq_true_iff.mp hd).2
    · exact Bool.and_eq_true_iff.mpr ⟨hfeed, Lexicon.passes_feed dialect⟩
  rwa [Text.dropWhile_eq_dropWhile fun d hd => (Bool.and_eq_true_iff.mp hd).1]
  -- White space that begins a name would be the head of a word.
  intro d hd
  obtain ⟨more, hmore⟩ := List.head?_eq_some_iff.mp hd
  rw [hmore] at hpassed
  have hstops := List.head?_dropWhile_not
    (fun d => layout d && (Lexicon.of dialect).passes d) text
  rw [hmore] at hstops
  rw [← Bool.not_eq_true]
  intro hd
  have hpasses : ¬ (Lexicon.of dialect).passes d = true := by simpa [hd] using hstops
  rw [Lexicon.passes_iff, not_or, not_and, Bool.not_eq_false] at hpasses
  obtain ⟨hname, hsemicolon⟩ := hpasses
  have hspace : Text.isSpace d = true := (hlayout d hd).resolve_right hsemicolon
  have hother := (hbegins d more hpassed hsemicolon
    (readGap?_of_beginsName hspace (hname hspace) more)).2
  rw [hspace] at hother
  cases hother

theorem lineComment (hbegins : BeginsStatement (Lexicon.of dialect) tokens) {line : List Char}
    (hreturn : (Lexicon.of dialect).returnEndsComment = true →
      '\r' ∉ line.takeWhile (· != '\n'))
    (hreads : ReadsOn (Lexicon.of dialect) tokens ('-' :: '-' :: line)) :
    ReadsOn (Lexicon.of dialect) tokens (Text.dropThrough ['\n'] line) := by
  have hlength := Text.length_dropThrough_le ['\n'] line
  by_cases hblank :
      ((Lexicon.of dialect).dashesNeedBlank && line.head? != some ' ') = true
  · have hnone (place : Place) :
        readGap? (Lexicon.of dialect) ⟨'-' :: '-' :: line, place⟩ = none := by
      simp only [readGap?]
      rw [if_pos hblank]
    exact absurd rfl (hbegins.ne hreads (by decide) hnone (by decide))
  · refine hreads.gap (by rw [List.length_cons]; omega) fun place => ?_
    obtain ⟨after, hline⟩ := exists_lineEnd (Lexicon.of dialect)
      ⟨'-' :: '-' :: line, place⟩ (by simpa using hreturn)
    rw [Text.dropThrough_cons_of_ne (by decide), Text.dropThrough_cons_of_ne (by decide)] at hline
    refine ⟨.blank, after, ?_⟩
    simp only [readGap?]
    rw [if_neg hblank, hline]

theorem hashComment (hbegins : BeginsStatement (Lexicon.of dialect) tokens) {line : List Char}
    (hreads : ReadsOn (Lexicon.of dialect) tokens ('#' :: line)) :
    ReadsOn (Lexicon.of dialect) tokens (Text.dropThrough ['\n'] line) := by
  have hgap (place : Place) : readGap? (Lexicon.of dialect) ⟨'#' :: line, place⟩ =
      if (Lexicon.of dialect).hashComments then
        some (.ok (.blank, lineEnd (Lexicon.of dialect) ⟨'#' :: line, place⟩))
      else none := by
    have hspace : Text.isSpace '#' = false := by decide
    simp [readGap?, hspace]
  by_cases hhash : (Lexicon.of dialect).hashComments = true
  · refine hreads.gap (Text.length_dropThrough_le _ _) fun place => ?_
    obtain ⟨after, hline⟩ := exists_lineEnd (Lexicon.of dialect)
      ⟨'#' :: line, place⟩ (by simp [returnEndsComment_of_hashComments hhash])
    rw [Text.dropThrough_cons_of_ne (by decide)] at hline
    exact ⟨.blank, after, by rw [hgap, if_pos hhash, hline]⟩
  · have hnone (place : Place) :
        readGap? (Lexicon.of dialect) ⟨'#' :: line, place⟩ = none := by
      rw [hgap, if_neg hhash]
    exact absurd rfl (hbegins.ne hreads (by decide) hnone (by decide))

end BeginsStatement

theorem ReadsOn.blockComment {inside rest : List Char}
    (hclosing : ¬ ['*', '/'] <:+: inside ++ ['*'])
    (hopening : lexicon.nestedComments = true → ¬ ['/', '*'] <:+: inside ++ ['*'])
    (hreads : ReadsOn lexicon tokens ('/' :: '*' :: (inside ++ '*' :: '/' :: rest))) :
    ReadsOn lexicon tokens rest := by
  refine hreads.gap (by simp; omega) fun place => ?_
  obtain ⟨after, hafter⟩ := exists_blockEnd hclosing hopening
    ((place.after '/').after '*') rest
  have hplace : (Cursor.drop 2 ⟨'/' :: '*' :: (inside ++ '*' :: '/' :: rest), place⟩).place =
      (place.after '/').after '*' := rfl
  refine ⟨.blank, after, ?_⟩
  simp only [readGap?]
  rw [hplace, hafter]

theorem ReadsOn.infix_of_blockComment {inside : List Char}
    (hreads : ReadsOn lexicon tokens ('/' :: '*' :: inside)) : ['*', '/'] <:+: inside := by
  obtain ⟨read, gap, place, steps, hsteps, -, hall⟩ := hreads
  obtain ⟨fewer, rfl⟩ : ∃ fewer, steps = fewer + 1 :=
    ⟨steps - 1, by rw [List.length_cons] at hsteps; omega⟩
  have hdrop : Cursor.drop 2 ⟨'/' :: '*' :: inside, place⟩ =
      ⟨inside, (place.after '/').after '*'⟩ := rfl
  simp only [readAll, readGap?, hdrop] at hall
  cases hend : blockEnd lexicon.nestedComments 0 ((place.after '/').after '*') inside with
  | some after => exact infix_of_blockEnd hend
  | none =>
      rw [hend] at hall
      cases hall

end SqlPipe.Sql
