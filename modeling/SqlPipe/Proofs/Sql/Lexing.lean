import SqlPipe.Sql.Token.Lexer
import Mathlib.Data.List.Basic
import Mathlib.Data.List.TakeWhile

/-!
# Reading words

A word is read as a whole when nothing that continues it follows.  What was read stays in front of
everything that is read later.
-/

namespace SqlPipe.Sql

variable {lexicon : Lexicon} {dialect : Dialect}

/-! ## Characters -/

def Place.afterAll (place : Place) (passed : List Char) : Place :=
  passed.foldl Place.after place

@[simp] theorem Place.afterAll_nil (place : Place) : place.afterAll [] = place := rfl

@[simp] theorem Place.afterAll_cons (place : Place) (c : Char) (passed : List Char) :
    place.afterAll (c :: passed) = (place.after c).afterAll passed := rfl

@[simp] theorem Place.afterAll_append (place : Place) (passed others : List Char) :
    place.afterAll (passed ++ others) = (place.afterAll passed).afterAll others :=
  List.foldl_append

theorem spanOnto_append
    {keep : Char → Option Char → Bool} {word behind : List Char} (taken : List Char)
    (place : Place) (hword : ∀ c ∈ word, ∀ next, keep c next = true)
    (hbehind : ∀ c ∈ behind.head?, ∀ next, keep c next = false) :
    Cursor.spanOnto keep taken place (word ++ behind) =
      (taken.reverse ++ word, ⟨behind, place.afterAll word⟩) := by
  induction word generalizing taken place with
  | nil =>
      cases behind with
      | nil => simp [Cursor.spanOnto, Place.afterAll]
      | cons c behind =>
          have hstop : keep c behind.head? = false := hbehind c rfl _
          simp [Cursor.spanOnto, hstop, Place.afterAll]
  | cons c word ih =>
      have hgo : keep c (word ++ behind).head? = true := hword c List.mem_cons_self _
      rw [List.cons_append, Cursor.spanOnto, if_pos hgo,
        ih (c :: taken) (place.after c) fun d hd => hword d (List.mem_cons_of_mem c hd)]
      simp [Place.afterAll]

theorem isAlpha_iff {c : Char} :
    c.isAlpha = true ↔
      (65 ≤ c.toNat ∧ c.toNat ≤ 90) ∨ (97 ≤ c.toNat ∧ c.toNat ≤ 122) := by
  have hcases : c.isAlpha = (c.isUpper || c.isLower) := rfl
  have hupper : c.isUpper = decide (c.val ≥ 65 ∧ c.val ≤ 90) := rfl
  have hlower : c.isLower = (decide (c.val ≥ 97) && decide (c.val ≤ 122)) := rfl
  rw [hcases, hupper, hlower]
  simp [UInt32.le_iff_toNat_le, ← Char.toNat_val]

theorem isLower_iff {c : Char} : c.isLower = true ↔ 97 ≤ c.toNat ∧ c.toNat ≤ 122 := by
  have hlower : c.isLower = (decide (c.val ≥ 97) && decide (c.val ≤ 122)) := rfl
  rw [hlower]
  simp [UInt32.le_iff_toNat_le, ← Char.toNat_val]

theorem isAlpha_of_isLower {c : Char} (hc : c.isLower = true) : c.isAlpha = true :=
  isAlpha_iff.mpr (.inr (isLower_iff.mp hc))

theorem isDigit_iff {c : Char} : c.isDigit = true ↔ 48 ≤ c.toNat ∧ c.toNat ≤ 57 := by
  simp [Char.isDigit, UInt32.le_iff_toNat_le, ← Char.toNat_val]

/-- A letter is none of the characters with a meaning of their own. -/
theorem ne_of_isAlpha {c d : Char} (hc : c.isAlpha = true) (hd : d.isAlpha = false) : c ≠ d := by
  rintro rfl
  rw [hc] at hd
  cases hd

theorem isDigit_of_isAlpha {c : Char} (hc : c.isAlpha = true) : c.isDigit = false := by
  rw [isAlpha_iff] at hc
  rw [← Bool.not_eq_true, isDigit_iff]
  omega

theorem isSpace_of_isAlpha {c : Char} (hc : c.isAlpha = true) : Text.isSpace c = false := by
  rw [isAlpha_iff] at hc
  simp only [Text.isSpace, Bool.or_eq_false_iff, Bool.and_eq_false_iff, decide_eq_false_iff_not,
    beq_eq_false_iff_ne]
  omega

theorem isAlphabetic_of_isAlpha {c : Char} (hc : c.isAlpha = true) :
    Text.isAlphabetic c = true := by
  have hcode := isAlpha_iff.mp hc
  rw [Text.isAlphabetic, if_pos (by omega), hc]

theorem isAlphabetic_of_isSpace {c : Char} (hc : Text.isSpace c = true) :
    Text.isAlphabetic c = false := by
  have htable : ∀ code ∈
      [0x85, 0xA0, 0x1680, 0x2028, 0x2029, 0x202F, 0x205F, 0x3000] ++ List.range' 0x2000 11,
      Text.inRanges code Text.alphabeticRanges = false := by decide +kernel
  unfold Text.isAlphabetic
  split
  next =>
    rw [← Bool.not_eq_true]
    intro hletter
    rw [isSpace_of_isAlpha hletter] at hc
    cases hc
  next hbeyond =>
    apply htable
    simp only [Text.isSpace, Bool.or_eq_true, Bool.and_eq_true, decide_eq_true_eq,
      beq_iff_eq] at hc
    simp only [List.mem_append, List.mem_cons, List.not_mem_nil, List.mem_range'_1]
    omega

theorem beginsName_of_isAlpha {c : Char} (hc : c.isAlpha = true) :
    (Lexicon.of dialect).beginsName c = true := by
  have halphabetic := isAlphabetic_of_isAlpha hc
  cases dialect <;> simp [Lexicon.of, Lexicon.shared, hc, halphabetic]

theorem continuesName_of_isAlpha {c : Char} (hc : c.isAlpha = true) :
    (Lexicon.of dialect).continuesName c = true := by
  have halphabetic := isAlphabetic_of_isAlpha hc
  cases dialect <;> simp [Lexicon.of, Lexicon.shared, hc, halphabetic]

/-! ## Words -/

def lettersOnly (word : String) : Bool :=
  !word.toList.isEmpty && word.toList.all Char.isAlpha

/-- A letter, or a character beyond ASCII: nothing but a word begins with it. -/
def WordHead (c : Char) : Prop := c.isAlpha = true ∨ 128 ≤ c.toNat

theorem WordHead.ne {c d : Char} (hc : WordHead c) (hd : d.isAlpha = false ∧ d.toNat < 128) :
    c ≠ d := by
  rintro rfl
  rcases hc with hletter | hbeyond
  · rw [hd.1] at hletter
    cases hletter
  · exact absurd hd.2 (Nat.not_lt.mpr hbeyond)

theorem WordHead.isDigit {c : Char} (hc : WordHead c) : c.isDigit = false := by
  rcases hc with hletter | hbeyond
  · exact isDigit_of_isAlpha hletter
  · rw [← Bool.not_eq_true, isDigit_iff]
    omega

theorem WordHead.opensName {c : Char} (hc : WordHead c) :
    (Lexicon.of dialect).opensName c = false := by
  have hdouble : c ≠ '\x22' := hc.ne (by decide)
  have hback : c ≠ '\x60' := hc.ne (by decide)
  have hbracket : c ≠ '[' := hc.ne (by decide)
  cases dialect <;> simp [Lexicon.of, Lexicon.shared, hdouble, hback, hbracket]

theorem WordHead.find?
    {c : Char} (hc : WordHead c) (rest : List Char) (spellings : List Spelling)
    (hspellings : spellings.all fun spelling =>
      spelling.text.head?.any fun d => !d.isAlpha && d.toNat < 128) :
    Spelling.find? lexicon (c :: rest) spellings = none := by
  rw [Spelling.find?, List.find?_eq_none]
  intro spelling hmem
  have hhead := List.all_eq_true.mp hspellings spelling hmem
  cases htext : spelling.text with
  | nil => simp [htext] at hhead
  | cons d more =>
      have hne : c ≠ d := hc.ne (by simpa [htext] using hhead)
      simp [Text.startsWith, Text.after?, hne.symm]

theorem WordHead.readOperator?
    {c : Char} (hc : WordHead c) (rest : List Char) (place : Place) :
    readOperator? lexicon ⟨c :: rest, place⟩ = none := by
  have hat : c ≠ '@' := hc.ne (by decide)
  have hhash : c ≠ '#' := hc.ne (by decide)
  have hslash : c ≠ '/' := hc.ne (by decide)
  have hcompound : Spelling.find? lexicon (c :: rest) Spelling.compound = none :=
    hc.find? rest Spelling.compound (by decide)
  have hsingle : Spelling.find? lexicon (c :: rest) Spelling.single = none :=
    hc.find? rest Spelling.single (by decide)
  simp [Sql.readOperator?, signedName?, hcompound, hsingle, hat, hhash, hslash]

/-- A character that begins a name begins a word, unless it announces a literal. -/
theorem WordHead.readToken
    {c : Char} (hc : WordHead c) (hbegins : (Lexicon.of dialect).beginsName c = true)
    {rest : List Char} {place : Place}
    (hannounced : readAnnounced? (Lexicon.of dialect) ⟨c :: rest, place⟩ = none)
    (previous : Previous) :
    readToken (Lexicon.of dialect) previous c ⟨c :: rest, place⟩ =
      .ok (readWord (Lexicon.of dialect) [c] ⟨rest, place.after c⟩) := by
  have hsingle : c ≠ '\x27' := hc.ne (by decide)
  have hperiod : c ≠ '.' := hc.ne (by decide)
  have hquestion : c ≠ '?' := hc.ne (by decide)
  simp [Sql.readToken, hannounced, hsingle, hperiod, hquestion, hc.opensName, hbegins, hc.isDigit,
    hc.readOperator?, Cursor.skip]

/-- No quote follows, so that a letter announces no literal. -/
def AnnouncesNothing (rest : List Char) : Prop :=
  ∀ d ∈ rest.head?, d ≠ '\x27' ∧ d ≠ '\x22' ∧ d ≠ '&'

theorem announcesNothing_append
    {more behind : List Char} (hmore : ∀ d ∈ more, d.isAlpha = true)
    (hbehind : AnnouncesNothing behind) : AnnouncesNothing (more ++ behind) := by
  cases more with
  | nil => exact hbehind
  | cons d more =>
      intro e he
      obtain rfl : d = e := by simpa using he
      have hd := hmore d List.mem_cons_self
      exact ⟨ne_of_isAlpha hd (by decide), ne_of_isAlpha hd (by decide),
        ne_of_isAlpha hd (by decide)⟩

theorem readAnnounced?_eq_none
    {rest : List Char} (hrest : AnnouncesNothing rest) (c : Char) (place : Place) :
    readAnnounced? lexicon ⟨c :: rest, place⟩ = none := by
  cases rest with
  | nil => simp [readAnnounced?]
  | cons d rest =>
      obtain ⟨hsingle, hdouble, hand⟩ := hrest d rfl
      simp [readAnnounced?, hsingle, hdouble, hand]

theorem readGap?_of_isAlpha
    {c : Char} (hc : c.isAlpha = true) (rest : List Char) (place : Place) :
    readGap? lexicon ⟨c :: rest, place⟩ = none := by
  have hfeed := ne_of_isAlpha hc (d := '\n') (by decide)
  have hreturn := ne_of_isAlpha hc (d := '\r') (by decide)
  have hdash := ne_of_isAlpha hc (d := '-') (by decide)
  have hslash := ne_of_isAlpha hc (d := '/') (by decide)
  have hblank := ne_of_isAlpha hc (d := ' ') (by decide)
  have htab := ne_of_isAlpha hc (d := '\t') (by decide)
  have hhash := ne_of_isAlpha hc (d := '#') (by decide)
  have hspace := isSpace_of_isAlpha hc
  simp [readGap?, hreturn, hdash, hslash, hblank, htab, hhash, hspace]

def wordToken (word : List Char) : Token := .word (String.ofList word) none (keywordOf word)

/-- What stands behind a word does not continue it. -/
def EndsWord (lexicon : Lexicon) (behind : List Char) : Prop :=
  ∀ c ∈ behind.head?, lexicon.continuesName c = false

theorem readWord_append
    {word behind : List Char} (hword : ∀ d ∈ word, lexicon.continuesName d = true)
    (hbehind : EndsWord lexicon behind) (c : Char) (place : Place) :
    readWord lexicon [c] ⟨word ++ behind, place⟩ =
      (wordToken (c :: word), ⟨behind, place.afterAll word⟩) := by
  have hspan : Cursor.spanOnto (fun d _ => lexicon.continuesName d) [] place (word ++ behind) =
      (word, ⟨behind, place.afterAll word⟩) :=
    spanOnto_append [] _ (fun d hd _ => hword d hd) (fun d hd _ => hbehind d hd)
  simp [readWord, Cursor.span, hspan, wordToken]

theorem readToken_word
    {c : Char} {more behind : List Char} (hc : c.isAlpha = true)
    (hmore : ∀ d ∈ more, (Lexicon.of dialect).continuesName d = true)
    (hbehind : EndsWord (Lexicon.of dialect) behind)
    (hnothing : AnnouncesNothing (more ++ behind)) (previous : Previous) (place : Place) :
    readToken (Lexicon.of dialect) previous c ⟨c :: (more ++ behind), place⟩ =
      .ok (wordToken (c :: more), ⟨behind, place.afterAll (c :: more)⟩) := by
  rw [WordHead.readToken (.inl hc) (beginsName_of_isAlpha hc) (readAnnounced?_eq_none hnothing c _),
    readWord_append hmore hbehind, Place.afterAll_cons]

/-! ## Texts -/

theorem prefix_of_readAll
    {read tokens : List Located} {gap : Gap} {cursor : Cursor} {steps : ℕ}
    (hread : readAll lexicon read gap cursor steps = .ok tokens) : read.reverse <+: tokens := by
  fun_induction readAll lexicon read gap cursor steps with
  | case1 => exact ⟨[], by simpa using hread⟩
  | case2 => exact ⟨[], by simpa using hread⟩
  | case3 => rename_i ih; exact ih hread
  | case4 => cases hread
  | case5 read gap cursor steps c rest hrest hgap previous token after htoken ih =>
      have hlonger := ih hread
      rw [List.reverse_cons] at hlonger
      exact (List.prefix_append _ _).trans hlonger
  | case6 => cases hread

/-- A text that begins with a word is refused, or its first token is that word. -/
theorem exists_tokensOf_word
    {c : Char} {more behind : List Char} (hc : c.isAlpha = true)
    (hmore : ∀ d ∈ more, (Lexicon.of dialect).continuesName d = true)
    (hbehind : EndsWord (Lexicon.of dialect) behind)
    (hnothing : AnnouncesNothing (more ++ behind)) {text : String}
    (htext : text.toList = c :: (more ++ behind)) {tokens : List Located}
    (htokens : tokensOf (Lexicon.of dialect) text = .ok tokens) :
    ∃ others, tokens = ⟨wordToken (c :: more), ⟨1, 1⟩, .none⟩ :: others := by
  have htoken := readToken_word hc hmore hbehind hnothing none ⟨1, 1⟩
  unfold tokensOf at htokens
  rw [htext] at htokens
  simp only [List.length_cons, Cursor.start, readAll, readGap?_of_isAlpha hc, if_pos,
    List.head?_nil, Option.map_none, htoken] at htokens
  obtain ⟨others, hothers⟩ := prefix_of_readAll htokens
  exact ⟨others, hothers.symm⟩

end SqlPipe.Sql
