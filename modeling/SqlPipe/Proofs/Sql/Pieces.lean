import SqlPipe.Proofs.Sql.Lexing

/-!
# Texts piece by piece

A text that is put together from the texts of tokens and from blanks is read back as these tokens,
if each of them is read in front of what follows it.
-/

namespace SqlPipe.Sql

/-- A part of a text that is put together. -/
inductive Piece
  | blank
  | lexeme (text : List Char) (token : Token)

namespace Piece

def chars : Piece → List Char
  | blank => [' ']
  | lexeme text _ => text

def token? : Piece → Option Token
  | blank => none
  | lexeme _ token => some token

end Piece

def charsOf (pieces : List Piece) : List Char := pieces.flatMap Piece.chars

def tokensIn (pieces : List Piece) : List Token := pieces.filterMap Piece.token?

@[simp] theorem charsOf_nil : charsOf [] = [] := rfl

@[simp] theorem charsOf_cons (piece : Piece) (pieces : List Piece) :
    charsOf (piece :: pieces) = piece.chars ++ charsOf pieces := rfl

@[simp] theorem charsOf_append (pieces others : List Piece) :
    charsOf (pieces ++ others) = charsOf pieces ++ charsOf others :=
  List.flatMap_append

@[simp] theorem tokensIn_nil : tokensIn [] = [] := rfl

@[simp] theorem tokensIn_blank (pieces : List Piece) :
    tokensIn (.blank :: pieces) = tokensIn pieces := rfl

@[simp] theorem tokensIn_lexeme (text : List Char) (token : Token) (pieces : List Piece) :
    tokensIn (.lexeme text token :: pieces) = token :: tokensIn pieces := rfl

@[simp] theorem tokensIn_append (pieces others : List Piece) :
    tokensIn (pieces ++ others) = tokensIn pieces ++ tokensIn others :=
  List.filterMap_append

/-- The text is read as the token, behind the given token and in front of the given text. -/
structure ReadsAs (lexicon : Lexicon) (previous : Previous) (text : List Char) (token : Token)
    (behind : List Char) : Prop where
  nonempty : text ≠ []
  noGap : ∀ place, readGap? lexicon ⟨text ++ behind, place⟩ = none
  reading : ∀ c more, text = c :: more → ∀ place,
    readToken lexicon previous c ⟨text ++ behind, place⟩ =
      .ok (token, ⟨behind, place.afterAll text⟩)

def previousAfter (previous : Previous) (pieces : List Piece) : Previous :=
  match pieces.getLast? with
  | none => previous
  | some piece => piece.token?

/-- Each token of the pieces is read in front of what follows it. -/
def Lexes (lexicon : Lexicon) : Previous → List Piece → List Char → Prop
  | _, [], _ => True
  | _, .blank :: pieces, behind => Lexes lexicon none pieces behind
  | previous, .lexeme text token :: pieces, behind =>
      ReadsAs lexicon previous text token (charsOf pieces ++ behind) ∧
        Lexes lexicon (some token) pieces behind

variable {lexicon : Lexicon}

theorem previousAfter_cons (previous : Previous) (piece : Piece) (pieces : List Piece) :
    previousAfter previous (piece :: pieces) = previousAfter piece.token? pieces := by
  cases pieces with
  | nil => rfl
  | cons other pieces => simp [previousAfter, List.getLast?_cons]

theorem lexes_append {previous : Previous} {pieces others : List Piece} {behind : List Char} :
    Lexes lexicon previous (pieces ++ others) behind ↔
      Lexes lexicon previous pieces (charsOf others ++ behind) ∧
        Lexes lexicon (previousAfter previous pieces) others behind := by
  induction pieces generalizing previous with
  | nil => simp [Lexes, previousAfter]
  | cons piece pieces ih =>
      rw [previousAfter_cons]
      cases piece with
      | blank => exact ih
      | lexeme text token =>
          simp only [List.cons_append, Lexes, charsOf_append, List.append_assoc]
          rw [and_assoc]
          exact and_congr_right fun _ => ih

/-! ## Lists of pieces -/

theorem intercalate_cons {α : Type} (separator item : List α) (items : List (List α)) :
    separator.intercalate (item :: items) = item ++ items.flatMap (separator ++ ·) := by
  induction items generalizing item with
  | nil => simp
  | cons other items ih =>
      rw [List.intercalate_cons_cons, ih, List.flatMap_cons, List.append_assoc, List.append_assoc]

theorem length_le_intercalate {α : Type} {separator : List α} (hseparator : separator ≠ [])
    (items : List (List α)) : items.length ≤ (separator.intercalate items).length + 1 := by
  cases items with
  | nil => exact Nat.zero_le _
  | cons item items =>
      have hpos := List.length_pos_of_ne_nil hseparator
      have hmore : items.length ≤ (items.flatMap (separator ++ ·)).length := by
        induction items with
        | nil => rfl
        | cons other items ih =>
            rw [List.flatMap_cons, List.length_append, List.length_append, List.length_cons]
            omega
      rw [intercalate_cons, List.length_append, List.length_cons]
      omega

theorem length_le_of_mem_intercalate {α : Type} (separator : List α) {item : List α}
    {items : List (List α)} (hitem : item ∈ items) :
    item.length ≤ (separator.intercalate items).length := by
  induction items with
  | nil => cases hitem
  | cons other items ih =>
      rcases List.mem_cons.mp hitem with rfl | hmore
      · rw [intercalate_cons, List.length_append]
        exact Nat.le_add_right _ _
      · obtain ⟨next, items, rfl⟩ := List.exists_cons_of_ne_nil (List.ne_nil_of_mem hmore)
        rw [List.intercalate_cons_cons, List.length_append]
        exact Nat.le_add_left_of_le (ih hmore)

theorem charsOf_intercalate (separator : List Piece) (items : List (List Piece)) :
    charsOf (separator.intercalate items) =
      (charsOf separator).intercalate (items.map charsOf) := by
  cases items with
  | nil => rfl
  | cons item items =>
      rw [List.map_cons, intercalate_cons, intercalate_cons, charsOf_append, List.flatMap_map]
      congr 1
      induction items with
      | nil => rfl
      | cons other items ih => simp [ih]

theorem tokensIn_intercalate (separator : List Piece) (items : List (List Piece)) :
    tokensIn (separator.intercalate items) =
      (tokensIn separator).intercalate (items.map tokensIn) := by
  cases items with
  | nil => rfl
  | cons item items =>
      rw [List.map_cons, intercalate_cons, intercalate_cons, tokensIn_append, List.flatMap_map]
      congr 1
      induction items with
      | nil => rfl
      | cons other items ih => simp [ih]

theorem lexes_intercalate
    {fits : List Char → Prop} {separator : List Piece} {items : List (List Piece)}
    (hseparator : ∀ item ∈ items, ∀ previous behind,
      Lexes lexicon previous separator (charsOf item ++ behind))
    (hfits : ∀ behind, fits (charsOf separator ++ behind))
    (hitems : ∀ item ∈ items, ∀ ⦃previous behind⦄, fits behind →
      Lexes lexicon previous item behind)
    {previous : Previous} {behind : List Char} (hbehind : fits behind) :
    Lexes lexicon previous (separator.intercalate items) behind := by
  induction items generalizing previous with
  | nil => trivial
  | cons item items ih =>
      have hitem := hitems item List.mem_cons_self
      cases items with
      | nil => simpa using hitem hbehind
      | cons other items =>
          have hothers (previous : Previous) :
              Lexes lexicon previous (separator.intercalate (other :: items)) behind :=
            ih (fun item h => hseparator item (List.mem_cons_of_mem _ h))
              (fun item h => hitems item (List.mem_cons_of_mem _ h))
          have hbetween := hseparator other (List.mem_cons_of_mem _ List.mem_cons_self)
            (previousAfter previous item) (charsOf (items.flatMap (separator ++ ·)) ++ behind)
          rw [List.intercalate_cons_cons, List.append_assoc, lexes_append, lexes_append]
          refine ⟨?_, ?_, hothers _⟩
          · rw [charsOf_append, List.append_assoc]
            exact hitem (hfits _)
          · rw [intercalate_cons, charsOf_append, List.append_assoc]
            exact hbetween

/-! ## Whole texts -/

/-- Pieces are read as their tokens, whatever the number of rounds, if there are enough of them. -/
theorem readAll_charsOf
    {previous : Previous} {pieces : List Piece} {rounds : ℕ} (read : List Located) (gap : Gap)
    (hprevious : previous = if gap = .none then read.head?.map Located.token else none)
    (hlexes : Lexes lexicon previous pieces []) (hrounds : pieces.length ≤ rounds) (place : Place) :
    ∃ located, readAll lexicon read gap ⟨charsOf pieces, place⟩ rounds =
        .ok (read.reverse ++ located) ∧
      located.map Located.token = tokensIn pieces := by
  -- The token in front of the cursor matters only where no gap stands between.
  induction pieces generalizing read gap previous rounds place with
  | nil =>
      refine ⟨[], ?_, rfl⟩
      rw [List.append_nil]
      cases rounds <;> rfl
  | cons piece pieces ih =>
      obtain ⟨rounds, rfl⟩ : ∃ fewer, rounds = fewer + 1 :=
        ⟨rounds - 1, by rw [List.length_cons] at hrounds; omega⟩
      have hfewer : pieces.length ≤ rounds := by simpa using hrounds
      cases piece with
      | blank =>
          have hgap : gap.join .blank ≠ .none := by cases gap <;> decide
          exact ih _ _ (by rw [if_neg hgap]) hlexes hfewer _
      | lexeme text token =>
          obtain ⟨hreads, hothers⟩ := hlexes
          obtain ⟨c, more, rfl⟩ := List.exists_cons_of_ne_nil hreads.nonempty
          have hnoGap := hreads.noGap place
          have hreading := hreads.reading c more rfl place
          rw [List.append_nil] at hnoGap hreading
          have hlast : some token = if Gap.none = .none then
              (⟨token, place, gap⟩ :: read).head?.map Located.token else none := by
            simp
          obtain ⟨located, hlocated, htokens⟩ :=
            ih _ _ hlast hothers hfewer (place.afterAll (c :: more))
          refine ⟨⟨token, place, gap⟩ :: located, ?_, by simpa using htokens⟩
          rw [List.reverse_cons, List.append_assoc, List.singleton_append] at hlocated
          rw [← hlocated]
          simp only [charsOf_cons, Piece.chars, readAll]
          rw [List.cons_append] at hnoGap hreading ⊢
          simp only [hnoGap, ← hprevious, hreading]

theorem length_le_charsOf {previous : Previous} {pieces : List Piece} {behind : List Char}
    (hlexes : Lexes lexicon previous pieces behind) : pieces.length ≤ (charsOf pieces).length := by
  induction pieces generalizing previous with
  | nil => rfl
  | cons piece pieces ih =>
      rw [charsOf_cons, List.length_cons, List.length_append]
      cases piece with
      | blank =>
          have hothers := ih hlexes
          simp only [Piece.chars, List.length_singleton]
          omega
      | lexeme text token =>
          have htext := List.length_pos_of_ne_nil hlexes.1.nonempty
          have hothers := ih hlexes.2
          simp only [Piece.chars]
          omega

theorem tokensOf_charsOf {pieces : List Piece} {text : String}
    (hlexes : Lexes lexicon none pieces []) (htext : text.toList = charsOf pieces) :
    ∃ located, tokensOf lexicon text = .ok located ∧
      located.map Located.token = tokensIn pieces := by
  have hrounds := length_le_charsOf hlexes
  obtain ⟨located, hread, htokens⟩ := readAll_charsOf [] .none rfl hlexes hrounds ⟨1, 1⟩
  refine ⟨located, ?_, htokens⟩
  rw [tokensOf, htext]
  exact hread

end SqlPipe.Sql
