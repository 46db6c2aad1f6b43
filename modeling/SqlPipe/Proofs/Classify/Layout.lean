import SqlPipe.Classify.Keywords
import SqlPipe.Proofs.Sql.Lexing
import SqlPipe.Proofs.Text.Search
import Mathlib.Data.List.Infix

/-!
# Layout in front of more text

A statement that is told by its beginning is told by the same beginning when a semicolon and more
text follow.  What is told by its end as well is not: a text of words and layout is one no longer
when the text behind the semicolon is no layout.
-/

namespace SqlPipe.Classify

variable {text tail : List Char} {c d : Char}

/-! ## White space -/

theorem trimStart_append (htrim : Text.trimStart text ≠ []) (more : List Char) :
    Text.trimStart (text ++ more) = Text.trimStart text ++ more := by
  have hempty : (text.dropWhile Text.isSpace).isEmpty = false := by
    rw [List.isEmpty_eq_false_iff]
    exact htrim
  rw [Text.trimStart, List.dropWhile_append, hempty]
  rfl

theorem trimStart_append_of_blank (htrim : Text.trimStart text = []) (more : List Char) :
    Text.trimStart (text ++ more) = Text.trimStart more := by
  have hempty : (text.dropWhile Text.isSpace).isEmpty = true := by
    rw [List.isEmpty_iff]
    exact htrim
  rw [Text.trimStart, List.dropWhile_append, hempty]
  rfl

@[simp] theorem trimStart_semicolon (tail : List Char) :
    Text.trimStart (';' :: tail) = ';' :: tail := rfl

theorem trimStart_of_isSpace (hc : Text.isSpace c = true) (rest : List Char) :
    Text.trimStart (c :: rest) = Text.trimStart rest :=
  List.dropWhile_cons_of_pos hc

theorem trimStart_of_not_isSpace (hc : Text.isSpace c = false) (rest : List Char) :
    Text.trimStart (c :: rest) = c :: rest :=
  List.dropWhile_cons_of_neg (by rw [hc]; decide)

/-! ## Comments -/

/-- A comment that ends before the text does, ends there in front of more text too. -/
theorem afterComment?_append
    {rest : List Char} (hafter : afterComment? text = some rest) (hrest : rest ≠ [])
    (more : List Char) : afterComment? (text ++ more) = some (rest ++ more) := by
  unfold afterComment? at hafter
  split at hafter
  next line =>
    cases hafter
    exact congrArg some (Text.dropThrough_append hrest more)
  next line =>
    cases hafter
    exact congrArg some (Text.dropThrough_append hrest more)
  next => cases hafter
  next inside hconditional =>
    cases hafter
    have hdrop := congrArg some (Text.dropThrough_append hrest more)
    cases inside with
    | nil => exact absurd rfl hrest
    | cons d inside =>
        have hd : d ≠ '!' := by
          rintro rfl
          exact hconditional inside rfl
        simpa [afterComment?, hd] using hdrop
  next => cases hafter

/-- The characters that tell where comments begin and end, and which of them are no layout. -/
def commentSigns : List Char := ['-', '#', '/', '*', '!']

theorem not_mem_commentSigns (hlayout : Text.isSpace d = true ∨ d = ';') : d ∉ commentSigns := by
  intro hmem
  simp only [commentSigns, List.mem_cons, List.not_mem_nil, or_false] at hmem
  rcases hmem with rfl | rfl | rfl | rfl | rfl <;> exact absurd hlayout (by decide)

/-- A character that is no sign of comments begins none, and makes none of what stands in front of
it. -/
theorem afterComment?_append_eq_none
    (hd : d ∉ commentSigns) (hafter : afterComment? text = none) (tail : List Char) :
    afterComment? (text ++ d :: tail) = none := by
  simp only [commentSigns, List.mem_cons, List.not_mem_nil, or_false, not_or] at hd
  obtain ⟨hdash, hhash, hslash, hstar, -⟩ := hd
  match text with
  | [] => simp [afterComment?, hdash, hhash, hslash]
  | [c] =>
      have hc : c ≠ '#' := by
        rintro rfl
        cases hafter
      unfold afterComment?
      split
      all_goals simp_all
  | c :: e :: rest =>
      unfold afterComment? at hafter ⊢
      split at hafter
      all_goals simp_all

/-- One more character either stands behind a comment or is part of it; a comment that it is part of
has not ended before. -/
theorem afterComment?_concat
    (hd : d ∉ commentSigns) {rest : List Char} (hafter : afterComment? text = some rest) :
    afterComment? (text ++ [d]) = some (rest ++ [d]) ∨
      rest = [] ∧ afterComment? (text ++ [d]) = some [] := by
  simp only [commentSigns, List.mem_cons, List.not_mem_nil, or_false, not_or] at hd
  obtain ⟨-, -, hslash, hstar, hmark⟩ := hd
  have hpart : d ∉ ['*', '/'] := by simp [hslash, hstar]
  unfold afterComment? at hafter
  split at hafter
  next line =>
    cases hafter
    exact (Text.dropThrough_singleton_concat '\n' d line).imp (congrArg some)
      (And.imp_right (congrArg some))
  next line =>
    cases hafter
    exact (Text.dropThrough_singleton_concat '\n' d line).imp (congrArg some)
      (And.imp_right (congrArg some))
  next => cases hafter
  next inside hconditional =>
    cases hafter
    have hdrop := Text.dropThrough_concat hpart inside
    cases inside with
    | nil =>
        have hopen : Text.dropThrough ['*', '/'] [d] = [] := by
          simp [Text.dropThrough, Text.splitAt?, Text.splitAtOnto, Text.after?, Ne.symm hstar]
        exact .inr ⟨rfl, by simp [afterComment?, hmark, hopen]⟩
    | cons e inside =>
        have he : e ≠ '!' := by
          rintro rfl
          exact hconditional inside rfl
        simpa [afterComment?, he] using hdrop
  next => cases hafter

theorem suffix_of_afterComment? {rest : List Char} (hafter : afterComment? text = some rest) :
    rest <:+ text := by
  unfold afterComment? at hafter
  split at hafter
  next line =>
    cases hafter
    exact (Text.dropThrough_suffix _ _).trans (List.suffix_append ['-', '-'] line)
  next line =>
    cases hafter
    exact (Text.dropThrough_suffix _ _).trans (List.suffix_cons '#' line)
  next => cases hafter
  next inside _ =>
    cases hafter
    exact (Text.dropThrough_suffix _ _).trans (List.suffix_append ['/', '*'] inside)
  next => cases hafter

/-! ## The body -/

theorem body_of_comment {rest : List Char}
    (hcomment : afterComment? (Text.trimStart text) = some rest) : body text = body rest := by
  rw [body]
  split
  next hafter =>
    rw [hcomment] at hafter
    cases hafter
    rfl
  next hafter =>
    rw [hcomment] at hafter
    cases hafter

theorem body_of_code (hcode : afterComment? (Text.trimStart text) = none) :
    body text = Text.trimStart text := by
  rw [body]
  split
  next hafter =>
    rw [hcode] at hafter
    cases hafter
  next => rfl

@[simp] theorem body_nil : body [] = [] := body_of_code rfl

theorem body_suffix (text : List Char) : body text <:+ text := by
  fun_induction body text with
  | case1 text rest hcomment ih =>
      exact ih.trans ((suffix_of_afterComment? hcomment).trans (List.dropWhile_suffix _))
  | case2 => exact List.dropWhile_suffix _

theorem body_append (hbody : body text ≠ []) (tail : List Char) :
    body (text ++ ';' :: tail) = body text ++ ';' :: tail := by
  fun_induction body text with
  | case1 text rest hcomment ih =>
      have htrim : Text.trimStart text ≠ [] := by
        intro hnil
        rw [hnil] at hcomment
        cases hcomment
      have hrest : rest ≠ [] := by
        rintro rfl
        exact hbody body_nil
      have hlonger := afterComment?_append hcomment hrest (';' :: tail)
      rw [← trimStart_append htrim] at hlonger
      rw [body_of_comment hlonger, ih hbody]
  | case2 text hcode =>
      have hlonger := afterComment?_append_eq_none (d := ';') (by decide) hcode tail
      rw [← trimStart_append hbody] at hlonger
      rw [body_of_code hlonger, trimStart_append hbody]

/-- White space or a semicolon at the end stands behind the body, or is layout like all before. -/
theorem body_concat (hlayout : Text.isSpace d = true ∨ d = ';') (text : List Char) :
    body (text ++ [d]) = body text ++ [d] ∨ body (text ++ [d]) = body text := by
  have hd := not_mem_commentSigns hlayout
  fun_induction body text with
  | case1 text rest hcomment ih =>
      have htrim : Text.trimStart text ≠ [] := by
        intro hnil
        rw [hnil] at hcomment
        cases hcomment
      have hlonger := trimStart_append htrim [d]
      rcases afterComment?_concat hd hcomment with hafter | ⟨rfl, hafter⟩
      · rw [← hlonger] at hafter
        rw [body_of_comment hafter]
        exact ih
      · rw [← hlonger] at hafter
        exact .inr (body_of_comment hafter)
  | case2 text hcode =>
      have hafter := afterComment?_append_eq_none hd hcode []
      by_cases htrim : Text.trimStart text = []
      · have hlonger := trimStart_append_of_blank htrim [d]
        rw [htrim] at hafter ⊢
        rcases hlayout with hspace | rfl
        · rw [trimStart_of_isSpace hspace] at hlonger
          exact .inr ((body_of_code (by rw [hlonger]; rfl)).trans hlonger)
        · exact .inl ((body_of_code (by rw [hlonger]; rfl)).trans hlonger)
      · have hlonger := trimStart_append htrim [d]
        rw [← hlonger] at hafter
        exact .inl ((body_of_code hafter).trans hlonger)

/-! ## Trailers -/

theorem isTrailer_of_blank (htrim : Text.trimStart text = []) : isTrailer text = true := by
  rw [isTrailer]
  split
  next => rfl
  next hother => rw [htrim] at hother; cases hother
  next hnil _ => exact absurd htrim hnil

theorem isTrailer_of_semicolon {rest : List Char} (htrim : Text.trimStart text = ';' :: rest) :
    isTrailer text = isTrailer rest := by
  rw [isTrailer]
  split
  next hother => rw [htrim] at hother; cases hother
  next hother =>
    rw [htrim] at hother
    cases hother
    rfl
  next hother => exact absurd htrim (hother rest)

theorem isTrailer_of_comment {rest : List Char}
    (hcomment : afterComment? (Text.trimStart text) = some rest) :
    isTrailer text = isTrailer rest := by
  rw [isTrailer]
  split
  next htrim => rw [htrim] at hcomment; cases hcomment
  next htrim => rw [htrim] at hcomment; cases hcomment
  next =>
    split
    next hafter =>
      rw [hcomment] at hafter
      cases hafter
      rfl
    next hafter =>
      rw [hcomment] at hafter
      cases hafter

theorem isTrailer_of_code {rest : List Char} (htrim : Text.trimStart text = c :: rest)
    (hsemicolon : c ≠ ';') (hcode : afterComment? (c :: rest) = none) : isTrailer text = false := by
  rw [isTrailer]
  split
  next hother => rw [htrim] at hother; cases hother
  next hother =>
    rw [htrim] at hother
    exact absurd (List.cons.inj hother).1 hsemicolon
  next =>
    split
    next hafter =>
      rw [htrim, hcode] at hafter
      cases hafter
    next => rfl

theorem isTrailer_of_letter {rest : List Char} (htrim : Text.trimStart text = c :: rest)
    (hc : Text.isAlphabetic c = true) : isTrailer text = false := by
  have hne {d : Char} (hd : Text.isAlphabetic d = false) : c ≠ d := by
    rintro rfl
    rw [hc] at hd
    cases hd
  have hdash : c ≠ '-' := hne (by decide)
  have hhash : c ≠ '#' := hne (by decide)
  have hslash : c ≠ '/' := hne (by decide)
  exact isTrailer_of_code htrim (hne (by decide)) (by simp [afterComment?, hdash, hhash, hslash])

/-- White space or a semicolon at the end makes no trailer and spoils none. -/
theorem isTrailer_concat (hlayout : Text.isSpace d = true ∨ d = ';') (text : List Char) :
    isTrailer (text ++ [d]) = isTrailer text := by
  have hd := not_mem_commentSigns hlayout
  fun_induction isTrailer text with
  | case1 text htrim =>
      have hlonger := trimStart_append_of_blank htrim [d]
      rcases hlayout with hspace | rfl
      · rw [trimStart_of_isSpace hspace] at hlonger
        rw [isTrailer_of_blank hlonger]
      · rw [isTrailer_of_semicolon hlonger, isTrailer_of_blank rfl]
  | case2 text rest htrim ih =>
      have hlonger := trimStart_append (htrim ▸ List.cons_ne_nil _ _) [d]
      rw [htrim, List.cons_append] at hlonger
      rw [isTrailer_of_semicolon hlonger, ih]
  | case3 text rest hnil hsemicolon hcomment ih =>
      have hlonger := trimStart_append hnil [d]
      rcases afterComment?_concat hd hcomment with hafter | ⟨rfl, hafter⟩
      · rw [← hlonger] at hafter
        rw [isTrailer_of_comment hafter, ih]
      · rw [← hlonger] at hafter
        rw [isTrailer_of_comment hafter]
  | case4 text hnil hsemicolon hcode =>
      have hlonger := trimStart_append hnil [d]
      have hafter := afterComment?_append_eq_none hd hcode []
      obtain ⟨c, rest, htrim⟩ := List.exists_cons_of_ne_nil hnil
      rw [htrim, List.cons_append] at hlonger hafter
      have hc : c ≠ ';' := by
        rintro rfl
        exact hsemicolon rest htrim
      exact isTrailer_of_code hlonger hc hafter

/-! ## Behind semicolons -/

theorem body_of_isSpace (hc : Text.isSpace c = true) (rest : List Char) :
    body (c :: rest) = body rest := by
  have hsame := trimStart_of_isSpace hc rest
  cases hafter : afterComment? (Text.trimStart rest) with
  | none => rw [body_of_code hafter, body_of_code (by rw [hsame, hafter]), hsame]
  | some behind =>
      rw [body_of_comment hafter, body_of_comment (by rw [hsame, hafter])]

theorem isTrailer_of_isSpace (hc : Text.isSpace c = true) (rest : List Char) :
    isTrailer (c :: rest) = isTrailer rest := by
  have hsame := trimStart_of_isSpace hc rest
  cases htrim : Text.trimStart rest with
  | nil => rw [isTrailer_of_blank (hsame.trans htrim), isTrailer_of_blank htrim]
  | cons d more =>
      by_cases hd : d = ';'
      · subst hd
        rw [isTrailer_of_semicolon (hsame.trans htrim), isTrailer_of_semicolon htrim]
      · cases hafter : Classify.afterComment? (d :: more) with
        | none =>
            rw [isTrailer_of_code (hsame.trans htrim) hd hafter, isTrailer_of_code htrim hd hafter]
        | some behind =>
            rw [← htrim] at hafter
            rw [isTrailer_of_comment hafter]
            rw [← hsame] at hafter
            rw [isTrailer_of_comment hafter]

theorem isTrailer_trimStart (text : List Char) :
    isTrailer (Text.trimStart text) = isTrailer text := by
  induction text with
  | nil => rfl
  | cons c text ih =>
      cases hc : Text.isSpace c with
      | true => rw [trimStart_of_isSpace hc, isTrailer_of_isSpace hc, ih]
      | false => rw [trimStart_of_not_isSpace hc]

theorem isTrailer_body (text : List Char) : isTrailer (body text) = isTrailer text := by
  fun_induction body text with
  | case1 text rest hcomment ih => rw [ih, isTrailer_of_comment hcomment]
  | case2 text => exact isTrailer_trimStart text

section Lead

variable {lead rest : List Char} (hlead : ∀ d ∈ lead, Text.isSpace d = true ∨ d = ';')
  (hspace : Text.isSpace c = false) (hcode : afterComment? (c :: rest) = none)

include hlead hspace hcode

/-- Code behind white space and semicolons is the body of a text, unless a semicolon is. -/
theorem body_of_lead :
    body (lead ++ c :: rest) = c :: rest ∨
      ∃ behind, body (lead ++ c :: rest) = ';' :: behind := by
  induction lead with
  | nil =>
      have htrim := trimStart_of_not_isSpace hspace rest
      exact .inl (by rw [List.nil_append, body_of_code (by rw [htrim, hcode]), htrim])
  | cons d lead ih =>
      obtain ⟨hd, hothers⟩ := List.forall_mem_cons.mp hlead
      rcases hd with hd | rfl
      · rw [List.cons_append, body_of_isSpace hd]
        exact ih hothers
      · exact .inr ⟨lead ++ c :: rest, body_of_code rfl⟩

variable (hsemicolon : c ≠ ';')

include hsemicolon

theorem isTrailer_of_lead : isTrailer (lead ++ c :: rest) = false := by
  induction lead with
  | nil => exact isTrailer_of_code (trimStart_of_not_isSpace hspace rest) hsemicolon hcode
  | cons d lead ih =>
      obtain ⟨hd, hothers⟩ := List.forall_mem_cons.mp hlead
      rcases hd with hd | rfl
      · rw [List.cons_append, isTrailer_of_isSpace hd]
        exact ih hothers
      · rw [List.cons_append, isTrailer_of_semicolon rfl]
        exact ih hothers

theorem isTrailer_body_of_lead : isTrailer (body (lead ++ c :: rest)) = false := by
  induction lead with
  | nil =>
      have htrim := trimStart_of_not_isSpace hspace rest
      rw [List.nil_append, body_of_code (by rw [htrim, hcode]), htrim]
      exact isTrailer_of_code htrim hsemicolon hcode
  | cons d lead ih =>
      obtain ⟨hd, hothers⟩ := List.forall_mem_cons.mp hlead
      rcases hd with hd | rfl
      · rw [List.cons_append, body_of_isSpace hd]
        exact ih hothers
      · have hbody : body (';' :: (lead ++ c :: rest)) = ';' :: (lead ++ c :: rest) :=
          body_of_code rfl
        rw [List.cons_append, hbody, isTrailer_of_semicolon rfl]
        exact isTrailer_of_lead hothers hspace hcode hsemicolon

end Lead

/-! ## Texts without comments -/

/-- Neither a dashed comment nor a block comment begins in the text. -/
structure Uncommented (text : List Char) : Prop where
  dashes : ¬ ['-', '-'] <:+: text
  block : ¬ ['/', '*'] <:+: text

namespace Uncommented

instance : Decidable (Uncommented text) :=
  decidable_of_iff (¬ ['-', '-'] <:+: text ∧ ¬ ['/', '*'] <:+: text)
    ⟨fun h => ⟨h.1, h.2⟩, fun h => ⟨h.dashes, h.block⟩⟩

theorem of_infix {part : List Char} (huncommented : Uncommented text) (hpart : part <:+: text) :
    Uncommented part where
  dashes hdashes := huncommented.dashes (hdashes.trans hpart)
  block hblock := huncommented.block (hblock.trans hpart)

theorem afterComment? (huncommented : Uncommented text) (hhash : '#' ∉ text) :
    afterComment? text = none := by
  unfold Classify.afterComment?
  split
  next rest => exact absurd (List.prefix_append ['-', '-'] rest).isInfix huncommented.dashes
  next => exact absurd List.mem_cons_self hhash
  next => rfl
  next rest _ => exact absurd (List.prefix_append ['/', '*'] rest).isInfix huncommented.block
  next => rfl

end Uncommented

/-- Behind a text without comments a trailer begins only if the text is no more than white space
and semicolons. -/
theorem isTrailer_append
    (huncommented : Uncommented text) (hhash : '#' ∉ text)
    (htrailer : isTrailer (text ++ ';' :: tail) = true) :
    (∀ c ∈ text, Text.isSpace c = true ∨ c = ';') ∧ isTrailer tail = true := by
  induction text with
  | nil => exact ⟨nofun, by rwa [List.nil_append, isTrailer_of_semicolon rfl] at htrailer⟩
  | cons c text ih =>
      have hshorter := huncommented.of_infix (List.suffix_cons c text).isInfix
      have hfew : '#' ∉ text := fun hmem => hhash (List.mem_cons_of_mem c hmem)
      rw [List.cons_append] at htrailer
      by_cases hc : Text.isSpace c = true
      · rw [isTrailer_of_isSpace hc] at htrailer
        obtain ⟨hlayout, htail⟩ := ih hshorter hfew htrailer
        exact ⟨List.forall_mem_cons.mpr ⟨.inl hc, hlayout⟩, htail⟩
      have htrim := trimStart_of_not_isSpace (Bool.not_eq_true _ ▸ hc) (text ++ ';' :: tail)
      by_cases hsemicolon : c = ';'
      · subst hsemicolon
        rw [isTrailer_of_semicolon htrim] at htrailer
        obtain ⟨hlayout, htail⟩ := ih hshorter hfew htrailer
        exact ⟨List.forall_mem_cons.mpr ⟨.inr rfl, hlayout⟩, htail⟩
      · have hcode :=
          afterComment?_append_eq_none (d := ';') (by decide) (huncommented.afterComment? hhash) tail
        rw [isTrailer_of_code htrim hsemicolon hcode] at htrailer
        cases htrailer

/-! ## Words -/

theorem firstWord_append (hword : firstWord text ≠ []) (tail : List Char) :
    firstWord (text ++ ';' :: tail) = firstWord text := by
  unfold firstWord at hword ⊢
  rw [List.dropWhile_append]
  split
  next hempty =>
    rw [List.isEmpty_iff.mp hempty] at hword
    exact absurd rfl hword
  next => rw [Text.takeWhile_append_of_stop (by decide)]

theorem isAlphabetic_of_layout (hlayout : Text.isSpace d = true ∨ d = ';') :
    Text.isAlphabetic d = false := by
  rcases hlayout with hspace | rfl
  · exact Sql.isAlphabetic_of_isSpace hspace
  · decide

theorem firstWord_concat (hstop : Text.isAlphabetic d = false) (text : List Char) :
    firstWord (text ++ [d]) = firstWord text := by
  unfold firstWord
  rw [List.dropWhile_append]
  split
  next hempty => simp [List.isEmpty_iff.mp hempty, hstop]
  next => rw [Text.takeWhile_append_of_stop hstop]

theorem firstWord_of_layout (hlayout : ∀ d ∈ text, Text.isSpace d = true ∨ d = ';') :
    firstWord text = [] := by
  have hletters : text.dropWhile (fun d => !Text.isAlphabetic d) = [] := by
    rw [List.dropWhile_eq_nil_iff]
    intro d hd
    rw [isAlphabetic_of_layout (hlayout d hd)]
    rfl
  rw [firstWord, hletters]
  rfl

theorem firstWord_body_of_layout (hlayout : ∀ d ∈ text, Text.isSpace d = true ∨ d = ';') :
    firstWord (body text) = [] :=
  firstWord_of_layout fun d hd => hlayout d ((body_suffix text).subset hd)

variable {found words : List (List Char)} {rest : List Char}

theorem wordsOnto_of_blank (htrim : Text.trimStart text = []) :
    wordsOnto found text = some found.reverse := by
  rw [wordsOnto]
  split
  next => rfl
  next hother => rw [htrim] at hother; cases hother

theorem wordsOnto_of_letter
    (htrim : Text.trimStart text = c :: rest) (hc : Text.isAlphabetic c = true) :
    wordsOnto found text =
      wordsOnto ((c :: rest.takeWhile Text.isAlphabetic).map foldLetter :: found)
        (rest.dropWhile Text.isAlphabetic) := by
  rw [wordsOnto]
  split
  next hother => rw [htrim] at hother; cases hother
  next hother =>
    rw [htrim] at hother
    cases hother
    rw [if_pos hc]

theorem wordsOnto_of_sign
    (htrim : Text.trimStart text = c :: rest) (hc : Text.isAlphabetic c = false) :
    wordsOnto found text = if isTrailer (c :: rest) then some found.reverse else none := by
  rw [wordsOnto]
  split
  next hother => rw [htrim] at hother; cases hother
  next hother =>
    rw [htrim] at hother
    cases hother
    rw [if_neg (by rw [hc]; decide)]

theorem prefix_of_wordsOnto (hwords : wordsOnto found text = some words) :
    found.reverse <+: words := by
  fun_induction wordsOnto found text with
  | case1 => cases hwords; exact List.prefix_refl _
  | case2 found text c rest htrim halphabetic ih =>
      have hlonger := ih hwords
      rw [List.reverse_cons] at hlonger
      exact (List.prefix_append _ _).trans hlonger
  | case3 => cases hwords; exact List.prefix_refl _
  | case4 => cases hwords

theorem firstWord_of_letter
    (htrim : Text.trimStart text = c :: rest) (hc : Text.isAlphabetic c = true) :
    firstWord text = (c :: rest.takeWhile Text.isAlphabetic).map foldLetter := by
  have hletters : text.dropWhile (fun d => !Text.isAlphabetic d) = c :: rest := by
    induction text with
    | nil => cases htrim
    | cons d text ih =>
        cases hd : Text.isSpace d with
        | false =>
            rw [trimStart_of_not_isSpace hd] at htrim
            cases htrim
            simp [hc]
        | true =>
            rw [trimStart_of_isSpace hd] at htrim
            rw [List.dropWhile_cons_of_pos (by simp [Sql.isAlphabetic_of_isSpace hd]), ih htrim]
  rw [firstWord, hletters, List.takeWhile_cons_of_pos hc]

/-- The words begin with the first word of the text, where there are any. -/
theorem exists_letter_of_words? (hwords : words? text = some words) (hne : words ≠ []) :
    ∃ c rest more, Text.trimStart text = c :: rest ∧ Text.isAlphabetic c = true ∧
      words = firstWord text :: more := by
  cases htrim : Text.trimStart text with
  | nil =>
      rw [words?, wordsOnto_of_blank htrim] at hwords
      exact absurd (Option.some.inj hwords).symm hne
  | cons c rest =>
      cases hc : Text.isAlphabetic c with
      | false =>
          rw [words?, wordsOnto_of_sign htrim hc] at hwords
          split at hwords
          · exact absurd (Option.some.inj hwords).symm hne
          · cases hwords
      | true =>
          rw [words?, wordsOnto_of_letter htrim hc] at hwords
          obtain ⟨more, hmore⟩ := prefix_of_wordsOnto hwords
          refine ⟨c, rest, more, rfl, hc, ?_⟩
          rw [firstWord_of_letter htrim hc, ← hmore]
          rfl

/-- White space or a semicolon at the end adds no word and spoils none. -/
theorem wordsOnto_concat (hlayout : Text.isSpace d = true ∨ d = ';') (text : List Char) :
    wordsOnto found (text ++ [d]) = wordsOnto found text := by
  have hstop := isAlphabetic_of_layout hlayout
  fun_induction wordsOnto found text with
  | case1 found text htrim =>
      have hlonger := trimStart_append_of_blank htrim [d]
      rcases hlayout with hspace | rfl
      · rw [trimStart_of_isSpace hspace] at hlonger
        rw [wordsOnto_of_blank hlonger]
      · rw [wordsOnto_of_sign hlonger (by decide), isTrailer_of_semicolon rfl,
          isTrailer_of_blank rfl, if_pos rfl]
  | case2 found text c rest htrim hc ih =>
      have hlonger := trimStart_append (htrim ▸ List.cons_ne_nil _ _) [d]
      rw [htrim, List.cons_append] at hlonger
      rw [wordsOnto_of_letter hlonger hc, Text.takeWhile_append_of_stop hstop,
        Text.dropWhile_append_of_stop hstop, ih]
  | case3 found text c rest htrim hc htrailer =>
      have hlonger := trimStart_append (htrim ▸ List.cons_ne_nil _ _) [d]
      rw [htrim, List.cons_append] at hlonger
      rw [wordsOnto_of_sign hlonger (by simpa using hc), ← List.cons_append,
        isTrailer_concat hlayout, if_pos htrailer]
  | case4 found text c rest htrim hc htrailer =>
      have hlonger := trimStart_append (htrim ▸ List.cons_ne_nil _ _) [d]
      rw [htrim, List.cons_append] at hlonger
      rw [wordsOnto_of_sign hlonger (by simpa using hc), ← List.cons_append,
        isTrailer_concat hlayout, if_neg htrailer]

/-- A text that goes on behind a semicolon with more than layout is no text of words. -/
theorem wordsOnto_append_eq_none
    (huncommented : Uncommented text) (hhash : '#' ∉ text) (htail : isTrailer tail = false)
    (found : List (List Char)) : wordsOnto found (text ++ ';' :: tail) = none := by
  have hsemicolon : isTrailer (';' :: tail) = false := by rwa [isTrailer_of_semicolon rfl]
  fun_induction wordsOnto found text with
  | case1 found text htrim =>
      have hlonger := trimStart_append_of_blank htrim (';' :: tail)
      rw [wordsOnto_of_sign hlonger (by decide), hsemicolon]
      rfl
  | case2 found text c rest htrim hc ih =>
      have hlonger := trimStart_append (htrim ▸ List.cons_ne_nil _ _) (';' :: tail)
      rw [htrim, List.cons_append] at hlonger
      have hpart : rest.dropWhile Text.isAlphabetic <:+ text :=
        (List.dropWhile_suffix _).trans ((List.suffix_cons c rest).trans
          (htrim ▸ List.dropWhile_suffix _))
      rw [wordsOnto_of_letter hlonger hc, Text.takeWhile_append_of_stop (by decide),
        Text.dropWhile_append_of_stop (by decide)]
      exact ih (huncommented.of_infix hpart.isInfix) fun hmem => hhash (hpart.subset hmem)
  | case3 found text c rest htrim hc | case4 found text c rest htrim hc =>
      have hlonger := trimStart_append (htrim ▸ List.cons_ne_nil _ _) (';' :: tail)
      rw [htrim, List.cons_append] at hlonger
      have hpart : c :: rest <:+ text := htrim ▸ List.dropWhile_suffix _
      rw [wordsOnto_of_sign hlonger (by simpa using hc), if_neg]
      intro htrailer
      have hbehind := isTrailer_append (huncommented.of_infix hpart.isInfix)
        (fun hmem => hhash (hpart.subset hmem)) htrailer
      rw [htail] at hbehind
      cases hbehind.2

end SqlPipe.Classify
