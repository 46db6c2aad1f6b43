import SqlPipe.Proofs.Classify.Keywords

/-!
# Layout and case

The class that keywords tell does not depend on how a statement is laid out.  White space and ended
comments in front are set aside before anything is read.  Semicolons and white space at the end add
no word, no matter whether the text ends in the middle of a comment, of a word or of a phrase.  And
letters count in lower case wherever they are compared, while the characters that tell comments and
white space have no case.
-/

namespace SqlPipe.Classify

variable {dialect : Dialect} {text : List Char} {c d : Char}

/-! ## In front -/

/-- One piece of layout in front of a statement. -/
inductive Gap
  | blank (c : Char) (hspace : Text.isSpace c = true)
  | dashes (line : List Char) (hline : '\n' ∉ line)
  | hash (line : List Char) (hline : '\n' ∉ line)
  | block (inside : List Char) (hopen : ¬ ['*', '/'] <:+: inside) (hplain : inside.head? ≠ some '!')

def Gap.chars : Gap → List Char
  | blank c _ => [c]
  | dashes line _ => '-' :: '-' :: line ++ ['\n']
  | hash line _ => '#' :: line ++ ['\n']
  | block inside _ _ => '/' :: '*' :: inside ++ ['*', '/']

theorem dropThrough_line {line : List Char} (hline : '\n' ∉ line) (text : List Char) :
    Text.dropThrough ['\n'] (line ++ ['\n'] ++ text) = text := by
  apply Text.dropThrough_of_first
  intro hoccurs
  rw [List.dropLast_singleton, List.append_nil] at hoccurs
  exact hline (hoccurs.subset (List.mem_singleton_self '\n'))

theorem dropThrough_block {inside : List Char} (hopen : ¬ ['*', '/'] <:+: inside)
    (text : List Char) : Text.dropThrough ['*', '/'] (inside ++ ['*', '/'] ++ text) = text := by
  apply Text.dropThrough_of_first
  -- What ends with a star does not end a comment.
  rintro ⟨front, behind, hoccurs⟩
  rcases List.eq_nil_or_concat behind with rfl | ⟨behind, last, rfl⟩
  · have hlast := congrArg List.getLast? hoccurs
    simp at hlast
  · rw [List.concat_eq_append, ← List.append_assoc] at hoccurs
    have hinside := (List.append_inj' hoccurs rfl).1
    exact hopen ⟨front, behind, hinside⟩

theorem body_gap (gap : Gap) (text : List Char) : body (gap.chars ++ text) = body text := by
  cases gap with
  | blank c hspace => exact body_of_isSpace hspace text
  | dashes line hline =>
      have hcomment : afterComment? ('-' :: '-' :: (line ++ ['\n'] ++ text)) = some text :=
        congrArg some (dropThrough_line hline text)
      exact body_of_comment hcomment
  | hash line hline =>
      have hcomment : afterComment? ('#' :: (line ++ ['\n'] ++ text)) = some text :=
        congrArg some (dropThrough_line hline text)
      exact body_of_comment hcomment
  | block inside hopen hplain =>
      have hdrop := dropThrough_block hopen text
      have hcomment : afterComment? ('/' :: '*' :: (inside ++ ['*', '/'] ++ text)) = some text := by
        unfold afterComment?
        split
        next heq => cases heq
        next heq => cases heq
        next heq =>
          cases inside with
          | nil => cases heq
          | cons first inside =>
              cases heq
              exact absurd rfl hplain
        next heq =>
          cases heq
          rw [hdrop]
        next hother => exact absurd rfl (hother _)
      exact body_of_comment hcomment

theorem body_gaps (gaps : List Gap) (text : List Char) :
    body (gaps.flatMap Gap.chars ++ text) = body text := by
  induction gaps with
  | nil => rfl
  | cons gap gaps ih => rw [List.flatMap_cons, List.append_assoc, body_gap, ih]

theorem ofKeywords_congr {first second : String}
    (hbody : body first.toList = body second.toList) :
    ofKeywords dialect first = ofKeywords dialect second := by
  rw [ofKeywords_eq, ofKeywords_eq, isConditional, isConditional, leadingClass?, leadingClass?,
    hbody]

/-! ## Behind -/

theorem ofKeywords_append {first joined : String} {tail : List Char}
    (hjoined : joined.toList = first.toList ++ tail)
    (hlayout : ∀ d ∈ tail, Text.isSpace d = true ∨ d = ';') :
    ofKeywords dialect joined = ofKeywords dialect first := by
  induction tail generalizing first with
  | nil => exact ofKeywords_congr (by rw [hjoined, List.append_nil])
  | cons d tail ih =>
      obtain ⟨hd, htail⟩ := List.forall_mem_cons.mp hlayout
      have hlonger : (first.push d).toList = first.toList ++ [d] := String.toList_push d
      have hrest : joined.toList = (first.push d).toList ++ tail := by
        rw [hjoined, hlonger, List.append_assoc]
        rfl
      rw [ih hrest htail, ofKeywords_concat hlonger hd]

/-! ## Case -/

/-- The letters that have another character as their lower case. -/
def capitals : List Char := (List.range' 65 26).map Char.ofNat

theorem toLower_eq_or_mem (c : Char) : c.toLower = c ∨ c ∈ capitals := by
  unfold Char.toLower
  split
  next hupper =>
    obtain ⟨hlow, hhigh⟩ : 65 ≤ c.toNat ∧ c.toNat ≤ 90 := by
      simpa [UInt32.le_iff_toNat_le] using hupper
    refine .inr (List.mem_map.mpr ⟨c.toNat, ?_, Char.ofNat_toNat c⟩)
    rw [List.mem_range'_1]
    omega
  next => exact .inl rfl

/-- What the capitals share with their lower case, all characters do. -/
theorem toLower_congr
    {α : Type} [DecidableEq α] {property : Char → α}
    (hcapitals : capitals.all fun d => property d.toLower = property d) (c : Char) :
    property c.toLower = property c := by
  rcases toLower_eq_or_mem c with hsame | hcapital
  · rw [hsame]
  · exact of_decide_eq_true (List.all_eq_true.mp hcapitals c hcapital)

theorem isSpace_toLower (c : Char) : Text.isSpace c.toLower = Text.isSpace c :=
  toLower_congr (by decide) c

theorem isAlphabetic_toLower (c : Char) : Text.isAlphabetic c.toLower = Text.isAlphabetic c :=
  toLower_congr (by decide) c

theorem foldLetter_toLower (c : Char) : foldLetter c.toLower = foldLetter c :=
  toLower_congr (by decide) c

def layoutSigns : List Char := '\n' :: ';' :: commentSigns

theorem toLower_eq_iff (hd : d ∈ layoutSigns) : c.toLower = d ↔ c = d := by
  have hcapitals : capitals.all fun c =>
      layoutSigns.all fun sign => c.toLower = sign ↔ c = sign := by decide
  rcases toLower_eq_or_mem c with hsame | hcapital
  · rw [hsame]
  · have hsigns := List.all_eq_true.mp hcapitals c hcapital
    exact of_decide_eq_true (List.all_eq_true.mp hsigns d hd)

theorem trimStart_toLower (text : List Char) :
    Text.trimStart (text.map Char.toLower) = (Text.trimStart text).map Char.toLower := by
  have hspace : Text.isSpace ∘ Char.toLower = Text.isSpace := funext isSpace_toLower
  rw [Text.trimStart, List.dropWhile_map, hspace]
  rfl

section Parts

variable {part : List Char} (hpart : ∀ sign ∈ part, sign ∈ layoutSigns)

include hpart

theorem after?_toLower (text : List Char) :
    Text.after? part (text.map Char.toLower) =
      (Text.after? part text).map (List.map Char.toLower) := by
  induction part generalizing text with
  | nil => rfl
  | cons sign part ih =>
      obtain ⟨hsign, hothers⟩ := List.forall_mem_cons.mp hpart
      cases text with
      | nil => rfl
      | cons c text =>
          have hsame : (sign == c.toLower) = (sign == c) := by
            rw [Bool.eq_iff_iff, beq_iff_eq, beq_iff_eq, eq_comm, toLower_eq_iff hsign, eq_comm]
          rw [List.map_cons, Text.after?, Text.after?, hsame, ih hothers]
          split <;> rfl

theorem splitAtOnto_toLower (passed text : List Char) :
    Text.splitAtOnto part (passed.map Char.toLower) (text.map Char.toLower) =
      (Text.splitAtOnto part passed text).map
        (Prod.map (List.map Char.toLower) (List.map Char.toLower)) := by
  induction text generalizing passed with
  | nil => cases part <;> simp [Text.splitAtOnto, Text.after?]
  | cons c text ih =>
      have hafter := after?_toLower hpart (c :: text)
      rw [List.map_cons] at hafter ⊢
      rw [Text.splitAtOnto, Text.splitAtOnto, hafter]
      cases Text.after? part (c :: text) with
      | none => exact ih (c :: passed)
      | some rest => simp

theorem dropThrough_toLower (text : List Char) :
    Text.dropThrough part (text.map Char.toLower) =
      (Text.dropThrough part text).map Char.toLower := by
  have hsplit := splitAtOnto_toLower hpart [] text
  rw [List.map_nil] at hsplit
  rw [Text.dropThrough, Text.dropThrough, Text.splitAt?, Text.splitAt?, hsplit]
  cases Text.splitAtOnto part [] text <;> rfl

end Parts

/-- A sign in front of a text in lower case stands in front of the text itself. -/
theorem exists_of_map_toLower_eq_cons
    (hd : d ∈ layoutSigns) {rest : List Char} (hlower : text.map Char.toLower = d :: rest) :
    ∃ more, text = d :: more ∧ more.map Char.toLower = rest := by
  obtain ⟨c, more, rfl, hc, hmore⟩ := List.map_eq_cons_iff.mp hlower
  rw [toLower_eq_iff hd] at hc
  exact ⟨more, by rw [hc], hmore⟩

theorem afterComment?_toLower (text : List Char) :
    afterComment? (text.map Char.toLower) = (afterComment? text).map (List.map Char.toLower) := by
  have hline := @dropThrough_toLower ['\n'] (by simp [layoutSigns])
  have hblock := @dropThrough_toLower ['*', '/'] (by simp [layoutSigns, commentSigns])
  rw [afterComment?.eq_def text]
  split
  next line => exact congrArg some (hline line)
  next line => exact congrArg some (hline line)
  next => rfl
  next inside hplain =>
    cases inside with
    | nil => exact congrArg some (hblock [])
    | cons e inside =>
        have he : e.toLower ≠ '!' := by
          rw [Ne, toLower_eq_iff (by decide)]
          rintro rfl
          exact hplain inside rfl
        have hdrop := congrArg some (hblock (e :: inside))
        simpa [afterComment?, he] using hdrop
  next hdashes hhash _ hopens =>
    -- A text in lower case opens a comment only where the text itself does.
    unfold afterComment?
    split
    next heq =>
      obtain ⟨more, rfl, hmore⟩ := exists_of_map_toLower_eq_cons (by decide) heq
      obtain ⟨line, rfl, -⟩ := exists_of_map_toLower_eq_cons (by decide) hmore
      exact (hdashes line rfl).elim
    next heq =>
      obtain ⟨line, rfl, -⟩ := exists_of_map_toLower_eq_cons (by decide) heq
      exact (hhash line rfl).elim
    next => rfl
    next heq =>
      obtain ⟨more, rfl, hmore⟩ := exists_of_map_toLower_eq_cons (by decide) heq
      obtain ⟨inside, rfl, -⟩ := exists_of_map_toLower_eq_cons (by decide) hmore
      exact (hopens inside rfl).elim
    next => rfl

theorem body_toLower (text : List Char) :
    body (text.map Char.toLower) = (body text).map Char.toLower := by
  fun_induction body text with
  | case1 text rest hcomment ih =>
      have hlower : afterComment? (Text.trimStart (text.map Char.toLower)) =
          some (rest.map Char.toLower) := by
        rw [trimStart_toLower, afterComment?_toLower, hcomment]
        rfl
      rw [body_of_comment hlower, ih]
  | case2 text hcode =>
      have hlower : afterComment? (Text.trimStart (text.map Char.toLower)) = none := by
        rw [trimStart_toLower, afterComment?_toLower, hcode]
        rfl
      rw [body_of_code hlower, trimStart_toLower]

theorem isTrailer_toLower (text : List Char) :
    isTrailer (text.map Char.toLower) = isTrailer text := by
  have htrims := trimStart_toLower
  fun_induction isTrailer text with
  | case1 text htrim => rw [isTrailer_of_blank (by rw [htrims, htrim]; rfl)]
  | case2 text rest htrim ih =>
      have hlower : Text.trimStart (text.map Char.toLower) = ';' :: rest.map Char.toLower := by
        rw [htrims, htrim]
        rfl
      rw [isTrailer_of_semicolon hlower, ih]
  | case3 text rest hnil hsemicolon hcomment ih =>
      have hlower : afterComment? (Text.trimStart (text.map Char.toLower)) =
          some (rest.map Char.toLower) := by
        rw [htrims, afterComment?_toLower, hcomment]
        rfl
      rw [isTrailer_of_comment hlower, ih]
  | case4 text hnil hsemicolon hcode =>
      obtain ⟨c, rest, htrim⟩ := List.exists_cons_of_ne_nil hnil
      have hlower : Text.trimStart (text.map Char.toLower) = c.toLower :: rest.map Char.toLower := by
        rw [htrims, htrim]
        rfl
      have hc : c.toLower ≠ ';' := by
        rw [Ne, toLower_eq_iff (by decide)]
        rintro rfl
        exact hsemicolon rest htrim
      refine isTrailer_of_code hlower hc ?_
      rw [← List.map_cons, ← htrim, afterComment?_toLower, hcode]
      rfl

theorem takeWhile_toLower (text : List Char) :
    (text.map Char.toLower).takeWhile Text.isAlphabetic =
      (text.takeWhile Text.isAlphabetic).map Char.toLower := by
  have hletters : Text.isAlphabetic ∘ Char.toLower = Text.isAlphabetic :=
    funext isAlphabetic_toLower
  rw [List.takeWhile_map, hletters]

theorem dropWhile_toLower (text : List Char) :
    (text.map Char.toLower).dropWhile Text.isAlphabetic =
      (text.dropWhile Text.isAlphabetic).map Char.toLower := by
  have hletters : Text.isAlphabetic ∘ Char.toLower = Text.isAlphabetic :=
    funext isAlphabetic_toLower
  rw [List.dropWhile_map, hletters]

theorem map_foldLetter_toLower (text : List Char) :
    (text.map Char.toLower).map foldLetter = text.map foldLetter := by
  rw [List.map_map]
  exact List.map_congr_left fun c _ => foldLetter_toLower c

theorem firstWord_toLower (text : List Char) :
    firstWord (text.map Char.toLower) = firstWord text := by
  have hothers : (fun c => !Text.isAlphabetic c) ∘ Char.toLower = fun c => !Text.isAlphabetic c :=
    funext fun c => congrArg not (isAlphabetic_toLower c)
  rw [firstWord, List.dropWhile_map, hothers, takeWhile_toLower, map_foldLetter_toLower]
  rfl

theorem wordsOnto_toLower (found : List (List Char)) (text : List Char) :
    wordsOnto found (text.map Char.toLower) = wordsOnto found text := by
  have hbegins {text rest : List Char} {c : Char} (htrim : Text.trimStart text = c :: rest) :
      Text.trimStart (text.map Char.toLower) = c.toLower :: rest.map Char.toLower := by
    rw [trimStart_toLower, htrim, List.map_cons]
  fun_induction wordsOnto found text with
  | case1 found text htrim =>
      rw [wordsOnto_of_blank (by rw [trimStart_toLower, htrim, List.map_nil])]
  | case2 found text c rest htrim hc ih =>
      have hword := map_foldLetter_toLower (c :: rest.takeWhile Text.isAlphabetic)
      rw [List.map_cons, ← takeWhile_toLower] at hword
      rw [wordsOnto_of_letter (hbegins htrim) (by rw [isAlphabetic_toLower, hc]), hword,
        dropWhile_toLower, ih]
  | case3 found text c rest htrim hc htrailer =>
      rw [wordsOnto_of_sign (hbegins htrim) (by simpa [isAlphabetic_toLower] using hc),
        ← List.map_cons, isTrailer_toLower, if_pos htrailer]
  | case4 found text c rest htrim hc htrailer =>
      rw [wordsOnto_of_sign (hbegins htrim) (by simpa [isAlphabetic_toLower] using hc),
        ← List.map_cons, isTrailer_toLower, if_neg htrailer]

theorem isPrefixOf_toLower (code : List Char) :
    ['/', '*', '!'].isPrefixOf (code.map Char.toLower) = ['/', '*', '!'].isPrefixOf code := by
  rw [Bool.eq_iff_iff, List.isPrefixOf_iff_prefix, List.isPrefixOf_iff_prefix]
  constructor
  · rintro ⟨rest, hrest⟩
    obtain ⟨_, rfl, hstar⟩ := exists_of_map_toLower_eq_cons (by decide) hrest.symm
    obtain ⟨_, rfl, hmark⟩ := exists_of_map_toLower_eq_cons (by decide) hstar
    obtain ⟨more, rfl, -⟩ := exists_of_map_toLower_eq_cons (by decide) hmark
    exact List.prefix_append ['/', '*', '!'] more
  · rintro ⟨rest, rfl⟩
    exact List.prefix_append ['/', '*', '!'] (rest.map Char.toLower)

theorem ofKeywords_of_toLower {first second : String}
    (hlower : first.toList.map Char.toLower = second.toList.map Char.toLower) :
    ofKeywords dialect first = ofKeywords dialect second := by
  have hbody : (body first.toList).map Char.toLower = (body second.toList).map Char.toLower := by
    rw [← body_toLower, hlower, body_toLower]
  have hmark : isConditional first.toList = isConditional second.toList := by
    rw [isConditional, ← isPrefixOf_toLower, hbody, isPrefixOf_toLower, isConditional]
  have hword : firstWord (body first.toList) = firstWord (body second.toList) := by
    rw [← firstWord_toLower, hbody, firstWord_toLower]
  have hwords : words? (body first.toList) = words? (body second.toList) := by
    rw [words?, ← wordsOnto_toLower, hbody, wordsOnto_toLower, words?]
  rw [ofKeywords_eq, ofKeywords_eq, hmark, hwords, leadingClass?, leadingClass?, hword]

/-! ## The class of a statement -/

/-- A class by keywords is that of the same text with layout in front of it, with its letters in
another case, or with white space and semicolons behind it. -/
theorem ofKeywords_insensitive (dialect : Dialect) (text : String) :
    (∀ gaps : List Gap,
      ofKeywords dialect (String.ofList (gaps.flatMap Gap.chars) ++ text) =
        ofKeywords dialect text) ∧
    (∀ other : String, other.toList.map Char.toLower = text.toList.map Char.toLower →
      ofKeywords dialect other = ofKeywords dialect text) ∧
    ∀ tail : String, (∀ c ∈ tail.toList, Text.isSpace c = true ∨ c = ';') →
      ofKeywords dialect (text ++ tail) = ofKeywords dialect text := by
  refine ⟨fun gaps => ?_, fun other hlower => ofKeywords_of_toLower hlower,
    fun tail hlayout => ofKeywords_append String.toList_append hlayout⟩
  apply ofKeywords_congr
  rw [String.toList_append, String.toList_ofList, body_gaps]

/-- A phrase among comments, in mixed case, and with semicolons behind it. -/
theorem ofKeywords_insensitive_commit :
    ofKeywords .mysql "commit -- done" = .transaction .closing ∧
      ofKeywords .mysql "\n# a\n/* commit **/-- b\ncommit -- done" = .transaction .closing ∧
      ofKeywords .mysql "CoMMiT -- Done" = .transaction .closing ∧
      ofKeywords .mysql "commit -- done;\n ;\u00a0" = .transaction .closing := by
  have hcommit : ofKeywords .mysql "commit -- done" = .transaction .closing := by decide +kernel
  obtain ⟨hfront, hcase, hbehind⟩ := ofKeywords_insensitive .mysql "commit -- done"
  refine ⟨hcommit, ?_, (hcase "CoMMiT -- Done" (by decide)).trans hcommit,
    (hbehind ";\n ;\u00a0" (by simp [Text.isSpace])).trans hcommit⟩
  exact (hfront [.blank '\n' (by decide), .hash " a".toList (by decide),
    .block " commit *".toList (by decide) (by decide), .dashes " b".toList (by decide)]).trans
      hcommit

end SqlPipe.Classify
