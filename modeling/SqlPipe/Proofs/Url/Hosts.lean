import SqlPipe.Url.Host
import SqlPipe.Proofs.Sql.Lexing
import SqlPipe.Proofs.Url.Percent
import SqlPipe.Proofs.Text.Splitting
import Mathlib.Algebra.Group.Nat.Defs

/-!
# Hosts read back

A host that was read where the scheme is not special is a name or an address of version six, and
its written form is read as just this host.  The pieces of an address stand in hexadecimal, and the
two colons for a run of zeros are read as so many zeros as the other pieces leave.
-/

namespace SqlPipe.Url

/-! ## Hexadecimal numbers -/

def isHexDigit (c : Char) : Bool := (hexValue? c.toNat).isSome

theorem hexValue?_digitChar :
    ∀ value < 16, hexValue? (Nat.digitChar value).toNat = some value := by
  decide

theorem ascii_of_isHexDigit {c : Char} (hc : isHexDigit c = true) : c.toNat < 0x80 := by
  unfold isHexDigit hexValue? at hc
  split_ifs at hc <;> simp_all <;> omega

theorem isHexDigit_of_isDigit {c : Char} (hc : c.isDigit = true) : isHexDigit c = true := by
  have hbounds : 0x30 ≤ c.toNat ∧ c.toNat ≤ 0x39 := Sql.isDigit_iff.mp hc
  simp [isHexDigit, hexValue?, hbounds]

theorem numberIn?_concat (base : ℕ) (text : List Char) (c : Char) :
    numberIn? base (text ++ [c]) = (do
      let value ← hexValue? c.toNat
      if value < base then pure ((← numberIn? base text) * base + value) else none) := by
  rw [numberIn?, List.foldl_append]
  rfl

theorem numberIn?_toDigits (n : ℕ) : numberIn? 16 (Nat.toDigits 16 n) = some n := by
  induction n using Nat.strong_induction_on with
  | _ n ih =>
      by_cases hsmall : n < 16
      · have hone := numberIn?_concat 16 [] (Nat.digitChar n)
        rw [hexValue?_digitChar n hsmall] at hone
        rw [Nat.toDigits_of_lt_base hsmall]
        simpa [hsmall, numberIn?] using hone
      · have hlast : n % 16 < 16 := Nat.mod_lt n (by decide)
        rw [Nat.toDigits_of_base_le (by decide) (by omega), numberIn?_concat,
          hexValue?_digitChar _ hlast, ih (n / 16) (by omega)]
        simp [hlast, Nat.div_add_mod']

theorem isHexDigit_of_mem_toDigits {n : ℕ} {c : Char} (hc : c ∈ Nat.toDigits 16 n) :
    isHexDigit c = true := by
  have hdigit : ∀ value < 16, isHexDigit (Nat.digitChar value) = true := by decide
  induction n using Nat.strong_induction_on with
  | _ n ih =>
      by_cases hsmall : n < 16
      · rw [Nat.toDigits_of_lt_base hsmall, List.mem_singleton] at hc
        exact hc ▸ hdigit n hsmall
      · rw [Nat.toDigits_of_base_le (by decide) (by omega), List.mem_append,
          List.mem_singleton] at hc
        rcases hc with hfirst | rfl
        · exact ih (n / 16) (by omega) hfirst
        · exact hdigit _ (Nat.mod_lt n (by decide))

theorem numberIn?_lt {base n : ℕ} {text : List Char} (hnumber : numberIn? base text = some n) :
    n < base ^ text.length := by
  induction text using List.reverseRecOn generalizing n with
  | nil =>
      obtain rfl : 0 = n := Option.some.inj hnumber
      exact Nat.one_pos
  | append_singleton text c ih =>
      -- the last digit multiplies what was read by the base
      rw [numberIn?_concat] at hnumber
      obtain ⟨value, -, hnumber⟩ := Option.bind_eq_some_iff.mp hnumber
      split at hnumber
      next hvalue =>
        obtain ⟨front, hfront, hsum⟩ := Option.bind_eq_some_iff.mp hnumber
        obtain rfl : front * base + value = n := Option.some.inj hsum
        have hbound : (front + 1) * base ≤ base ^ text.length * base :=
          Nat.mul_le_mul_right base (ih hfront)
        rw [List.length_append, List.length_singleton, Nat.pow_succ]
        rw [Nat.add_one_mul] at hbound
        omega
      next => cases hnumber

/-! ## Pieces -/

/-- A number of sixteen bits. -/
def IsPiece (piece : ℕ) : Prop := piece < 65536

theorem hexPiece_eq (text : List Char) :
    hexPiece text =
      ((numberIn? 16 ((text.take 4).takeWhile isHexDigit)).getD 0,
        text.drop ((text.take 4).takeWhile isHexDigit).length) := rfl

theorem hexPiece_toDigits
    {piece : ℕ} (hpiece : IsPiece piece) {rest : List Char}
    (hrest : ∀ c ∈ rest.head?, isHexDigit c = false) :
    hexPiece (Nat.toDigits 16 piece ++ rest) = (piece, rest) := by
  have hlength : (Nat.toDigits 16 piece).length ≤ 4 :=
    (Nat.length_toDigits_le_iff (by decide) (by decide)).mpr hpiece
  have hdigits : ((Nat.toDigits 16 piece ++ rest).take 4).takeWhile
      isHexDigit = Nat.toDigits 16 piece := by
    rw [List.take_append, List.take_of_length_le hlength,
      List.takeWhile_append_of_pos fun c hc => isHexDigit_of_mem_toDigits hc]
    cases rest with
    | nil => simp
    | cons c rest => cases 4 - (Nat.toDigits 16 piece).length <;> simp [hrest c rfl]
  rw [hexPiece_eq, hdigits, numberIn?_toDigits]
  simp

theorem isPiece_hexPiece (text : List Char) : IsPiece (hexPiece text).1 := by
  rw [hexPiece_eq]
  cases hnumber : numberIn? 16 ((text.take 4).takeWhile isHexDigit) with
  | none => exact Nat.zero_lt_succ _
  | some number =>
      have hlength : ((text.take 4).takeWhile isHexDigit).length ≤ 4 :=
        (List.takeWhile_prefix _).length_le.trans (List.length_take_le 4 text)
      exact (numberIn?_lt hnumber).trans_le (Nat.pow_le_pow_right (by decide) hlength)

/-! ## Reading the pieces of an address -/

def piecesText (pieces : List ℕ) : List Char :=
  Text.joinWith [':'] (pieces.map (Nat.toDigits 16))

theorem piecesText_cons (piece : ℕ) {others : List ℕ} (hothers : others ≠ []) :
    piecesText (piece :: others) = Nat.toDigits 16 piece ++ ':' :: piecesText others := by
  cases others with
  | nil => exact absurd rfl hothers
  | cons second others =>
      rw [piecesText, Text.joinWith, List.map_cons, List.map_cons, List.intercalate_cons_cons,
        List.append_assoc]
      rfl

theorem piecesText_singleton (piece : ℕ) : piecesText [piece] = Nat.toDigits 16 piece := by
  rw [piecesText, List.map_singleton, Text.joinWith, List.intercalate_singleton]

theorem exists_toDigits_eq_cons (piece : ℕ) :
    ∃ c digits, Nat.toDigits 16 piece = c :: digits ∧ isHexDigit c = true := by
  have hsome : Nat.toDigits 16 piece ≠ [] := Nat.toDigits_ne_nil
  obtain ⟨c, digits, htext⟩ := List.exists_cons_of_ne_nil hsome
  have hc : c ∈ Nat.toDigits 16 piece := htext ▸ List.mem_cons_self
  exact ⟨c, digits, htext, isHexDigit_of_mem_toDigits hc⟩

theorem readPieces_toDigits {piece : ℕ} (hpiece : IsPiece piece) (read : Pieces) (fuel : ℕ) :
    readPieces read (Nat.toDigits 16 piece) (fuel + 1) =
      some { read with pieces := read.pieces ++ [piece] } := by
  have hend : ∀ c ∈ ([] : List Char).head?, isHexDigit c = false := by simp
  have hread := hexPiece_toDigits hpiece hend
  obtain ⟨c, digits, htext, hc⟩ := exists_toDigits_eq_cons piece
  rw [List.append_nil, htext] at hread
  rw [htext, readPieces]
  · simp only [hread]
  · simp
  · rintro rest heq
    obtain ⟨rfl, -⟩ := List.cons.inj heq
    exact absurd hc (by decide)

theorem readPieces_toDigits_colon
    {piece : ℕ} (hpiece : IsPiece piece) {rest : List Char} (hrest : rest ≠ []) (read : Pieces)
    (fuel : ℕ) :
    readPieces read (Nat.toDigits 16 piece ++ ':' :: rest) (fuel + 1) =
      readPieces { read with pieces := read.pieces ++ [piece] } rest fuel := by
  have hcolon : ∀ c ∈ (':' :: rest).head?, isHexDigit c = false := by
    rintro c ⟨⟩
    decide
  have hread := hexPiece_toDigits hpiece hcolon
  obtain ⟨c, digits, htext, hc⟩ := exists_toDigits_eq_cons piece
  rw [htext, List.cons_append] at hread
  rw [htext, List.cons_append, readPieces]
  · simp only [hread, List.isEmpty_iff, if_neg hrest]
  · simp
  · rintro rest heq
    obtain ⟨rfl, -⟩ := List.cons.inj heq
    exact absurd hc (by decide)

theorem piecesText_ne_nil {pieces : List ℕ} (hsome : pieces ≠ []) : piecesText pieces ≠ [] := by
  obtain ⟨piece, others, rfl⟩ := List.exists_cons_of_ne_nil hsome
  cases others with
  | nil =>
      rw [piecesText_singleton]
      exact Nat.toDigits_ne_nil
  | cons second others =>
      rw [piecesText_cons piece (List.cons_ne_nil _ _)]
      exact List.append_ne_nil_of_right_ne_nil _ (List.cons_ne_nil _ _)

theorem readPieces_piecesText
    {pieces : List ℕ} (hpieces : ∀ piece ∈ pieces, IsPiece piece) (read : Pieces) {fuel : ℕ}
    (hfuel : pieces.length ≤ fuel) :
    readPieces read (piecesText pieces) fuel =
      some { read with pieces := read.pieces ++ pieces } := by
  induction pieces generalizing read fuel with
  | nil =>
      rw [List.append_nil]
      cases fuel <;> rfl
  | cons piece others ih =>
      obtain ⟨hpiece, hothers⟩ := List.forall_mem_cons.mp hpieces
      obtain ⟨fuel, rfl⟩ : ∃ less, fuel = less + 1 :=
        Nat.exists_eq_add_one_of_ne_zero (by rw [List.length_cons] at hfuel; omega)
      by_cases hlast : others = []
      · rw [hlast, piecesText_singleton, readPieces_toDigits hpiece]
      · rw [piecesText_cons piece hlast,
          readPieces_toDigits_colon hpiece (piecesText_ne_nil hlast),
          ih hothers _ (Nat.le_of_succ_le_succ hfuel)]
        simp

/-- Pieces before two colons and behind them. -/
theorem readPieces_gap
    {before after : List ℕ} (hsome : before ≠ []) (hbefore : ∀ piece ∈ before, IsPiece piece)
    (hafter : ∀ piece ∈ after, IsPiece piece) (pieces : List ℕ) {fuel : ℕ}
    (hfuel : before.length + after.length < fuel) :
    readPieces ⟨pieces, none⟩ (piecesText before ++ "::".toList ++ piecesText after) fuel =
      some ⟨pieces ++ before ++ after, some (pieces.length + before.length)⟩ := by
  induction before generalizing pieces fuel with
  | nil => exact absurd rfl hsome
  | cons piece others ih =>
      obtain ⟨hpiece, hothers⟩ := List.forall_mem_cons.mp hbefore
      rw [List.length_cons] at hfuel
      obtain ⟨fuel, rfl⟩ : ∃ less, fuel = less + 1 :=
        Nat.exists_eq_add_one_of_ne_zero (by omega)
      by_cases hlast : others = []
      · -- the first of the two colons ends the last piece, the second one is the gap
        subst hlast
        obtain ⟨fuel, rfl⟩ : ∃ less, fuel = less + 1 :=
          Nat.exists_eq_add_one_of_ne_zero (by omega)
        rw [piecesText_singleton, List.append_assoc]
        refine (readPieces_toDigits_colon hpiece (List.cons_ne_nil _ _) _ _).trans ?_
        refine (readPieces_piecesText hafter _ (by simp at hfuel; omega)).trans ?_
        simp
      · rw [piecesText_cons piece hlast, List.append_assoc, List.append_assoc, List.cons_append,
          readPieces_toDigits_colon hpiece (by simp), ← List.append_assoc,
          ih hlast hothers _ (by omega)]
        simp [Nat.add_assoc, Nat.add_comm 1]

/-! ## The pieces that are read -/

theorem le_of_byteNumber?
    {text rest : List Char} {number : ℕ} (hbyte : byteNumber? text = some (number, rest)) :
    number ≤ 255 := by
  unfold byteNumber? at hbyte
  dsimp only at hbyte
  split at hbyte
  next => cases hbyte
  next =>
    obtain ⟨found, -, hfound⟩ := Option.bind_eq_some_iff.mp hbyte
    split at hfound
    next => cases hfound
    next hsmall =>
      cases hfound
      exact Nat.le_of_not_gt hsmall

theorem le_of_fourNumbers?
    {text : List Char} {numbers : List ℕ} (hnumbers : fourNumbers? text = some numbers) :
    ∀ number ∈ numbers, number ≤ 255 := by
  obtain ⟨⟨a, afterA⟩, ha, hrest⟩ := Option.bind_eq_some_iff.mp hnumbers
  obtain ⟨beforeB, -, hrest⟩ := Option.bind_eq_some_iff.mp hrest
  obtain ⟨⟨b, afterB⟩, hb, hrest⟩ := Option.bind_eq_some_iff.mp hrest
  obtain ⟨beforeC, -, hrest⟩ := Option.bind_eq_some_iff.mp hrest
  obtain ⟨⟨c, afterC⟩, hc, hrest⟩ := Option.bind_eq_some_iff.mp hrest
  obtain ⟨beforeD, -, hrest⟩ := Option.bind_eq_some_iff.mp hrest
  obtain ⟨⟨d, afterD⟩, hd, hrest⟩ := Option.bind_eq_some_iff.mp hrest
  dsimp only at hrest
  split at hrest
  next =>
    cases hrest
    simp only [List.forall_mem_cons]
    exact ⟨le_of_byteNumber? ha, le_of_byteNumber? hb, le_of_byteNumber? hc, le_of_byteNumber? hd,
      by simp⟩
  next => cases hrest

theorem isPiece_of_readPieces
    {read found : Pieces} {text : List Char} {fuel : ℕ}
    (hfound : readPieces read text fuel = some found)
    (hread : ∀ piece ∈ read.pieces, IsPiece piece) : ∀ piece ∈ found.pieces, IsPiece piece := by
  induction fuel generalizing read text with
  | zero =>
      rw [readPieces] at hfound
      split at hfound
      next => exact Option.some.inj hfound ▸ hread
      next => cases hfound
  | succ fuel ih =>
      have hmore : ∀ piece ∈ read.pieces ++ [(hexPiece text).1], IsPiece piece :=
        List.forall_mem_append.mpr ⟨hread, List.forall_mem_singleton.mpr (isPiece_hexPiece text)⟩
      -- one case for each way in which the text goes on
      unfold readPieces at hfound
      split at hfound
      next => exact Option.some.inj hfound ▸ hread
      next =>
        split at hfound
        next => cases hfound
        next => exact ih hfound hread
      next =>
        dsimp only at hfound
        split at hfound
        next => exact Option.some.inj hfound ▸ hmore
        next =>
          split at hfound
          next => cases hfound
          next =>
            obtain ⟨numbers, hnumbers, hpieces⟩ := Option.bind_eq_some_iff.mp hfound
            have hbytes := le_of_fourNumbers? hnumbers
            split at hpieces
            next a b c d =>
              simp only [List.forall_mem_cons] at hbytes
              obtain ⟨ha, hb, hc, hd, -⟩ := hbytes
              cases hpieces
              refine List.forall_mem_append.mpr ⟨hread, ?_⟩
              simp only [List.forall_mem_cons, IsPiece]
              exact ⟨by omega, by omega, by simp⟩
            next => cases hpieces
        next =>
          split at hfound
          next => cases hfound
          next => exact ih hfound hmore
        next => cases hfound

/-! ## Version six -/

/-- The eight pieces of an address. -/
structure IsIpv6 (pieces : List ℕ) : Prop where
  length : pieces.length = 8
  bounded : ∀ piece ∈ pieces, IsPiece piece

theorem isIpv6_of_fill?
    {read : Pieces} {pieces : List ℕ} (hread : ∀ piece ∈ read.pieces, IsPiece piece)
    (hfill : read.fill? = some pieces) : IsIpv6 pieces := by
  unfold Pieces.fill? at hfill
  split at hfill
  next =>
    split at hfill
    next hlength =>
      cases hfill
      exact ⟨hlength, hread⟩
    next => cases hfill
  next gap =>
    split at hfill
    next hlength =>
      cases hfill
      constructor
      · rw [List.length_append, List.length_append, List.length_replicate, List.length_take,
          List.length_drop]
        omega
      · refine List.forall_mem_append.mpr ⟨List.forall_mem_append.mpr ⟨?_, ?_⟩, ?_⟩
        · exact fun piece hpiece => hread piece (List.mem_of_mem_take hpiece)
        · exact fun piece hpiece => (List.eq_of_mem_replicate hpiece).symm ▸ Nat.zero_lt_succ _
        · exact fun piece hpiece => hread piece (List.mem_of_mem_drop hpiece)
    next => cases hfill

theorem isIpv6_of_ipv6? {text : List Char} {pieces : List ℕ} (htext : ipv6? text = some pieces) :
    IsIpv6 pieces := by
  unfold ipv6? at htext
  split at htext
  next =>
    obtain ⟨read, hread, hfill⟩ := Option.bind_eq_some_iff.mp htext
    exact isIpv6_of_fill? (isPiece_of_readPieces hread (by simp)) hfill
  next => cases htext
  next => cases htext
  next => cases htext
  next =>
    obtain ⟨read, hread, hfill⟩ := Option.bind_eq_some_iff.mp htext
    exact isIpv6_of_fill? (isPiece_of_readPieces hread (by simp)) hfill

theorem replicate_leadingZeros (pieces : List ℕ) :
    ∃ after, pieces = List.replicate (leadingZeros pieces) 0 ++ after := by
  refine ⟨pieces.dropWhile (· == 0), ?_⟩
  have hzeros : pieces.takeWhile (· == 0) = List.replicate (leadingZeros pieces) 0 :=
    List.eq_replicate_of_mem fun piece hpiece => by
      simpa using List.mem_takeWhile_imp hpiece
  rw [← hzeros]
  exact List.takeWhile_append_dropWhile.symm

theorem longestRun_spec (index : ℕ) (pieces : List ℕ) :
    ∃ before after,
      pieces = before ++ List.replicate (longestRun index pieces).2 0 ++ after ∧
        (longestRun index pieces).1 = index + before.length := by
  induction pieces generalizing index with
  | nil => exact ⟨[], [], rfl, rfl⟩
  | cons piece others ih =>
      rw [longestRun]
      dsimp only
      split
      next =>
        obtain ⟨after, hafter⟩ := replicate_leadingZeros (piece :: others)
        exact ⟨[], after, hafter, rfl⟩
      next =>
        obtain ⟨before, after, hpieces, hstart⟩ := ih (index + 1)
        refine ⟨piece :: before, after, ?_, ?_⟩
        · rw [List.cons_append, List.cons_append, ← hpieces]
        · rw [hstart, List.length_cons]
          omega

theorem toList_renderPieces (pieces : List ℕ) :
    (renderPieces pieces).toList = piecesText pieces := by
  rw [renderPieces, String.toList_intercalate, List.map_map]
  congr 1
  exact List.map_congr_left fun piece _ => String.toList_ofList

/-- The written form of an address: all pieces, or those around a run of zeros. -/
theorem toList_renderIpv6 (pieces : List ℕ) :
    (renderIpv6 pieces).toList = piecesText pieces ∨
      ∃ before after zeros, 2 ≤ zeros ∧ pieces = before ++ List.replicate zeros 0 ++ after ∧
        (renderIpv6 pieces).toList = piecesText before ++ "::".toList ++ piecesText after := by
  obtain ⟨before, after, hpieces, hstart⟩ := longestRun_spec 0 pieces
  unfold renderIpv6
  dsimp only
  split
  next => exact .inl (toList_renderPieces pieces)
  next hlong =>
    refine .inr ⟨before, after, _, Nat.le_of_not_lt hlong, hpieces, ?_⟩
    have htake : pieces.take (longestRun 0 pieces).1 = before := by
      rw [hstart, Nat.zero_add]
      nth_rewrite 1 [hpieces]
      rw [List.append_assoc, List.take_left]
    have hdrop : pieces.drop ((longestRun 0 pieces).1 + (longestRun 0 pieces).2) = after := by
      rw [hstart, Nat.zero_add]
      nth_rewrite 2 [hpieces]
      exact List.drop_left' (by rw [List.length_append, List.length_replicate])
    rw [htake, hdrop, String.toList_append, String.toList_append, toList_renderPieces,
      toList_renderPieces]

theorem ipv6?_toDigits_append (piece : ℕ) {rest : List Char} (hrest : rest ≠ []) :
    ipv6? (Nat.toDigits 16 piece ++ rest) =
      (readPieces ⟨[], none⟩ (Nat.toDigits 16 piece ++ rest) 8).bind Pieces.fill? := by
  obtain ⟨c, digits, htext, hc⟩ := exists_toDigits_eq_cons piece
  obtain ⟨d, others, hothers⟩ := List.exists_cons_of_ne_nil
    (List.append_ne_nil_of_right_ne_nil digits hrest)
  have hcolon : c ≠ ':' := by
    rintro rfl
    exact absurd hc (by decide)
  rw [htext, List.cons_append, hothers, ipv6?]
  · rfl
  all_goals simp [hcolon]

theorem exists_piecesText_cons (piece : ℕ) (others : List ℕ) :
    ∃ rest, piecesText (piece :: others) = Nat.toDigits 16 piece ++ rest := by
  by_cases hlast : others = []
  · exact ⟨[], by rw [hlast, piecesText_singleton, List.append_nil]⟩
  · exact ⟨_, piecesText_cons piece hlast⟩

theorem ipv6?_renderIpv6 {pieces : List ℕ} (hpieces : IsIpv6 pieces) :
    ipv6? (renderIpv6 pieces).toList = some pieces := by
  rcases toList_renderIpv6 pieces with hall | ⟨before, after, zeros, hzeros, hsplit, hgap⟩
  · have hread := readPieces_piecesText hpieces.bounded ⟨[], none⟩ hpieces.length.le
    obtain ⟨piece, others, rfl⟩ := List.exists_cons_of_length_eq_add_one hpieces.length
    have hothers : others ≠ [] := by
      rintro rfl
      exact absurd hpieces.length (by simp)
    rw [piecesText_cons piece hothers] at hread
    rw [hall, piecesText_cons piece hothers, ipv6?_toDigits_append piece (List.cons_ne_nil _ _),
      hread]
    exact if_pos hpieces.length
  · have hlength := hpieces.length
    have hbounded := hpieces.bounded
    rw [hsplit, List.length_append, List.length_append, List.length_replicate] at hlength
    rw [hsplit, List.forall_mem_append, List.forall_mem_append] at hbounded
    obtain ⟨⟨hbefore, -⟩, hafter⟩ := hbounded
    -- as many zeros are filled in as were left out
    have hfill : (Pieces.mk (before ++ after) (some before.length)).fill? = some pieces := by
      have hshort : (before ++ after).length < 8 := by
        rw [List.length_append]
        omega
      have hleft : 8 - (before ++ after).length = zeros := by
        rw [List.length_append]
        omega
      rw [Pieces.fill?]
      dsimp only
      rw [if_pos hshort, hleft, List.take_left, List.drop_left, ← hsplit]
    rw [hgap]
    cases before with
    | nil =>
        have hfuel : after.length ≤ 7 := by omega
        have hread := readPieces_piecesText hafter ⟨[], some 0⟩ hfuel
        change (readPieces ⟨[], some 0⟩ (piecesText after) 7).bind Pieces.fill? = some pieces
        rw [hread]
        exact hfill
    | cons piece others =>
        have hfuel : (piece :: others).length + after.length < 8 := by omega
        have hread := readPieces_gap (List.cons_ne_nil piece others) hbefore hafter [] hfuel
        obtain ⟨rest, hrest⟩ := exists_piecesText_cons piece others
        rw [hrest, List.append_assoc, List.append_assoc] at hread ⊢
        rw [ipv6?_toDigits_append piece (by simp), hread]
        simpa using hfill

theorem mem_renderIpv6 {pieces : List ℕ} {c : Char} (hc : c ∈ (renderIpv6 pieces).toList) :
    c = ':' ∨ isHexDigit c = true := by
  have hpieces : ∀ pieces, c ∈ piecesText pieces → c = ':' ∨ isHexDigit c = true := by
    intro pieces hc
    rcases Text.mem_joinWith hc with hcolon | ⟨part, hpart, hmem⟩
    · exact .inl (List.mem_singleton.mp hcolon)
    · obtain ⟨piece, -, rfl⟩ := List.mem_map.mp hpart
      exact .inr (isHexDigit_of_mem_toDigits hmem)
  rcases toList_renderIpv6 pieces with hall | ⟨before, after, -, -, -, hgap⟩
  · exact hpieces pieces (hall ▸ hc)
  · rw [hgap, List.mem_append, List.mem_append] at hc
    rcases hc with (hbefore | hcolons) | hafter
    · exact hpieces before hbefore
    · exact .inl (by simpa using hcolons)
    · exact hpieces after hafter

/-! ## Hosts -/

def hostSet (c : Char) : Bool :=
  controlSet c || forbiddenInHost c

theorem sparesPercent_hostSet : SparesPercent hostSet :=
  List.all_iff_forall_prop.mp (by decide)

/-- A host as it is read where the scheme is not special. -/
inductive Host.Plain : Host → Prop
  | name {text : String} (htext : Encoded hostSet text.toList) : Plain (.name text)
  | ipv6 {pieces : List ℕ} (hpieces : IsIpv6 pieces) : Plain (.ipv6 pieces)

theorem toList_render_ipv6 (pieces : List ℕ) :
    (Host.ipv6 pieces).render.toList = '[' :: ((renderIpv6 pieces).toList ++ [']']) := by
  rw [Host.render, String.toList_append, String.toList_append]
  rfl

theorem plain_of_plainHost {text : List Char} {host : Host} (hhost : plainHost text = .ok host) :
    host.Plain := by
  unfold plainHost at hhost
  split at hhost
  next =>
    unfold bracketedHost bracketed at hhost
    split at hhost
    next =>
      dsimp only [bind, Except.bind] at hhost
      split at hhost
      next hpieces =>
        cases hhost
        exact .ipv6 (isIpv6_of_ipv6? hpieces)
      next => cases hhost
    next => cases hhost
  next =>
    split at hhost
    next => cases hhost
    next hallowed =>
      cases hhost
      refine .name fun c hc => ?_
      rw [String.toList_ofList] at hc
      rcases mem_percentEncode hc with ⟨hmem, hascii, hcontrol⟩ | hsign
      · have hforbidden : forbiddenInHost c = false := by
          simpa using fun hc => hallowed (List.any_eq_true.mpr ⟨c, hmem, hc⟩)
        exact ⟨hascii, by rw [hostSet, hcontrol, hforbidden]; rfl⟩
      · exact ⟨ascii_of_mem_percentSigns c hsign, sparesPercent_hostSet c hsign⟩

theorem plainHost_render {host : Host} (hhost : host.Plain) :
    plainHost host.render.toList = .ok host := by
  cases hhost with
  | name htext =>
      rename_i text
      have hopening : (text.toList.head? == some '[') = false := by
        rw [beq_eq_false_iff_ne]
        intro hhead
        exact absurd (htext '[' (List.mem_of_head? hhead)).2 (by decide)
      have hallowed : text.toList.any forbiddenInHost = false := by
        rw [List.any_eq_false]
        intro c hc
        have hset := (htext c hc).2
        simp_all [hostSet]
      have hcontrol : Encoded controlSet text.toList := by
        intro c hc
        have hset := htext c hc
        simp_all [hostSet]
      rw [Host.render, plainHost, if_neg (by simp [hopening]), if_neg (by simp [hallowed]),
        percentEncode_of_encoded hcontrol, String.ofList_toList]
  | ipv6 hpieces =>
      rename_i pieces
      rw [toList_render_ipv6, plainHost, if_pos (by rfl), bracketedHost, bracketed]
      have hlast : ('[' :: ((renderIpv6 pieces).toList ++ [']'])).getLast? = some ']' := by
        rw [← List.cons_append, List.getLast?_append]
        rfl
      have hinside : (('[' :: ((renderIpv6 pieces).toList ++ [']'])).drop 1).dropLast =
          (renderIpv6 pieces).toList := by
        rw [List.drop_succ_cons, List.drop_zero, List.dropLast_concat]
      simp only [hlast, hinside, bind, Except.bind, ipv6?_renderIpv6 hpieces]
      rfl

end SqlPipe.Url
