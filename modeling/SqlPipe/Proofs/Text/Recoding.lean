import SqlPipe.Proofs.Text.Encoding

/-!
# Bytes that are decoded and encoded again

What is malformed in a script is replaced when it is decoded, so the bytes of a text need not be
those it was decoded from.  They differ outside of ASCII only: every byte of ASCII stays where it
is, and a stretch of other bytes between two of them becomes another such stretch.
-/

namespace SqlPipe.Text

/-- No byte of ASCII. -/
def High (bytes : List UInt8) : Prop :=
  ∀ byte ∈ bytes, 0x80 ≤ byte

theorem High.not_mem {bytes : List UInt8} (hhigh : High bytes) {byte : UInt8}
    (hascii : byte < 0x80) : byte ∉ bytes :=
  fun hmem => UInt8.not_le.mpr hascii (hhigh byte hmem)

/-- The same bytes of ASCII in the same order, with stretches of other bytes in the same places. -/
inductive Recoded : List UInt8 → List UInt8 → Prop
  | nil : Recoded [] []
  | ascii {byte : UInt8} {bytes others : List UInt8} (hascii : byte < 0x80)
      (hrest : Recoded bytes others) : Recoded (byte :: bytes) (byte :: others)
  | high {stretch stretch' bytes others : List UInt8} (hne : stretch ≠ []) (hne' : stretch' ≠ [])
      (hhigh : High stretch) (hhigh' : High stretch') (hrest : Recoded bytes others) :
      Recoded (stretch ++ bytes) (stretch' ++ others)

/-! ## Characters outside of ASCII -/

section Characters

variable {first second third fourth : UInt8}

theorem byteIn_iff {low high byte : UInt8} :
    byteIn low high byte = true ↔ low.toNat ≤ byte.toNat ∧ byte.toNat ≤ high.toNat := by
  simp [byteIn, UInt8.le_iff_toNat_le]

theorem isContinuation_iff {byte : UInt8} :
    isContinuation byte = true ↔ 128 ≤ byte.toNat ∧ byte.toNat ≤ 191 :=
  byteIn_iff

/-- The second byte continues a character, and is bounded on one side behind four first bytes. -/
theorem bounds_of_secondByteOk (hsecond : secondByteOk first second = true) :
    (128 ≤ second.toNat ∧ second.toNat ≤ 191) ∧
      (first.toNat = 0xE0 → 0xA0 ≤ second.toNat) ∧ (first.toNat = 0xED → second.toNat ≤ 0x9F) ∧
      (first.toNat = 0xF0 → 0x90 ≤ second.toNat) ∧ (first.toNat = 0xF4 → second.toNat ≤ 0x8F) := by
  simp only [secondByteOk, beq_iff_eq, ← UInt8.toNat_inj, isContinuation] at hsecond
  split_ifs at hsecond <;> rw [byteIn_iff] at hsecond <;> simp at * <;> omega

theorem toNat_ofNat {n : ℕ} (hvalid : n < 0xD800 ∨ 0xDFFF < n ∧ n < 0x110000) :
    (Char.ofNat n).toNat = n := by
  rw [Char.ofNat, dif_pos hvalid]
  rfl

theorem high_assembleChar_two
    (hfirst : byteIn 0xC2 0xDF first = true) (hsecond : isContinuation second = true) :
    0x80 ≤ (assembleChar (first.toNat - 0xC0) [second]).toNat := by
  obtain ⟨hlow, hhigh⟩ : 0xC2 ≤ first.toNat ∧ first.toNat ≤ 0xDF := byteIn_iff.mp hfirst
  have hbound := isContinuation_iff.mp hsecond
  simp only [assembleChar, List.foldl_cons, List.foldl_nil]
  change 128 ≤ (Char.ofNat ((first.toNat - 192) * 64 + (second.toNat - 128))).toNat
  rw [toNat_ofNat (by omega)]
  omega

theorem high_assembleChar_three
    (hfirst : byteIn 0xE0 0xEF first = true) (hsecond : secondByteOk first second = true)
    (hthird : isContinuation third = true) :
    0x80 ≤ (assembleChar (first.toNat - 0xE0) [second, third]).toNat := by
  obtain ⟨hlow, hhigh⟩ : 0xE0 ≤ first.toNat ∧ first.toNat ≤ 0xEF := byteIn_iff.mp hfirst
  have hbound := bounds_of_secondByteOk hsecond
  have hbound' := isContinuation_iff.mp hthird
  simp only [assembleChar, List.foldl_cons, List.foldl_nil]
  change 128 ≤ (Char.ofNat (((first.toNat - 224) * 64 + (second.toNat - 128)) * 64 +
    (third.toNat - 128))).toNat
  rw [toNat_ofNat (by omega)]
  omega

theorem high_assembleChar_four
    (hfirst : byteIn 0xF0 0xF4 first = true) (hsecond : secondByteOk first second = true)
    (hthird : isContinuation third = true) (hfourth : isContinuation fourth = true) :
    0x80 ≤ (assembleChar (first.toNat - 0xF0) [second, third, fourth]).toNat := by
  obtain ⟨hlow, hhigh⟩ : 0xF0 ≤ first.toNat ∧ first.toNat ≤ 0xF4 := byteIn_iff.mp hfirst
  have hbound := bounds_of_secondByteOk hsecond
  have hbound' := isContinuation_iff.mp hthird
  have hbound'' := isContinuation_iff.mp hfourth
  simp only [assembleChar, List.foldl_cons, List.foldl_nil]
  change 128 ≤ (Char.ofNat ((((first.toNat - 240) * 64 + (second.toNat - 128)) * 64 +
    (third.toNat - 128)) * 64 + (fourth.toNat - 128))).toNat
  rw [toNat_ofNat (by omega)]
  omega

end Characters

theorem le_of_isContinuation {byte : UInt8} (hbyte : isContinuation byte = true) : 0x80 ≤ byte :=
  UInt8.le_iff_toNat_le.mpr (isContinuation_iff.mp hbyte).1

theorem le_of_secondByteOk {first byte : UInt8} (hbyte : secondByteOk first byte = true) :
    0x80 ≤ byte :=
  UInt8.le_iff_toNat_le.mpr (bounds_of_secondByteOk hbyte).1.1

/-- A character outside of ASCII, with the bytes that are left behind it where it takes no byte of
ASCII. -/
def HighFirst (rest : List UInt8) (answer : Char × List UInt8) : Prop :=
  ∃ taken, rest = taken ++ answer.2 ∧ High taken ∧ 0x80 ≤ answer.1.toNat

theorem HighFirst.nil {c : Char} (hc : 0x80 ≤ c.toNat) (rest : List UInt8) :
    HighFirst rest (c, rest) :=
  ⟨[], rfl, List.forall_mem_nil _, hc⟩

theorem HighFirst.cons
    {byte : UInt8} {rest : List UInt8} {answer : Char × List UInt8} (hbyte : 0x80 ≤ byte)
    (hrest : HighFirst rest answer) : HighFirst (byte :: rest) answer := by
  obtain ⟨taken, rfl, hhigh, hc⟩ := hrest
  exact ⟨byte :: taken, rfl, List.forall_mem_cons.mpr ⟨hbyte, hhigh⟩, hc⟩

/-- A byte outside of ASCII begins a character outside of ASCII, which takes no byte of ASCII. -/
theorem highFirst_decodeFirst {first : UInt8} (hfirst : 0x80 ≤ first) (rest : List UInt8) :
    HighFirst rest (decodeFirst first rest) := by
  have hreplaced : 0x80 ≤ replacement.toNat := by decide
  have hone : ¬first < 0x80 := UInt8.not_lt.mpr hfirst
  unfold decodeFirst
  rw [if_neg hone]
  -- every byte that is taken continues a character; where one does not, it is left
  split_ifs with htwo hthree hfour
  · split
    next second rest =>
      split_ifs with hsecond
      · exact .cons (le_of_isContinuation hsecond) (.nil (high_assembleChar_two htwo hsecond) rest)
      · exact .nil hreplaced _
    next => exact .nil hreplaced _
  · split
    next second rest =>
      split_ifs with hsecond
      · refine .cons (le_of_secondByteOk hsecond) ?_
        split
        next third rest =>
          split_ifs with hthird
          · exact .cons (le_of_isContinuation hthird)
              (.nil (high_assembleChar_three hthree hsecond hthird) rest)
          · exact .nil hreplaced _
        next => exact .nil hreplaced _
      · exact .nil hreplaced _
    next => exact .nil hreplaced _
  · split
    next second rest =>
      split_ifs with hsecond
      · refine .cons (le_of_secondByteOk hsecond) ?_
        split
        next third rest =>
          split_ifs with hthird
          · refine .cons (le_of_isContinuation hthird) ?_
            split
            next fourth rest =>
              split_ifs with hfourth
              · exact .cons (le_of_isContinuation hfourth)
                  (.nil (high_assembleChar_four hfour hsecond hthird hfourth) rest)
              · exact .nil hreplaced _
            next => exact .nil hreplaced _
          · exact .nil hreplaced _
        next => exact .nil hreplaced _
      · exact .nil hreplaced _
    next => exact .nil hreplaced _
  · exact .nil hreplaced rest

/-! ## Encoding again -/

theorem toNat_charOfByte (byte : UInt8) : (charOfByte byte).toNat = byte.toNat :=
  toNat_ofNat (.inl (Nat.lt_trans byte.toNat_lt (by decide)))

theorem encodeChar_charOfByte {byte : UInt8} (hascii : byte < 0x80) :
    String.utf8EncodeChar (charOfByte byte) = [byte] := by
  have hvalue : (charOfByte byte).val.toNat = byte.toNat := toNat_charOfByte byte
  have hsmall : byte.toNat ≤ 127 := Nat.le_of_lt_succ (UInt8.lt_iff_toNat_lt.mp hascii)
  unfold String.utf8EncodeChar
  simp only [hvalue, if_pos hsmall, UInt8.ofNat_toNat]

theorem high_encodeChar {c : Char} (hc : 0x80 ≤ c.toNat) : High (String.utf8EncodeChar c) := by
  intro byte hmem
  by_contra hlow
  have hascii : byte < 0x80 := UInt8.not_le.mp hlow
  rw [(encodeChar_of_mem hmem hascii).2, toNat_charOfByte] at hc
  exact hlow (UInt8.le_iff_toNat_le.mpr hc)

theorem encodeChar_ne_nil (c : Char) : String.utf8EncodeChar c ≠ [] := by
  simp only [String.utf8EncodeChar]
  split_ifs <;> simp

/-- Decoding and encoding again keeps the bytes of ASCII where they are. -/
theorem recoded_utf8Encode_utf8Decode (bytes : List UInt8) :
    Recoded bytes (utf8Encode (utf8Decode bytes)) := by
  induction hlength : bytes.length using Nat.strongRecOn generalizing bytes with
  | ind length ih =>
  cases bytes with
  | nil =>
      rw [utf8Decode_nil]
      exact .nil
  | cons first rest =>
      have hshorter : (decodeFirst first rest).2.length < length := by
        have hle := length_decodeFirst_le first rest
        rw [← hlength, List.length_cons]
        omega
      have hrest := ih _ hshorter (decodeFirst first rest).2 rfl
      rw [utf8Decode_cons, utf8Encode_cons]
      by_cases hascii : first < 0x80
      · have hfirst : decodeFirst first rest = (charOfByte first, rest) := if_pos hascii
        rw [hfirst] at hrest ⊢
        rw [encodeChar_charOfByte hascii]
        exact .ascii hascii hrest
      · obtain ⟨taken, htaken, hhigh, hcode⟩ := highFirst_decodeFirst (UInt8.not_lt.mp hascii) rest
        have hstretch : High (first :: taken) :=
          List.forall_mem_cons.mpr ⟨UInt8.not_lt.mp hascii, hhigh⟩
        have hbytes : first :: rest = (first :: taken) ++ (decodeFirst first rest).2 := by
          rw [List.cons_append, ← htaken]
        rw [hbytes]
        exact .high (List.cons_ne_nil first taken) (encodeChar_ne_nil _) hstretch
          (high_encodeChar hcode) hrest

end SqlPipe.Text
