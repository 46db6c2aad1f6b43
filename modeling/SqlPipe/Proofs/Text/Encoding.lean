import SqlPipe.Proofs.Text.Decoding

/-!
# Encoding and decoding

Decoding gives back every text that was encoded.  Its bytes below `0x80` are the characters of ASCII
in it, so a reader of bytes that looks for such a character finds it where the text has it, and
nowhere else.
-/

namespace SqlPipe.Text

/-! ## Bytes as numbers -/

theorem byteIn_ofNat {n : ℕ} (hn : n < 256) (low high : UInt8) :
    byteIn low high (UInt8.ofNat n) = decide (low.toNat ≤ n ∧ n ≤ high.toNat) := by
  have hbyte : (UInt8.ofNat n).toNat = n := by simpa using Nat.mod_eq_of_lt hn
  simp [byteIn, UInt8.le_iff_toNat_le, hbyte, Bool.decide_and]

theorem ofNat_beq {n : ℕ} (hn : n < 256) (byte : UInt8) :
    (UInt8.ofNat n == byte) = decide (n = byte.toNat) := by
  have hbyte : (UInt8.ofNat n).toNat = n := by simpa using Nat.mod_eq_of_lt hn
  rw [Bool.eq_iff_iff, beq_iff_eq, decide_eq_true_iff, ← UInt8.toNat_inj, hbyte]

theorem not_ofNat_lt {n : ℕ} (hn : n < 256) (hlow : 128 ≤ n) : ¬UInt8.ofNat n < 0x80 := by
  have hbyte : (UInt8.ofNat n).toNat = n := by simpa using Nat.mod_eq_of_lt hn
  rw [UInt8.lt_iff_toNat_lt, hbyte]
  exact not_lt.mpr hlow

theorem isContinuation_payload (n : ℕ) : isContinuation (UInt8.ofNat (n % 64 + 128)) = true := by
  rw [isContinuation, byteIn_ofNat (by omega), decide_eq_true_iff]
  have hlow : (0x80 : UInt8).toNat = 128 := rfl
  have hhigh : (0xBF : UInt8).toNat = 191 := rfl
  omega

theorem toNat_payload (n : ℕ) : (UInt8.ofNat (n % 64 + 128)).toNat - 0x80 = n % 64 := by
  simp
  omega

theorem assembleChar_cons (first : ℕ) (n : ℕ) (others : List UInt8) :
    assembleChar first (UInt8.ofNat (n % 64 + 128) :: others) =
      assembleChar (first * 64 + n % 64) others := by
  rw [assembleChar, List.foldl_cons, toNat_payload]
  rfl

theorem toNat_ofNat_sub {n low : ℕ} (hn : n + low < 256) :
    (UInt8.ofNat (n + low)).toNat - low = n := by
  have hbyte : (UInt8.ofNat (n + low)).toNat = n + low := by simpa using Nat.mod_eq_of_lt hn
  omega

/-! ## Encoded texts -/

@[simp] theorem utf8Encode_nil : utf8Encode [] = [] := rfl

theorem utf8Encode_cons (c : Char) (text : List Char) :
    utf8Encode (c :: text) = String.utf8EncodeChar c ++ utf8Encode text := rfl

theorem utf8Encode_append (front behind : List Char) :
    utf8Encode (front ++ behind) = utf8Encode front ++ utf8Encode behind := by
  simp [utf8Encode]

theorem utf8Bytes_append (front behind : String) :
    utf8Bytes (front ++ behind) = utf8Bytes front ++ utf8Bytes behind := by
  rw [utf8Bytes, String.toList_append, utf8Encode_append]
  rfl

/-! ## Characters -/

section Characters

variable {v : ℕ} (rest : List UInt8)

theorem decodeFirst_two (hlow : 0x80 ≤ v) (hhigh : v ≤ 0x7FF) :
    decodeFirst (UInt8.ofNat (v / 64 % 32 + 192)) (UInt8.ofNat (v % 64 + 128) :: rest) =
      (Char.ofNat v, rest) := by
  have hcode : assembleChar ((UInt8.ofNat (v / 64 % 32 + 192)).toNat - 0xC0)
      [UInt8.ofNat (v % 64 + 128)] = Char.ofNat v := by
    rw [assembleChar_cons, toNat_ofNat_sub (by omega), assembleChar, List.foldl_nil]
    congr 1
    omega
  have htwo : byteIn 0xC2 0xDF (UInt8.ofNat (v / 64 % 32 + 192)) = true := by
    rw [byteIn_ofNat (by omega), decide_eq_true_iff]
    change 194 ≤ _ ∧ _ ≤ 223
    omega
  have hone := not_ofNat_lt (n := v / 64 % 32 + 192) (by omega) (by omega)
  have hsecond := isContinuation_payload v
  simp only [decodeFirst, if_neg hone, if_pos htwo, if_pos hsecond, hcode]

theorem decodeFirst_three
    (hlow : 0x800 ≤ v) (hhigh : v ≤ 0xFFFF) (hvalid : v < 0xD800 ∨ 0xDFFF < v) :
    decodeFirst (UInt8.ofNat (v / 4096 % 16 + 224))
        (UInt8.ofNat (v / 64 % 64 + 128) :: UInt8.ofNat (v % 64 + 128) :: rest) =
      (Char.ofNat v, rest) := by
  have hcode : assembleChar ((UInt8.ofNat (v / 4096 % 16 + 224)).toNat - 0xE0)
      [UInt8.ofNat (v / 64 % 64 + 128), UInt8.ofNat (v % 64 + 128)] = Char.ofNat v := by
    rw [assembleChar_cons, assembleChar_cons, toNat_ofNat_sub (by omega), assembleChar,
      List.foldl_nil]
    congr 1
    omega
  have htwo : ¬byteIn 0xC2 0xDF (UInt8.ofNat (v / 4096 % 16 + 224)) = true := by
    rw [byteIn_ofNat (by omega), decide_eq_true_iff]
    change ¬(194 ≤ _ ∧ _ ≤ 223)
    omega
  have hthree : byteIn 0xE0 0xEF (UInt8.ofNat (v / 4096 % 16 + 224)) = true := by
    rw [byteIn_ofNat (by omega), decide_eq_true_iff]
    change 224 ≤ _ ∧ _ ≤ 239
    omega
  -- the shortest forms and the surrogates bound the second byte on either side
  have hsecond : secondByteOk (UInt8.ofNat (v / 4096 % 16 + 224))
      (UInt8.ofNat (v / 64 % 64 + 128)) = true := by
    simp only [secondByteOk, isContinuation, ofNat_beq (show v / 4096 % 16 + 224 < 256 by omega),
      byteIn_ofNat (show v / 64 % 64 + 128 < 256 by omega), UInt8.toNat_ofNat]
    split_ifs <;> simp_all <;> omega
  have hone := not_ofNat_lt (n := v / 4096 % 16 + 224) (by omega) (by omega)
  have hthird := isContinuation_payload v
  simp only [decodeFirst, if_neg hone, if_neg htwo, if_pos hthree, if_pos hsecond, if_pos hthird,
    hcode]

theorem decodeFirst_four (hlow : 0x10000 ≤ v) (hhigh : v < 0x110000) :
    decodeFirst (UInt8.ofNat (v / 262144 % 8 + 240))
        (UInt8.ofNat (v / 4096 % 64 + 128) :: UInt8.ofNat (v / 64 % 64 + 128) ::
          UInt8.ofNat (v % 64 + 128) :: rest) =
      (Char.ofNat v, rest) := by
  have hcode : assembleChar ((UInt8.ofNat (v / 262144 % 8 + 240)).toNat - 0xF0)
      [UInt8.ofNat (v / 4096 % 64 + 128), UInt8.ofNat (v / 64 % 64 + 128),
        UInt8.ofNat (v % 64 + 128)] = Char.ofNat v := by
    rw [assembleChar_cons, assembleChar_cons, assembleChar_cons, toNat_ofNat_sub (by omega),
      assembleChar, List.foldl_nil]
    congr 1
    omega
  have htwo : ¬byteIn 0xC2 0xDF (UInt8.ofNat (v / 262144 % 8 + 240)) = true := by
    rw [byteIn_ofNat (by omega), decide_eq_true_iff]
    change ¬(194 ≤ _ ∧ _ ≤ 223)
    omega
  have hthree : ¬byteIn 0xE0 0xEF (UInt8.ofNat (v / 262144 % 8 + 240)) = true := by
    rw [byteIn_ofNat (by omega), decide_eq_true_iff]
    change ¬(224 ≤ _ ∧ _ ≤ 239)
    omega
  have hfour : byteIn 0xF0 0xF4 (UInt8.ofNat (v / 262144 % 8 + 240)) = true := by
    rw [byteIn_ofNat (by omega), decide_eq_true_iff]
    change 240 ≤ _ ∧ _ ≤ 244
    omega
  have hsecond : secondByteOk (UInt8.ofNat (v / 262144 % 8 + 240))
      (UInt8.ofNat (v / 4096 % 64 + 128)) = true := by
    simp only [secondByteOk, isContinuation, ofNat_beq (show v / 262144 % 8 + 240 < 256 by omega),
      byteIn_ofNat (show v / 4096 % 64 + 128 < 256 by omega), UInt8.toNat_ofNat]
    split_ifs <;> simp_all <;> omega
  have hone := not_ofNat_lt (n := v / 262144 % 8 + 240) (by omega) (by omega)
  have hthird := isContinuation_payload (v / 64)
  have hfourth := isContinuation_payload v
  simp only [decodeFirst, if_neg hone, if_neg htwo, if_neg hthree, if_pos hfour, if_pos hsecond,
    if_pos hthird, if_pos hfourth, hcode]

end Characters

/-- The first character of an encoded text is the one that was encoded. -/
theorem utf8Decode_encodeChar (c : Char) (rest : List UInt8) :
    utf8Decode (String.utf8EncodeChar c ++ rest) = c :: utf8Decode rest := by
  have hvalid : c.toNat < 0xD800 ∨ 0xDFFF < c.toNat ∧ c.toNat < 0x110000 := c.valid
  have hvalue : c.val.toNat = c.toNat := rfl
  have hchar : Char.ofNat c.toNat = c := Char.ofNat_toNat c
  unfold String.utf8EncodeChar
  simp only [hvalue]
  split_ifs with hone htwo hthree
  · have hbyte : (UInt8.ofNat c.toNat).toNat = c.toNat := by
      simpa using Nat.mod_eq_of_lt (show c.toNat < 256 by omega)
    have hascii : UInt8.ofNat c.toNat < 0x80 := by
      rw [UInt8.lt_iff_toNat_lt, hbyte]
      exact Nat.lt_succ_of_le hone
    rw [List.singleton_append, utf8Decode_cons]
    simp only [decodeFirst, if_pos hascii, hbyte, hchar]
  · rw [List.cons_append, List.singleton_append, utf8Decode_cons,
      decodeFirst_two rest (by omega) htwo, hchar]
  · rw [List.cons_append, List.cons_append, List.singleton_append, utf8Decode_cons,
      decodeFirst_three rest (by omega) hthree (by omega), hchar]
  · rw [List.cons_append, List.cons_append, List.cons_append, List.singleton_append,
      utf8Decode_cons, decodeFirst_four rest (by omega) (by omega), hchar]

theorem utf8Decode_utf8Encode (text : List Char) : utf8Decode (utf8Encode text) = text := by
  induction text with
  | nil => exact utf8Decode_nil
  | cons c text ih =>
      rw [utf8Encode_cons, utf8Decode_encodeChar, ih]

/-! ## Bytes of ASCII -/

theorem encodeChar_of_mem
    {c : Char} {byte : UInt8} (hbyte : byte ∈ String.utf8EncodeChar c) (hascii : byte < 0x80) :
    String.utf8EncodeChar c = [byte] ∧ c = charOfByte byte := by
  have hsmall : c.toNat ≤ 127 := by
    by_contra hlarge
    unfold String.utf8EncodeChar at hbyte
    have hvalue : c.val.toNat = c.toNat := rfl
    simp only [hvalue, if_neg hlarge] at hbyte
    have hhigh : ∀ n, n < 256 → 128 ≤ n → byte ≠ UInt8.ofNat n := by
      rintro n hn hlow rfl
      exact not_ofNat_lt hn hlow hascii
    split_ifs at hbyte <;>
      simp only [List.mem_cons, List.not_mem_nil, or_false] at hbyte
    · rcases hbyte with h | h <;> exact hhigh _ (by omega) (by omega) h
    · rcases hbyte with h | h | h <;> exact hhigh _ (by omega) (by omega) h
    · rcases hbyte with h | h | h | h <;> exact hhigh _ (by omega) (by omega) h
  have hone : String.utf8EncodeChar c = [UInt8.ofNat c.toNat] := if_pos hsmall
  rw [hone, List.mem_singleton] at hbyte
  refine ⟨by rw [hone, hbyte], ?_⟩
  have hnumber : (UInt8.ofNat c.toNat).toNat = c.toNat := by
    simpa using Nat.mod_eq_of_lt (show c.toNat < 256 by omega)
  rw [hbyte, charOfByte, hnumber, Char.ofNat_toNat]

end SqlPipe.Text
