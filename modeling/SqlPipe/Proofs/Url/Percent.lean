import SqlPipe.Url.Percent
import SqlPipe.Proofs.Text.Recoding
import Mathlib.Data.Bool.AllAny

/-!
# Percent forms read back

A text in which every character may stand at its place is written as it is, and writing any text
leaves such a text, so writing it a second time changes nothing.  The bytes of what was written are
read back.
-/

namespace SqlPipe.Url

variable {set : Char → Bool} {text : List Char}

/-- Every character of the text stands for itself where the set may not stand. -/
def Encoded (set : Char → Bool) (text : List Char) : Prop :=
  ∀ c ∈ text, c.toNat < 0x80 ∧ set c = false

def percentSigns : List Char := "%0123456789ABCDEF".toList

/-- Percent forms may stand where the set may not. -/
def SparesPercent (set : Char → Bool) : Prop :=
  ∀ c ∈ percentSigns, set c = false

theorem sparesPercent_userinfoSet : SparesPercent userinfoSet :=
  List.all_iff_forall_prop.mp (by decide)

theorem sparesPercent_pathSet : SparesPercent pathSet :=
  List.all_iff_forall_prop.mp (by decide)

theorem sparesPercent_querySet : SparesPercent querySet :=
  List.all_iff_forall_prop.mp (by decide)

theorem sparesPercent_fragmentSet : SparesPercent fragmentSet :=
  List.all_iff_forall_prop.mp (by decide)

theorem Encoded.not_mem (htext : Encoded set text) {c : Char} (hc : set c = true) : c ∉ text := by
  intro hmem
  rw [(htext c hmem).2] at hc
  cases hc

theorem forall_ascii
    {p : Char → Prop} (hall : ∀ code < 0x80, p (Char.ofNat code)) {c : Char}
    (hc : c.toNat < 0x80) : p c := by
  have hcode := hall c.toNat hc
  rwa [Char.ofNat_toNat] at hcode

/-- What every character of ASCII outside the set is, every character of the text is. -/
theorem Encoded.forall_eq_false
    (htext : Encoded set text) {sign : Char → Bool}
    (hsign : ∀ code < 0x80, set (Char.ofNat code) = false → sign (Char.ofNat code) = false) :
    ∀ c ∈ text, sign c = false :=
  fun c hc => forall_ascii (p := fun c => set c = false → sign c = false) hsign
    (htext c hc).1 (htext c hc).2

theorem percentEncode_of_encoded (htext : Encoded set text) : percentEncode set text = text := by
  induction text with
  | nil => rfl
  | cons c text ih =>
      obtain ⟨⟨hascii, hplain⟩, hothers⟩ := List.forall_mem_cons.mp htext
      have hone : percentChar set c = [c] := by simp [percentChar, hascii, hplain]
      have hrest : text.flatMap (percentChar set) = text := ih hothers
      rw [percentEncode, List.flatMap_cons, hone, hrest, List.singleton_append]

theorem hexDigit_mem_percentSigns : ∀ value < 16, hexDigit value ∈ percentSigns := by
  decide

theorem mem_percentSigns_of_percentByte
    {byte : UInt8} {c : Char} (hc : c ∈ percentByte byte) : c ∈ percentSigns := by
  have hbound := byte.toNat_lt
  simp only [percentByte, List.mem_cons, List.not_mem_nil, or_false] at hc
  rcases hc with rfl | rfl | rfl
  · decide
  · exact hexDigit_mem_percentSigns _ (by omega)
  · exact hexDigit_mem_percentSigns _ (by omega)

/-- What is written for a character is the character itself or a percent form. -/
theorem mem_percentChar {c d : Char} (hd : d ∈ percentChar set c) :
    d = c ∧ c.toNat < 0x80 ∧ set c = false ∨ d ∈ percentSigns := by
  unfold percentChar at hd
  split at hd
  next hplain => exact .inl ⟨List.mem_singleton.mp hd, by simpa using hplain⟩
  next =>
    obtain ⟨byte, -, hbyte⟩ := List.mem_flatMap.mp hd
    exact .inr (mem_percentSigns_of_percentByte hbyte)

theorem mem_percentEncode {d : Char} (hd : d ∈ percentEncode set text) :
    d ∈ text ∧ d.toNat < 0x80 ∧ set d = false ∨ d ∈ percentSigns := by
  obtain ⟨c, hc, hmem⟩ := List.mem_flatMap.mp hd
  rcases mem_percentChar hmem with ⟨rfl, hplain⟩ | hsign
  · exact .inl ⟨hc, hplain⟩
  · exact .inr hsign

theorem ascii_of_mem_percentSigns : ∀ c ∈ percentSigns, c.toNat < 0x80 :=
  List.all_iff_forall_prop.mp (by decide)

theorem encoded_percentEncode (hset : SparesPercent set) (text : List Char) :
    Encoded set (percentEncode set text) := by
  intro d hd
  rcases mem_percentEncode hd with ⟨-, hplain⟩ | hsign
  · exact hplain
  · exact ⟨ascii_of_mem_percentSigns d hsign, hset d hsign⟩

theorem percentChar_ne_nil (set : Char → Bool) (c : Char) : percentChar set c ≠ [] := by
  unfold percentChar
  split
  next => exact List.cons_ne_nil _ _
  next =>
    obtain ⟨byte, rest, hsplit⟩ := List.exists_cons_of_ne_nil (Text.encodeChar_ne_nil c)
    simp [Text.utf8Encode, hsplit, percentByte]

theorem percentEncode_eq_nil_iff : percentEncode set text = [] ↔ text = [] := by
  constructor
  · intro hnil
    cases text with
    | nil => rfl
    | cons c text =>
        have hfirst := (List.append_eq_nil_iff.mp hnil).1
        exact absurd hfirst (percentChar_ne_nil set c)
  · rintro rfl
    rfl

/-! ## Reading back -/

theorem percentDecodeOnto_eq (decoded bytes : List UInt8) :
    percentDecodeOnto decoded bytes = decoded.reverse ++ percentDecode bytes := by
  unfold percentDecode
  -- the tail shrinks by one byte or by three, and the bytes already decoded grow
  induction hlength : bytes.length using Nat.strong_induction_on generalizing decoded bytes with
  | _ n ih =>
      subst hlength
      match bytes with
      | [] => simp [percentDecodeOnto]
      | [a] => simp [percentDecodeOnto]
      | [a, b] => simp [percentDecodeOnto]
      | a :: b :: c :: rest =>
          rw [percentDecodeOnto, percentDecodeOnto]
          split
          next byte hbyte =>
            rw [ih _ (by simp; omega) (byte :: decoded) rest rfl,
              ih _ (by simp; omega) [byte] rest rfl]
            simp
          next =>
            rw [ih _ (by simp) (a :: decoded) (b :: c :: rest) rfl,
              ih _ (by simp) [a] (b :: c :: rest) rfl]
            simp

theorem percentDecode_cons {byte : UInt8} (hbyte : byte ≠ 0x25) (rest : List UInt8) :
    percentDecode (byte :: rest) = byte :: percentDecode rest := by
  match rest with
  | [] => rfl
  | [a] => rfl
  | a :: b :: rest =>
      have hplain : (byte == 0x25) = false := by simpa using hbyte
      rw [percentDecode, percentDecodeOnto]
      simp only [hplain, Bool.false_eq_true, if_false]
      rw [percentDecodeOnto_eq]
      rfl

theorem hexPair?_hexDigit : ∀ high < 16, ∀ low < 16,
    hexPair? (UInt8.ofNat (hexDigit high).toNat) (UInt8.ofNat (hexDigit low).toNat) =
      some (UInt8.ofNat (high * 16 + low)) := by
  decide

theorem utf8Encode_of_ascii (htext : ∀ c ∈ text, c.toNat < 0x80) :
    Text.utf8Encode text = text.map fun c => UInt8.ofNat c.toNat := by
  induction text with
  | nil => rfl
  | cons c text ih =>
      obtain ⟨hc, hothers⟩ := List.forall_mem_cons.mp htext
      have hone : String.utf8EncodeChar c = [UInt8.ofNat c.toNat] := if_pos (Nat.le_of_lt_succ hc)
      rw [Text.utf8Encode_cons, hone, ih hothers, List.singleton_append, List.map_cons]

theorem percentDecode_percentByte (byte : UInt8) (rest : List UInt8) :
    percentDecode (Text.utf8Encode (percentByte byte) ++ rest) = byte :: percentDecode rest := by
  have hbound := byte.toNat_lt
  have hhigh : byte.toNat / 16 < 16 := by omega
  have hlow : byte.toNat % 16 < 16 := by omega
  have hascii : ∀ c ∈ percentByte byte, c.toNat < 0x80 := fun c hc =>
    ascii_of_mem_percentSigns c (mem_percentSigns_of_percentByte hc)
  have hpair := hexPair?_hexDigit _ hhigh _ hlow
  have hbyte : UInt8.ofNat (byte.toNat / 16 * 16 + byte.toNat % 16) = byte := by
    rw [Nat.div_add_mod', UInt8.ofNat_toNat]
  rw [utf8Encode_of_ascii hascii]
  simp only [percentByte, List.map_cons, List.map_nil, List.cons_append, List.nil_append]
  rw [percentDecode, percentDecodeOnto]
  have hsign : (UInt8.ofNat '%'.toNat == 0x25) = true := by decide
  simp only [hsign, if_true, hpair, hbyte]
  rw [percentDecodeOnto_eq]
  rfl

theorem percentDecode_percentBytes (bytes rest : List UInt8) :
    percentDecode (Text.utf8Encode (bytes.flatMap percentByte) ++ rest) =
      bytes ++ percentDecode rest := by
  induction bytes with
  | nil => simp
  | cons byte bytes ih =>
      rw [List.flatMap_cons, Text.utf8Encode_append, List.append_assoc, percentDecode_percentByte,
        ih, List.cons_append]

end SqlPipe.Url
