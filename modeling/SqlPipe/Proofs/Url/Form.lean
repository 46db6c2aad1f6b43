import SqlPipe.Url.Form
import SqlPipe.Proofs.Sql.Lexing
import SqlPipe.Proofs.Url.Percent
import SqlPipe.Proofs.Text.Splitting

/-!
# Form parameters read back

What is written for a name or a value is read as that name or value again, whatever characters it
holds, and the query written for some parameters is read as just those parameters.  A written query
holds no character that a URL would have to change in it.
-/

namespace SqlPipe.Url

/-! ## A name or a value -/

def formChar (c : Char) : List Char :=
  if c == ' ' then ['+'] else percentChar (fun c => !formPlain c) c

theorem formEncode_eq (text : String) : formEncode text = text.toList.flatMap formChar := rfl

def isFormSign (c : Char) : Bool :=
  c == '+' || c == '%' || formPlain c

theorem formPlain_bounded {c : Char} (hc : formPlain c = true) : c.toNat < 0x80 := by
  rcases Bool.or_eq_true_iff.mp hc with halphanum | hsign
  · rcases Bool.or_eq_true_iff.mp halphanum with halpha | hdigit
    · have hcode := Sql.isAlpha_iff.mp halpha
      omega
    · have hcode := Sql.isDigit_iff.mp hdigit
      omega
  · have hsigns : ∀ d ∈ ['*', '-', '.', '_'], d.toNat < 0x80 :=
      List.all_iff_forall_prop.mp (by decide)
    exact hsigns c (List.contains_iff_mem.mp hsign)

/-- A sign of a written name or value may stand in a query as it is. -/
theorem spared_of_isFormSign {c : Char} (hc : isFormSign c = true) :
    c.toNat < 0x80 ∧ querySet c = false := by
  have hbound : c.toNat < 0x80 := by
    simp only [isFormSign, Bool.or_eq_true, beq_iff_eq] at hc
    rcases hc with (rfl | rfl) | hplain
    · decide
    · decide
    · exact formPlain_bounded hplain
  exact ⟨hbound, forall_ascii (p := fun c => isFormSign c = true → querySet c = false)
    (by decide) hbound hc⟩

theorem isFormSign_of_mem_percentSigns : ∀ c ∈ percentSigns, isFormSign c = true :=
  List.all_eq_true.mp (by decide)

theorem isFormSign_of_mem_formEncode {text : String} {c : Char} (hc : c ∈ formEncode text) :
    isFormSign c = true := by
  obtain ⟨d, -, hd⟩ := List.mem_flatMap.mp hc
  split at hd
  next =>
    obtain rfl := List.mem_singleton.mp hd
    decide
  next =>
    rcases mem_percentChar hd with ⟨rfl, -, hplain⟩ | hsign
    · exact Bool.or_eq_true_iff.mpr (.inr (by simpa using hplain))
    · exact isFormSign_of_mem_percentSigns c hsign

def plusToBlank (c : Char) : Char :=
  if c == '+' then ' ' else c

theorem percentDecode_formChar (c : Char) (rest : List UInt8) :
    percentDecode (Text.utf8Encode ((formChar c).map plusToBlank) ++ rest) =
      String.utf8EncodeChar c ++ percentDecode rest := by
  unfold formChar percentChar
  split
  next hblank =>
    obtain rfl := beq_iff_eq.mp hblank
    exact percentDecode_cons (by decide) rest
  next =>
    split
    next hplain =>
      obtain ⟨hascii, hform⟩ := Bool.and_eq_true_iff.mp hplain
      have hplus : plusToBlank c = c := by
        refine if_neg fun heq => ?_
        obtain rfl := beq_iff_eq.mp heq
        exact absurd hform (by decide)
      have hbound : c.toNat < 0x80 := of_decide_eq_true hascii
      have hpercent : UInt8.ofNat c.toNat ≠ 0x25 := by
        intro heq
        have hcode : c.toNat = 0x25 := by
          simpa [Text.ofNat_beq (show c.toNat < 256 by omega)] using beq_iff_eq.mpr heq
        obtain rfl : c = '%' := by
          rw [← Char.ofNat_toNat c, hcode]
        exact absurd hform (by decide)
      have hone : String.utf8EncodeChar c = [UInt8.ofNat c.toNat] :=
        if_pos (Nat.le_of_lt_succ hbound)
      rw [List.map_singleton, hplus, Text.utf8Encode_cons, Text.utf8Encode_nil, List.append_nil,
        hone]
      exact percentDecode_cons hpercent rest
    next =>
      have hsigns : ((Text.utf8Encode [c]).flatMap percentByte).map plusToBlank =
          (Text.utf8Encode [c]).flatMap percentByte := by
        refine (List.map_congr_left fun d hd => ?_).trans (List.map_id _)
        obtain ⟨byte, -, hbyte⟩ := List.mem_flatMap.mp hd
        have hplus : '+' ∉ percentSigns := by decide
        refine if_neg fun heq => hplus ?_
        exact beq_iff_eq.mp heq ▸ mem_percentSigns_of_percentByte hbyte
      rw [hsigns, percentDecode_percentBytes]
      simp [Text.utf8Encode]

theorem formDecode_formEncode (text : String) : formDecode (formEncode text) = text := by
  have hbytes : ∀ rest,
      percentDecode (Text.utf8Encode ((formEncode text).map plusToBlank) ++ rest) =
        Text.utf8Encode text.toList ++ percentDecode rest := by
    rw [formEncode_eq]
    induction text.toList with
    | nil => exact fun rest => rfl
    | cons c others ih =>
        intro rest
        rw [List.flatMap_cons, List.map_append, Text.utf8Encode_append, List.append_assoc,
          percentDecode_formChar, ih, Text.utf8Encode_cons, List.append_assoc]
  have hall := hbytes []
  rw [List.append_nil, show percentDecode [] = [] from rfl, List.append_nil] at hall
  rw [formDecode, show (fun c : Char => if c == '+' then ' ' else c) = plusToBlank from rfl, hall,
    Text.utf8String, Text.utf8Decode_utf8Encode, String.ofList_toList]

/-! ## Parameters -/

def formPart (pair : String × String) : List Char :=
  formEncode pair.1 ++ '=' :: formEncode pair.2

theorem formQuery_eq (pairs : List (String × String)) :
    formQuery pairs = Text.joinWith ['&'] (pairs.map formPart) := rfl

theorem formPair_formPart (pair : String × String) : formPair (formPart pair) = pair := by
  have hname : '=' ∉ formEncode pair.1 := fun hmem =>
    absurd (isFormSign_of_mem_formEncode hmem) (by decide)
  have hsplit : Text.splitAt? ['='] (formPart pair) =
      some (formEncode pair.1, formEncode pair.2) := by
    have hfirst : Text.splitAt? ['='] (formEncode pair.1 ++ ['='] ++ formEncode pair.2) =
        some (formEncode pair.1, formEncode pair.2) := Text.splitAt?_of_first hname
    rwa [List.append_assoc] at hfirst
  rw [formPair, hsplit]
  simp only [formDecode_formEncode]

theorem mem_formPart {pair : String × String} {c : Char} (hc : c ∈ formPart pair) :
    c = '=' ∨ isFormSign c = true := by
  rw [formPart, List.mem_append, List.mem_cons] at hc
  rcases hc with hname | rfl | hvalue
  · exact .inr (isFormSign_of_mem_formEncode hname)
  · exact .inl rfl
  · exact .inr (isFormSign_of_mem_formEncode hvalue)

/-- The parameters written into a query are those read from it, in their order. -/
theorem formPairs_formQuery (pairs : List (String × String)) :
    formPairs (formQuery pairs) = pairs := by
  cases pairs with
  | nil => rfl
  | cons first others =>
      have hparts : ∀ part ∈ (first :: others).map formPart, '&' ∉ part := by
        intro part hpart hmem
        obtain ⟨pair, -, rfl⟩ := List.mem_map.mp hpart
        rcases mem_formPart hmem with heq | hsign
        · exact absurd heq (by decide)
        · exact absurd hsign (by decide)
      have hfilled : ((first :: others).map formPart).filter (!·.isEmpty) =
          (first :: others).map formPart := by
        rw [List.filter_eq_self]
        intro part hpart
        obtain ⟨pair, -, rfl⟩ := List.mem_map.mp hpart
        simp [formPart]
      rw [formPairs, formQuery_eq, Text.splitAll_joinWith hparts (by simp), hfilled, List.map_map]
      exact List.map_id'' formPair_formPart _

theorem encoded_formQuery (pairs : List (String × String)) :
    Encoded querySet (formQuery pairs) := by
  intro c hc
  rcases Text.mem_joinWith hc with hseparator | ⟨part, hpart, hmem⟩
  · obtain rfl := List.mem_singleton.mp hseparator
    decide
  · obtain ⟨pair, -, rfl⟩ := List.mem_map.mp hpart
    rcases mem_formPart hmem with rfl | hsign
    · decide
    · exact spared_of_isFormSign hsign

end SqlPipe.Url
