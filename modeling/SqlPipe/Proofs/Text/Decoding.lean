import SqlPipe.Proofs.Text.Space
import SqlPipe.Text.Utf8

/-!
# Decoding in pieces

A byte of ASCII stands for itself wherever it stands: it continues no character, so a character that
is broken off in front of it is replaced, and decoding begins anew with it.  Bytes may hence be cut
at such a byte, before and after decoding alike.
-/

namespace SqlPipe.Text

variable {byte : UInt8} {front behind : List UInt8}

def charOfByte (byte : UInt8) : Char :=
  Char.ofNat byte.toNat

theorem not_isContinuation (hascii : byte < 0x80) : isContinuation byte = false := by
  have hlow : ¬ 0x80 ≤ byte := UInt8.not_le.mpr hascii
  simp [isContinuation, byteIn, hlow]

theorem not_secondByteOk (hascii : byte < 0x80) (first : UInt8) :
    secondByteOk first byte = false := by
  have hin : ∀ low high, 0x80 ≤ low → byteIn low high byte = false := by
    intro low high hlow
    have hless : ¬ low ≤ byte := UInt8.not_le.mpr (UInt8.lt_of_lt_of_le hascii hlow)
    simp [byteIn, hless]
  simp [secondByteOk, isContinuation, hin]

/-- A character is told without what stands from a byte of ASCII on. -/
theorem decodeFirst_append
    (hascii : byte < 0x80) (first : UInt8) (front behind : List UInt8) :
    decodeFirst first (front ++ byte :: behind) =
      ((decodeFirst first front).1, (decodeFirst first front).2 ++ byte :: behind) := by
  have hsecond := not_secondByteOk hascii first
  have hthird := not_isContinuation hascii
  by_cases hone : first < 0x80
  · simp [decodeFirst, hone]
  by_cases htwo : byteIn 0xC2 0xDF first = true
  · rcases front with _ | ⟨second, front⟩
    · simp [decodeFirst, hone, htwo, hthird]
    · by_cases hok : isContinuation second = true <;> simp [decodeFirst, hone, htwo, hok]
  by_cases hthree : byteIn 0xE0 0xEF first = true
  · rcases front with _ | ⟨second, front⟩
    · simp [decodeFirst, hone, htwo, hthree, hsecond]
    by_cases hok : secondByteOk first second = true
    · rcases front with _ | ⟨third, front⟩
      · simp [decodeFirst, hone, htwo, hthree, hok, hthird]
      · by_cases hok' : isContinuation third = true <;>
          simp [decodeFirst, hone, htwo, hthree, hok, hok']
    · simp [decodeFirst, hone, htwo, hthree, hok]
  by_cases hfour : byteIn 0xF0 0xF4 first = true
  · rcases front with _ | ⟨second, front⟩
    · simp [decodeFirst, hone, htwo, hthree, hfour, hsecond]
    by_cases hok : secondByteOk first second = true
    · rcases front with _ | ⟨third, front⟩
      · simp [decodeFirst, hone, htwo, hthree, hfour, hok, hthird]
      by_cases hok' : isContinuation third = true
      · rcases front with _ | ⟨fourth, front⟩
        · simp [decodeFirst, hone, htwo, hthree, hfour, hok, hok', hthird]
        · by_cases hok'' : isContinuation fourth = true <;>
            simp [decodeFirst, hone, htwo, hthree, hfour, hok, hok', hok'']
      · simp [decodeFirst, hone, htwo, hthree, hfour, hok, hok']
    · simp [decodeFirst, hone, htwo, hthree, hfour, hok]
  · simp [decodeFirst, hone, htwo, hthree, hfour]

/-! ## Decoding -/

theorem utf8DecodeOnto_eq (decoded : List Char) (bytes : List UInt8) :
    utf8DecodeOnto decoded bytes = decoded.reverse ++ utf8Decode bytes := by
  induction hlength : bytes.length using Nat.strongRecOn generalizing decoded bytes with
  | ind length ih =>
  cases bytes with
  | nil => simp [utf8Decode, utf8DecodeOnto]
  | cons first rest =>
      have hshorter : (decodeFirst first rest).2.length < length := by
        have hle := length_decodeFirst_le first rest
        rw [← hlength, List.length_cons]
        omega
      have hbehind := fun decoded => ih _ hshorter decoded (decodeFirst first rest).2 rfl
      rw [utf8Decode, utf8DecodeOnto, utf8DecodeOnto, hbehind, hbehind]
      simp

@[simp] theorem utf8Decode_nil : utf8Decode [] = [] := by
  simp [utf8Decode, utf8DecodeOnto]

theorem utf8Decode_cons (first : UInt8) (rest : List UInt8) :
    utf8Decode (first :: rest) =
      (decodeFirst first rest).1 :: utf8Decode (decodeFirst first rest).2 := by
  rw [utf8Decode, utf8DecodeOnto, utf8DecodeOnto_eq]
  rfl

theorem utf8Decode_append_ascii (hascii : byte < 0x80) (front behind : List UInt8) :
    utf8Decode (front ++ byte :: behind) =
      utf8Decode front ++ charOfByte byte :: utf8Decode behind := by
  induction hlength : front.length using Nat.strongRecOn generalizing front with
  | ind length ih =>
  cases front with
  | nil => simp [utf8Decode_cons, decodeFirst, hascii, charOfByte]
  | cons first front =>
      have hshorter : (decodeFirst first front).2.length < length := by
        have hle := length_decodeFirst_le first front
        rw [← hlength, List.length_cons]
        omega
      rw [List.cons_append, utf8Decode_cons, decodeFirst_append hascii, utf8Decode_cons,
        ih _ hshorter _ rfl, List.cons_append]

theorem utf8Decode_append (hascii : byte < 0x80) (front behind : List UInt8) :
    utf8Decode (front ++ [byte] ++ behind) =
      utf8Decode (front ++ [byte]) ++ utf8Decode behind := by
  rw [List.append_assoc, List.singleton_append, utf8Decode_append_ascii hascii,
    utf8Decode_append_ascii hascii front []]
  simp

theorem charOfByte_mem_utf8Decode
    (hascii : byte < 0x80) {bytes : List UInt8} (hbyte : byte ∈ bytes) :
    charOfByte byte ∈ utf8Decode bytes := by
  obtain ⟨front, behind, rfl⟩ := List.append_of_mem hbyte
  rw [utf8Decode_append_ascii hascii]
  simp

/-! ## White space -/

theorem isAsciiSpace_iff :
    isAsciiSpace byte = true ↔
      byte = 0x20 ∨ byte = 0x09 ∨ byte = 0x0A ∨ byte = 0x0C ∨ byte = 0x0D := by
  simp [isAsciiSpace, or_assoc]

theorem isSpace_charOfByte (hspace : isAsciiSpace byte = true) :
    isSpace (charOfByte byte) = true := by
  rcases isAsciiSpace_iff.mp hspace with rfl | rfl | rfl | rfl | rfl <;> decide

theorem blank_map_charOfByte (hspace : ∀ byte ∈ front, isAsciiSpace byte = true) :
    Blank (front.map charOfByte) := by
  intro c hc
  obtain ⟨byte, hbyte, rfl⟩ := List.mem_map.mp hc
  exact isSpace_charOfByte (hspace byte hbyte)

/-- White space of ASCII in front of bytes is white space in front of what they decode to. -/
theorem utf8Decode_append_of_space (hspace : ∀ byte ∈ front, isAsciiSpace byte = true)
    (behind : List UInt8) :
    utf8Decode (front ++ behind) = front.map charOfByte ++ utf8Decode behind := by
  induction front with
  | nil => rfl
  | cons byte front ih =>
      have hascii : byte < 0x80 := by
        rcases isAsciiSpace_iff.mp (hspace byte (by simp)) with
          rfl | rfl | rfl | rfl | rfl <;> decide
      have hrest := ih fun other hmem => hspace other (by simp [hmem])
      have hfirst := utf8Decode_append_ascii hascii [] (front ++ behind)
      simpa [hrest] using hfirst

theorem exists_utf8Decode_dropWhile (bytes : List UInt8) :
    ∃ space, Blank space ∧
      utf8Decode bytes = space ++ utf8Decode (bytes.dropWhile isAsciiSpace) := by
  have hspace : ∀ byte ∈ bytes.takeWhile isAsciiSpace, isAsciiSpace byte = true :=
    fun byte hbyte => List.mem_takeWhile_imp hbyte
  refine ⟨_, blank_map_charOfByte hspace, ?_⟩
  rw [← utf8Decode_append_of_space hspace, List.takeWhile_append_dropWhile]

end SqlPipe.Text
