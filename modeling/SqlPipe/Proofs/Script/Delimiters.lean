import SqlPipe.Proofs.Script.Boundaries
import SqlPipe.Proofs.Sql.Names
import SqlPipe.Proofs.Text.Encoding

/-!
# Delimited names, byte by byte

A lexer stays inside of a statement while it reads a name between delimiters, with the closing one
doubled inside of the name.  Where the delimiter is a quote to the lexer too, it passes over the
name whatever it holds, unless a backslash takes a delimiter away.  A name in brackets is code to
the lexer, which stays outside of everything if the name opens nothing.
-/

namespace SqlPipe.Script

namespace Lexer

variable {dialect : Dialect} {lexer : Lexer} {byte : UInt8} {bytes front rest : List UInt8}

/-! ## Bytes of one statement -/

theorem run_append (dialect : Dialect) (lexer : Lexer) (bytes others : List UInt8) :
    lexer.run dialect (bytes ++ others) = (lexer.run dialect bytes).run dialect others := by
  simp [run]

@[simp] theorem run_cons (dialect : Dialect) (lexer : Lexer) (byte : UInt8) (bytes : List UInt8) :
    lexer.run dialect (byte :: bytes) = (lexer.step dialect byte).run dialect bytes := rfl

@[simp] theorem run_nil (dialect : Dialect) (lexer : Lexer) : lexer.run dialect [] = lexer := rfl

def goesThrough (dialect : Dialect) (lexer : Lexer) : List UInt8 → Bool
  | [] => true
  | byte :: bytes =>
      !(byte == 0x0A && lexer.endsHere dialect) &&
        goesThrough dialect (lexer.step dialect byte) bytes

theorem goesThrough_append (dialect : Dialect) (lexer : Lexer) (bytes others : List UInt8) :
    goesThrough dialect lexer (bytes ++ others) =
      (goesThrough dialect lexer bytes &&
        goesThrough dialect (lexer.run dialect bytes) others) := by
  induction bytes generalizing lexer with
  | nil => simp [goesThrough]
  | cons byte bytes ih => simp [goesThrough, ih, Bool.and_assoc]

theorem goesThrough_iff :
    goesThrough dialect lexer front = true ↔
      ∀ earlier behind, front = earlier ++ 0x0A :: behind →
        (lexer.run dialect earlier).endsHere dialect = false := by
  induction front generalizing lexer with
  | nil => simp [goesThrough]
  | cons byte front ih =>
      rw [goesThrough, Bool.and_eq_true, ih]
      constructor
      · rintro ⟨hbyte, hrest⟩ earlier behind hfront
        cases earlier with
        | nil =>
            obtain ⟨rfl, -⟩ := List.cons.inj hfront
            simpa using hbyte
        | cons first earlier =>
            obtain ⟨rfl, htail⟩ := List.cons.inj hfront
            exact hrest earlier behind htail
      · intro hfirst
        constructor
        · by_cases hbyte : byte = 0x0A
          · subst hbyte
            simpa using hfirst [] front rfl
          · simp [hbyte]
        · intro earlier behind hfront
          exact hfirst (byte :: earlier) behind (by rw [hfront, List.cons_append])

/-- A statement with the given text ends at the line feed behind it, and not before. -/
def endsBehind (dialect : Dialect) (text : List UInt8) : Bool :=
  goesThrough dialect (start dialect text) text &&
    ((start dialect text).run dialect text).endsHere dialect

theorem cut?_append_feed_iff :
    cut? dialect lexer (front ++ 0x0A :: rest) = some (front ++ [0x0A], rest) ↔
      goesThrough dialect lexer front = true ∧
        (lexer.run dialect front).endsHere dialect = true := by
  rw [cut?_eq_some_iff, goesThrough_iff]
  constructor
  · rintro ⟨front', hpiece, -, hends, hfirst⟩
    obtain rfl := List.append_cancel_right hpiece
    exact ⟨hfirst, hends⟩
  · rintro ⟨hfirst, hends⟩
    exact ⟨front, rfl, rfl, hends, hfirst⟩

theorem goesThrough_of_isInside (hinside : lexer.isInside = true) (bytes : List UInt8) :
    goesThrough dialect lexer (byte :: bytes) =
      goesThrough dialect (lexer.step dialect byte) bytes := by
  have hopen : lexer.endsHere dialect = false := by
    by_contra hends
    rw [isInside_of_endsHere (by simpa using hends)] at hinside
    cases hinside
  simp [goesThrough, hopen]

theorem goesThrough_of_ne (hbyte : byte ≠ 0x0A) (bytes : List UInt8) :
    goesThrough dialect lexer (byte :: bytes) =
      goesThrough dialect (lexer.step dialect byte) bytes := by
  simp [goesThrough, hbyte]

@[simp] theorem step_mode (dialect : Dialect) (lexer : Lexer) (byte : UInt8) :
    (lexer.step dialect byte).reading.1 = (lexer.reading.next dialect byte).1 := by
  simp only [step]
  split <;> rfl

end Lexer

/-! ## Names between quotes -/

def doubled (delimiter : UInt8) (bytes : List UInt8) : List UInt8 :=
  bytes.flatMap fun byte => if delimiter = byte then [byte, byte] else [byte]

@[simp] theorem doubled_nil (delimiter : UInt8) : doubled delimiter [] = [] := rfl

@[simp] theorem doubled_cons_self (delimiter : UInt8) (bytes : List UInt8) :
    doubled delimiter (delimiter :: bytes) = delimiter :: delimiter :: doubled delimiter bytes := by
  simp [doubled]

theorem doubled_cons_of_ne {delimiter byte : UInt8} (hne : byte ≠ delimiter) (bytes : List UInt8) :
    doubled delimiter (byte :: bytes) = byte :: doubled delimiter bytes := by
  simp [doubled, hne.symm]

theorem doubled_append (delimiter : UInt8) (front behind : List UInt8) :
    doubled delimiter (front ++ behind) = doubled delimiter front ++ doubled delimiter behind := by
  simp [doubled]

theorem doubled_of_not_mem {delimiter : UInt8} {bytes : List UInt8} (hnone : delimiter ∉ bytes) :
    doubled delimiter bytes = bytes := by
  induction bytes with
  | nil => rfl
  | cons byte bytes ih =>
      rw [List.mem_cons, not_or] at hnone
      rw [doubled_cons_of_ne (Ne.symm hnone.1), ih hnone.2]

/-- No backslash that escapes stands in front of a delimiter or at the end. -/
def sparesDelimiter (dialect : Dialect) (delimiter : UInt8) : List UInt8 → Bool
  | [] => true
  | byte :: rest =>
      if byte == 0x5C && dialect.backslashEscapes then
        match rest with
        | [] => false
        | escaped :: rest => escaped != delimiter && sparesDelimiter dialect delimiter rest
      else sparesDelimiter dialect delimiter rest

theorem sparesDelimiter_of_not_backslashEscapes
    {dialect : Dialect} (hescape : dialect.backslashEscapes = false) (delimiter : UInt8)
    (bytes : List UInt8) : sparesDelimiter dialect delimiter bytes = true := by
  induction bytes with
  | nil => rfl
  | cons byte bytes ih =>
      rw [sparesDelimiter.eq_def]
      simpa [hescape] using ih

namespace Lexer

variable {dialect : Dialect} {lexer : Lexer} {quote byte : UInt8} {bytes : List UInt8}

/-- The lexer is in a quoted text of a statement. -/
structure InQuote (quote : UInt8) (lexer : Lexer) : Prop where
  code : lexer.comment = false
  mode : lexer.reading.1 = .quoted quote

theorem InQuote.isInside (hin : InQuote quote lexer) : lexer.isInside = true := by
  simp [Lexer.isInside, hin.code, hin.mode]

theorem next_of_mode {mode : Mode} (hmode : lexer.reading.1 = mode) (byte : UInt8) :
    (lexer.step dialect byte).reading.1 =
      (Reading.next dialect (mode, lexer.reading.2) byte).1 := by
  rw [step_mode, ← hmode]

theorem InQuote.step
    (hin : InQuote quote lexer) (hescape : (byte == 0x5C && dialect.backslashEscapes) = false)
    (hne : byte ≠ quote) : InQuote quote (lexer.step dialect byte) where
  code := (step_comment lexer byte).trans hin.code
  mode := by
    rw [next_of_mode hin.mode]
    simp [Reading.next, hescape, hne]

theorem InQuote.unquote (hin : InQuote quote lexer) (hquote : isQuote quote = true) :
    (lexer.step dialect quote).reading.1 = .unquoted quote := by
  have hne : quote ≠ 0x5C := by
    rintro rfl
    cases hquote
  rw [next_of_mode hin.mode]
  simp [Reading.next, hne]

theorem InQuote.unquote_quote (hin : InQuote quote lexer) (hquote : isQuote quote = true) :
    InQuote quote ((lexer.step dialect quote).step dialect quote) where
  code := by rw [step_comment, step_comment, hin.code]
  mode := by
    rw [next_of_mode (hin.unquote hquote)]
    simp [Reading.next]

theorem InQuote.escape
    (hin : InQuote quote lexer) (hescape : (byte == 0x5C && dialect.backslashEscapes) = true) :
    (lexer.step dialect byte).reading.1 = .escaped quote := by
  rw [next_of_mode hin.mode]
  simp only [Reading.next, hescape, if_true]

theorem InQuote.escape_any
    (hin : InQuote quote lexer) (hescape : (byte == 0x5C && dialect.backslashEscapes) = true)
    (escaped : UInt8) :
    InQuote quote ((lexer.step dialect byte).step dialect escaped) where
  code := by rw [step_comment, step_comment, hin.code]
  mode := by
    rw [next_of_mode (hin.escape hescape)]
    rfl

/-- A lexer in a quoted text stays in it through a name with doubled quotes. -/
theorem InQuote.run_doubled
    (hin : InQuote quote lexer) (hquote : isQuote quote = true)
    (hspares : sparesDelimiter dialect quote bytes = true) :
    goesThrough dialect lexer (doubled quote bytes) = true ∧
      InQuote quote (lexer.run dialect (doubled quote bytes)) := by
  have hfeed : quote ≠ 0x0A := by
    rintro rfl
    cases hquote
  -- a backslash that escapes is read together with the byte behind it, a delimiter with its double
  fun_induction sparesDelimiter dialect quote bytes generalizing lexer with
  | case1 => exact ⟨rfl, hin⟩
  | case2 => cases hspares
  | case3 byte hescape escaped rest ih =>
      obtain ⟨hkeeps, hrest⟩ : escaped ≠ quote ∧ sparesDelimiter dialect quote rest = true := by
        simpa using hspares
      have hne : byte ≠ quote := by
        rintro rfl
        obtain ⟨rfl, -⟩ : byte = 0x5C ∧ dialect.backslashEscapes = true := by simpa using hescape
        cases hquote
      have hinside : (lexer.step dialect byte).isInside = true := by
        simp [Lexer.isInside, step_comment, hin.code, hin.escape hescape, -step_mode]
      rw [doubled_cons_of_ne hne, doubled_cons_of_ne hkeeps, goesThrough_of_isInside hin.isInside,
        goesThrough_of_isInside hinside, run_cons, run_cons]
      exact ih (hin.escape_any hescape escaped) hrest
  | case4 byte rest hescape ih =>
      by_cases hbyte : byte = quote
      · subst hbyte
        rw [doubled_cons_self, goesThrough_of_isInside hin.isInside, goesThrough_of_ne hfeed,
          run_cons, run_cons]
        exact ih (hin.unquote_quote hquote) hspares
      · rw [doubled_cons_of_ne hbyte, goesThrough_of_isInside hin.isInside, run_cons]
        exact ih (hin.step (by simpa using hescape) hbyte) hspares

end Lexer

/-! ## Names in brackets -/

/-- Read as code behind the given byte, the bytes hold no quote and no semicolon, and begin no
comment. -/
def opensNothing (previous : UInt8) : List UInt8 → Bool
  | [] => true
  | byte :: rest =>
      !isQuote byte && byte != 0x3B && !(previous == 0x2D && byte == 0x2D) &&
        !(previous == 0x2F && byte == 0x2A) && opensNothing byte rest

theorem opensNothing_bracketed
    {previous : UInt8} {bytes : List UInt8} (hopens : opensNothing previous bytes = true) :
    opensNothing previous (doubled 0x5D bytes ++ [0x5D]) = true := by
  induction bytes generalizing previous with
  | nil => simp [opensNothing, isQuote]
  | cons byte bytes ih =>
      by_cases hbyte : byte = 0x5D
      · subst hbyte
        have hrest : opensNothing 0x5D bytes = true := by
          simpa [opensNothing, isQuote] using hopens
        simpa [opensNothing, isQuote] using ih hrest
      · rw [doubled_cons_of_ne hbyte, List.cons_append]
        simp only [opensNothing, Bool.and_eq_true] at hopens ⊢
        exact ⟨hopens.1, ih hopens.2⟩

namespace Lexer

variable {dialect : Dialect} {lexer : Lexer} {previous byte : UInt8} {bytes : List UInt8}

/-- The lexer is outside of everything in a statement, behind the given byte, and no semicolon is
the last byte of its line. -/
structure InCode (previous : UInt8) (lexer : Lexer) : Prop where
  code : lexer.comment = false
  proper : lexer.reading.Proper
  unmarked : lexer.reading.2 ≠ some 0x3B
  begun : lexer.bare = false
  mode : lexer.reading.1 = .plain ∨ lexer.reading.1 = .dash ∧ previous = 0x2D ∨
    lexer.reading.1 = .slash ∧ previous = 0x2F

theorem InCode.endsHere (hin : InCode previous lexer) : lexer.endsHere dialect = false := by
  have hfeed := hin.proper.next_ne_semicolon hin.unmarked dialect (show 0x0A ≠ 0x3B by decide)
  simp [Lexer.endsHere, hin.code, hin.begun, hfeed]

theorem InCode.step
    (hhash : dialect.hashComments = false) (hdollar : dialect.dollarQuoting = false)
    (hin : InCode previous lexer) (hopens : opensNothing previous (byte :: bytes) = true) :
    InCode byte (lexer.step dialect byte) := by
  simp only [opensNothing, Bool.and_eq_true, Bool.not_eq_true', bne_iff_ne, ne_eq] at hopens
  obtain ⟨⟨⟨⟨hquote, hsemicolon⟩, hdash⟩, hslash⟩, -⟩ := hopens
  have hunmarked := step_unmarked dialect hin.proper hin.unmarked hsemicolon
  have hplain : ∀ last, (Reading.plainNext dialect last byte).1 = .plain ∨
      (Reading.plainNext dialect last byte).1 = .dash ∧ byte = 0x2D ∨
        (Reading.plainNext dialect last byte).1 = .slash ∧ byte = 0x2F := by
    intro last
    simp only [Reading.plainNext, hquote, hhash, hdollar, Bool.and_false, Bool.false_eq_true,
      if_false, beq_iff_eq]
    split_ifs <;> simp_all
  refine ⟨(step_comment lexer byte).trans hin.code, hunmarked.1, hunmarked.2, ?_, ?_⟩
  · by_contra hbare
    have hstarted := bare_of_step (by simpa using hbare)
    rw [hin.begun] at hstarted
    cases hstarted
  · rcases hin.mode with hmode | ⟨hmode, rfl⟩ | ⟨hmode, rfl⟩
    · rw [next_of_mode hmode]
      exact hplain _
    · have hne : byte ≠ 0x2D := by simpa using hdash
      rw [next_of_mode hmode, Reading.dash_next hne]
      exact hplain _
    · have hne : byte ≠ 0x2A := by simpa using hslash
      rw [next_of_mode hmode, Reading.slash_next hne]
      exact hplain _

theorem InCode.run
    (hhash : dialect.hashComments = false) (hdollar : dialect.dollarQuoting = false)
    (hin : InCode previous lexer) (hopens : opensNothing previous bytes = true) :
    goesThrough dialect lexer bytes = true ∧
      InCode (bytes.getLastD previous) (lexer.run dialect bytes) := by
  induction bytes generalizing previous lexer with
  | nil => exact ⟨rfl, hin⟩
  | cons byte bytes ih =>
      have hrest : opensNothing byte bytes = true := (Bool.and_eq_true_iff.mp hopens).2
      rw [goesThrough, hin.endsHere, run_cons, List.getLastD_cons]
      simpa using ih (hin.step hhash hdollar hopens) hrest

end Lexer

/-! ## Names between delimiters -/

section Delimited

variable {opening closing : Char} {first last : UInt8}

theorem doubled_encodeChar
    (hclosing : String.utf8EncodeChar closing = [last]) (hascii : last < 0x80) {c : Char}
    (hc : closing ≠ c) : doubled last (String.utf8EncodeChar c) = String.utf8EncodeChar c := by
  apply doubled_of_not_mem
  intro hmem
  have hlast := Text.encodeChar_of_mem (c := closing) (by simp [hclosing]) hascii
  exact hc (hlast.2.trans (Text.encodeChar_of_mem hmem hascii).2.symm)

theorem utf8Encode_doubled
    (hclosing : String.utf8EncodeChar closing = [last]) (hascii : last < 0x80) (text : List Char) :
    Text.utf8Encode (Text.replaceAll [closing] [closing, closing] text) =
      doubled last (Text.utf8Encode text) := by
  rw [Sql.replaceAll_singleton]
  induction text with
  | nil => rfl
  | cons c text ih =>
      rw [List.flatMap_cons, Text.utf8Encode_append, ih, Text.utf8Encode_cons, doubled_append]
      split
      next heq =>
        subst heq
        simp [Text.utf8Encode_cons, hclosing]
      next hne => rw [doubled_encodeChar hclosing hascii hne, Text.utf8Encode_cons,
        Text.utf8Encode_nil, List.append_nil]

theorem utf8Bytes_delimited
    (hopening : String.utf8EncodeChar opening = [first])
    (hclosing : String.utf8EncodeChar closing = [last]) (hascii : last < 0x80) (name : String) :
    Text.utf8Bytes (Sql.delimited opening closing name) =
      first :: (doubled last (Text.utf8Bytes name) ++ [last]) := by
  rw [Text.utf8Bytes, Sql.delimited, String.toList_ofList, Text.utf8Bytes,
    ← utf8Encode_doubled hclosing hascii]
  simp [Text.utf8Encode_cons, Text.utf8Encode_append, hopening, hclosing]

end Delimited

end SqlPipe.Script
