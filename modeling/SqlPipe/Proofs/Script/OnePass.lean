import SqlPipe.Script.Splitter
import Mathlib.Data.List.TakeWhile

/-!
# A script in one pass

A lexer for whole scripts, in place of one for lines.  It reads byte after byte, knows nothing of
lines but the last significant byte of the present one, and never looks ahead: where the meaning of
a byte hangs on the next one, the lexer waits in a mode of its own.

Reading a line with its feed takes the lexer from the position at which the line begins to the
position and the last significant byte that a scan of the line alone finds.
-/

namespace SqlPipe.Script

/-- What a lexer is inside of, behind a byte. -/
inductive Mode
  | plain
  /-- A `-` may be the first of a line comment. -/
  | dash
  /-- A `/` may be the first of a block comment. -/
  | slash
  /-- A `$` and the bytes behind it may begin a dollar tag. -/
  | tag (name : List UInt8)
  | lineComment
  | blockComment
  /-- A `*` may begin the end of a block comment. -/
  | star
  | quoted (quote : UInt8)
  /-- The next byte of a quoted text is escaped. -/
  | escaped (quote : UInt8)
  /-- A quote may be the first of a doubled one. -/
  | unquoted (quote : UInt8)
  | body (name : List UInt8)
  /-- A `$` inside a body and the bytes behind it may be its closing tag. -/
  | closing (name seen : List UInt8)
  deriving DecidableEq, Repr

/-- A lexer behind a byte: its mode, and the last byte of the line outside comments, white space and
the inside of literals.  The byte that a mode waits with is not counted yet. -/
abbrev Reading := Mode × Option UInt8

def isQuote (byte : UInt8) : Bool :=
  byte == 0x27 || byte == 0x22 || byte == 0x60

namespace Reading

variable (dialect : Dialect)

def plainNext (last : Option UInt8) (byte : UInt8) : Reading :=
  if isQuote byte then (.quoted byte, some byte)
  else if byte == 0x2D then (.dash, last)
  else if byte == 0x23 && dialect.hashComments then (.lineComment, last)
  else if byte == 0x2F then (.slash, last)
  else if byte == 0x24 && dialect.dollarQuoting then (.tag [], some byte)
  else if Text.isAsciiSpace byte then (.plain, last)
  else (.plain, some byte)

def next : Reading → UInt8 → Reading
  | (.plain, last), byte => plainNext dialect last byte
  | (.dash, last), byte =>
      if byte == 0x2D then (.lineComment, last) else plainNext dialect (some 0x2D) byte
  | (.slash, last), byte =>
      if byte == 0x2A then (.blockComment, last) else plainNext dialect (some 0x2F) byte
  | (.tag name, last), byte =>
      -- a `$` in front of a digit is a parameter
      if byte == 0x24 then (.body name, some byte)
      else if name == [] && (0x30 ≤ byte && byte ≤ 0x39) then plainNext dialect last byte
      else if isTagByte byte then (.tag (name ++ [byte]), some byte)
      else plainNext dialect last byte
  | (.lineComment, last), byte => (if byte == 0x0A then .plain else .lineComment, last)
  | (.blockComment, last), byte => (if byte == 0x2A then .star else .blockComment, last)
  | (.star, last), byte =>
      (if byte == 0x2F then .plain else if byte == 0x2A then .star else .blockComment, last)
  | (.quoted quote, last), byte =>
      if byte == 0x5C && dialect.backslashEscapes then (.escaped quote, last)
      else if byte == quote then (.unquoted quote, last)
      else (.quoted quote, last)
  | (.escaped quote, last), _ => (.quoted quote, last)
  | (.unquoted quote, last), byte =>
      if byte == quote then (.quoted quote, last) else plainNext dialect (some quote) byte
  | (.body name, last), byte => (if byte == 0x24 then .closing name [] else .body name, last)
  | (.closing name seen, last), byte =>
      if byte == 0x24 then
        if seen == name then (.plain, some byte) else (.closing name [], last)
      else if isTagByte byte then (.closing name (seen ++ [byte]), last)
      else (.body name, last)

def read (reading : Reading) (bytes : List UInt8) : Reading :=
  bytes.foldl (next dialect) reading

variable {dialect}

@[simp] theorem read_nil (reading : Reading) : reading.read dialect [] = reading := rfl

@[simp] theorem read_cons (reading : Reading) (byte : UInt8) (bytes : List UInt8) :
    reading.read dialect (byte :: bytes) = (reading.next dialect byte).read dialect bytes := rfl

theorem read_of_next
    {reading later : Reading} {byte : UInt8} (hnext : reading.next dialect byte = later)
    (bytes : List UInt8) :
    reading.read dialect (byte :: bytes) = later.read dialect bytes := by
  rw [read_cons, hnext]

theorem read_append (reading : Reading) (bytes others : List UInt8) :
    reading.read dialect (bytes ++ others) =
      (reading.read dialect bytes).read dialect others := by
  simp [read]

/-! ## Bytes outside of everything -/

theorem plain_next_quote {byte : UInt8} (hquote : isQuote byte = true) (last : Option UInt8) :
    next dialect (.plain, last) byte = (.quoted byte, some byte) := by
  simp only [next, plainNext, hquote, if_true]

theorem plain_next_hash (hhash : dialect.hashComments = true) (last : Option UInt8) :
    next dialect (.plain, last) 0x23 = (.lineComment, last) := by
  simp [next, plainNext, isQuote, hhash]

theorem plain_next_dollar (hdollar : dialect.dollarQuoting = true) (last : Option UInt8) :
    next dialect (.plain, last) 0x24 = (.tag [], some 0x24) := by
  simp [next, plainNext, isQuote, hdollar]

theorem plain_next_space
    {byte : UInt8} (hspace : Text.isAsciiSpace byte = true) (last : Option UInt8) :
    next dialect (.plain, last) byte = (.plain, last) := by
  simp only [Text.isAsciiSpace, Bool.or_eq_true, beq_iff_eq] at hspace
  rcases hspace with (((rfl | rfl) | rfl) | rfl) | rfl <;> rfl

theorem plain_next_other
    {byte : UInt8} (hquote : ¬ isQuote byte = true) (hminus : byte ≠ 0x2D)
    (hhash : ¬ (byte == 0x23 && dialect.hashComments) = true) (hsolidus : byte ≠ 0x2F)
    (hdollar : ¬ (byte == 0x24 && dialect.dollarQuoting) = true)
    (hspace : ¬ Text.isAsciiSpace byte = true) (last : Option UInt8) :
    next dialect (.plain, last) byte = (.plain, some byte) := by
  simp only [next, plainNext, hquote, hminus, hhash, hsolidus, hdollar, hspace, beq_iff_eq,
    if_false, Bool.false_eq_true]

/-! ## Bytes inside of quoted texts -/

theorem quoted_next_escape
    {byte : UInt8} (hescape : (byte == 0x5C && dialect.backslashEscapes) = true) (quote : UInt8)
    (last : Option UInt8) :
    next dialect (.quoted quote, last) byte = (.escaped quote, last) := by
  simp only [next, hescape, if_true]

theorem quoted_next_quote
    {quote : UInt8} (hescape : ¬ (quote == 0x5C && dialect.backslashEscapes) = true)
    (last : Option UInt8) :
    next dialect (.quoted quote, last) quote = (.unquoted quote, last) := by
  simp only [next, hescape, beq_self_eq_true, if_true, if_false, Bool.false_eq_true]

theorem quoted_next_other
    {quote byte : UInt8} (hescape : ¬ (byte == 0x5C && dialect.backslashEscapes) = true)
    (hquote : ¬ (byte == quote) = true) (last : Option UInt8) :
    next dialect (.quoted quote, last) byte = (.quoted quote, last) := by
  simp only [next, hescape, hquote, if_false, Bool.false_eq_true]

theorem unquoted_next_quote (dialect : Dialect) (quote : UInt8) (last : Option UInt8) :
    next dialect (.unquoted quote, last) quote = (.quoted quote, last) := by
  simp only [next, beq_self_eq_true, if_true]

/-! ## Bytes that tell nothing about what they follow -/

theorem dash_next {byte : UInt8} (hbyte : byte ≠ 0x2D) (last : Option UInt8) :
    next dialect (.dash, last) byte = next dialect (.plain, some 0x2D) byte := by
  simp [next, hbyte]

theorem slash_next {byte : UInt8} (hbyte : byte ≠ 0x2A) (last : Option UInt8) :
    next dialect (.slash, last) byte = next dialect (.plain, some 0x2F) byte := by
  simp [next, hbyte]

theorem star_next {byte : UInt8} (hbyte : byte ≠ 0x2F) (last : Option UInt8) :
    next dialect (.star, last) byte = next dialect (.blockComment, last) byte := by
  simp [next, hbyte]

theorem unquoted_next {quote byte : UInt8} (hbyte : byte ≠ quote) (last : Option UInt8) :
    next dialect (.unquoted quote, last) byte = next dialect (.plain, some quote) byte := by
  simp [next, hbyte]

/-- Where the byte that a reading waits for does not come, it does as if it had not waited. -/
theorem read_feed_of_waiting
    {waiting settled : Reading} {awaited : UInt8}
    (hnext : ∀ byte, byte ≠ awaited → waiting.next dialect byte = settled.next dialect byte)
    (hfeed : awaited ≠ 0x0A) {bytes : List UInt8} (hhead : bytes.head? ≠ some awaited) :
    waiting.read dialect (bytes ++ [0x0A]) = settled.read dialect (bytes ++ [0x0A]) := by
  cases bytes with
  | nil => simp [hnext 0x0A hfeed.symm]
  | cons byte bytes =>
      have hbyte : byte ≠ awaited := by
        rintro rfl
        exact hhead rfl
      simp [hnext byte hbyte]

theorem lineComment_read_feed {bytes : List UInt8} (hbytes : 0x0A ∉ bytes) (last : Option UInt8) :
    read dialect (.lineComment, last) (bytes ++ [0x0A]) = (.plain, last) := by
  induction bytes with
  | nil => rfl
  | cons byte bytes ih =>
      rw [List.mem_cons, not_or] at hbytes
      have hbyte : byte ≠ 0x0A := fun heq => hbytes.1 heq.symm
      simpa [next, hbyte] using ih hbytes.2

/-! ## Dollar tags -/

theorem plainNext_of_isTagByte
    {byte : UInt8} (hbyte : isTagByte byte = true) (last : Option UInt8) :
    plainNext dialect last byte = (.plain, some byte) := by
  have hne : ∀ other, isTagByte other = false → byte ≠ other := by
    intro other hother heq
    rw [heq, hother] at hbyte
    cases hbyte
  have hspace : Text.isAsciiSpace byte = false := by
    simp [Text.isAsciiSpace, hne 0x20 (by decide), hne 0x09 (by decide), hne 0x0A (by decide),
      hne 0x0C (by decide), hne 0x0D (by decide)]
  simp [plainNext, isQuote, hspace, hne 0x27 (by decide), hne 0x22 (by decide),
    hne 0x60 (by decide), hne 0x2D (by decide), hne 0x23 (by decide), hne 0x2F (by decide),
    hne 0x24 (by decide)]

theorem tagName?_eq_some
    {rest name : List UInt8} (hname : tagName? rest = some name) :
    ∃ behind, rest = name ++ 0x24 :: behind ∧ ∀ byte ∈ name, isTagByte byte = true := by
  unfold tagName? at hname
  split at hname
  next => cases hname
  next byte behind hdrop =>
    split at hname
    next hbyte =>
      obtain rfl := Option.some.inj hname
      obtain rfl : byte = 0x24 := by simpa using hbyte
      refine ⟨behind, ?_, fun byte hmem => List.mem_takeWhile_imp hmem⟩
      rw [← hdrop, List.takeWhile_append_dropWhile]
    next => cases hname

theorem dollarName?_eq_some
    {rest name : List UInt8} (hname : dollarName? rest = some name) :
    ∃ behind, rest = name ++ 0x24 :: behind ∧ (∀ byte ∈ name, isTagByte byte = true) ∧
      ∀ byte, name.head? = some byte → (0x30 ≤ byte && byte ≤ 0x39) = false := by
  unfold dollarName? at hname
  split at hname
  next => cases hname
  next first others =>
    split at hname
    next => cases hname
    next hdigit =>
      obtain ⟨behind, hrest, htag⟩ := tagName?_eq_some hname
      refine ⟨behind, hrest, htag, ?_⟩
      intro byte hhead
      cases name with
      | nil => cases hhead
      | cons head name =>
          obtain rfl := Option.some.inj hhead
          rw [List.cons_append] at hrest
          rw [← (List.cons.inj hrest).1]
          simpa using hdigit

theorem tag_next
    (dialect : Dialect) {seen : List UInt8} {byte : UInt8} (hbyte : isTagByte byte = true)
    (hdigit : seen = [] → (0x30 ≤ byte && byte ≤ 0x39) = false) (last : Option UInt8) :
    next dialect (.tag seen, last) byte = (.tag (seen ++ [byte]), some byte) := by
  have hne : byte ≠ 0x24 := by
    rintro rfl
    cases hbyte
  have hfirst : (seen == [] && (0x30 ≤ byte && byte ≤ 0x39)) = false := by
    cases seen with
    | nil => simpa using hdigit rfl
    | cons => rfl
  simp only [next, hfirst, hbyte, beq_iff_eq, hne, if_false, if_true, Bool.false_eq_true]

theorem tag_read
    (dialect : Dialect) (seen : List UInt8) {name : List UInt8}
    (hname : ∀ byte ∈ name, isTagByte byte = true)
    (hdigit : seen = [] → ∀ byte, name.head? = some byte → (0x30 ≤ byte && byte ≤ 0x39) = false)
    (behind : List UInt8) (last : Option UInt8) :
    read dialect (.tag seen, last) (name ++ 0x24 :: behind) =
      read dialect (.body (seen ++ name), some 0x24) behind := by
  induction name generalizing seen last with
  | nil => simp [next]
  | cons byte name ih =>
      have hnext := tag_next dialect (hname byte (by simp))
        (fun hseen => hdigit hseen byte rfl) last
      rw [List.cons_append, read_cons, hnext,
        ih _ (fun other hmem => hname other (by simp [hmem])) (by simp)]
      simp

theorem tag_read_feed
    {seen rest : List UInt8} (hnone : tagName? rest = none)
    (hdigit : seen = [] → ∀ byte, rest.head? = some byte → (0x30 ≤ byte && byte ≤ 0x39) = false)
    (last : Option UInt8) :
    read dialect (.tag seen, last) (rest ++ [0x0A]) =
      read dialect (.plain, last) (rest ++ [0x0A]) := by
  induction rest generalizing seen last with
  | nil => simp [next, isTagByte]
  | cons byte rest ih =>
      by_cases htag : isTagByte byte = true
      · have hrest : tagName? rest = none := by
          rw [tagName?, List.dropWhile_cons_of_pos htag] at hnone
          unfold tagName?
          split at hnone <;> simp_all
        have hnext := tag_next dialect htag (fun hseen => hdigit hseen byte rfl) last
        have hplain : next dialect (.plain, last) byte = (.plain, some byte) :=
          plainNext_of_isTagByte htag last
        rw [List.cons_append, read_cons, read_cons, hnext, hplain]
        exact ih hrest (by simp) (some byte)
      · have hne : byte ≠ 0x24 := by
          rintro rfl
          simp [tagName?, isTagByte] at hnone
        simp [next, hne, htag]

theorem dollar_read_feed
    {rest : List UInt8} (hnone : dollarName? rest = none) (last : Option UInt8) :
    read dialect (.tag [], last) (rest ++ [0x0A]) =
      read dialect (.plain, last) (rest ++ [0x0A]) := by
  cases rest with
  | nil => simp [next, isTagByte]
  | cons byte rest =>
      by_cases hdigit : (0x30 ≤ byte && byte ≤ 0x39) = true
      · have hne : byte ≠ 0x24 := by
          rintro rfl
          cases hdigit
        simp [next, hne, hdigit]
      · rw [dollarName?, if_neg hdigit] at hnone
        refine tag_read_feed hnone ?_ last
        intro _ other hhead
        rw [← Option.some.inj hhead]
        simpa using hdigit

/-- Where a body is not closed, its bytes are bytes of the body like others. -/
theorem closing_read_feed
    {name seen rest : List UInt8} (hopen : ¬ (name ++ [0x24]) <+: (seen ++ rest))
    (last : Option UInt8) :
    read dialect (.closing name seen, last) (rest ++ [0x0A]) =
      read dialect (.body name, last) (rest ++ [0x0A]) := by
  induction rest generalizing seen with
  | nil => simp [next, isTagByte]
  | cons byte rest ih =>
      by_cases hdollar : byte = 0x24
      · subst hdollar
        have hne : seen ≠ name := by
          rintro rfl
          exact hopen ⟨rest, by simp⟩
        simp [next, hne]
      · by_cases htag : isTagByte byte = true
        · have hstill : ¬ (name ++ [0x24]) <+: (seen ++ [byte] ++ rest) := by
            simpa using hopen
          simpa [next, hdollar, htag] using ih hstill
        · simp [next, hdollar, htag]

theorem closing_read
    (dialect : Dialect) {name : List UInt8} (hname : ∀ byte ∈ name, isTagByte byte = true)
    (seen behind : List UInt8) (last : Option UInt8) :
    read dialect (.closing (seen ++ name) seen, last) (name ++ 0x24 :: behind) =
      read dialect (.plain, some 0x24) behind := by
  induction name generalizing seen with
  | nil => simp [next]
  | cons byte name ih =>
      have hbyte := hname byte (by simp)
      have hne : byte ≠ 0x24 := by
        rintro rfl
        cases hbyte
      have hrest := ih (fun other hmem => hname other (by simp [hmem])) (seen ++ [byte])
      simpa [next, hne, hbyte] using hrest

theorem afterBytes?_eq_some_iff {part bytes rest : List UInt8} :
    afterBytes? part bytes = some rest ↔ bytes = part ++ rest := by
  induction part generalizing bytes with
  | nil => simp [afterBytes?, eq_comm]
  | cons first part ih =>
      cases bytes with
      | nil => simp [afterBytes?]
      | cons byte bytes =>
          by_cases hfirst : first = byte
          · subst hfirst
            simp [afterBytes?, ih]
          · simp [afterBytes?, hfirst, Ne.symm hfirst]

/-! ## Modes that a lexer can come to -/

/-- The quote of a mode, if it has one, is a quote. -/
def Proper (reading : Reading) : Prop :=
  match reading.1 with
  | .quoted quote | .escaped quote | .unquoted quote => isQuote quote = true
  | _ => True

theorem proper_plainNext (dialect : Dialect) (last : Option UInt8) (byte : UInt8) :
    (plainNext dialect last byte).Proper := by
  unfold plainNext
  split
  next hquote => exact hquote
  next => split_ifs <;> trivial

theorem Proper.next
    {reading : Reading} (hproper : reading.Proper) (dialect : Dialect) (byte : UInt8) :
    (reading.next dialect byte).Proper := by
  obtain ⟨mode, last⟩ := reading
  -- a mode with a quote passes it on, and a new quote comes from outside of everything
  cases mode <;> simp only [Reading.next] <;> repeat' split
  all_goals first | exact hproper | exact proper_plainNext dialect _ _

theorem Proper.read
    {reading : Reading} (hproper : reading.Proper) (dialect : Dialect) (bytes : List UInt8) :
    (reading.read dialect bytes).Proper := by
  induction bytes generalizing reading with
  | nil => exact hproper
  | cons byte bytes ih => exact ih (hproper.next dialect byte)

/-! ## Semicolons -/

theorem plainNext_snd (dialect : Dialect) (last : Option UInt8) (byte : UInt8) :
    (plainNext dialect last byte).2 = last ∨ (plainNext dialect last byte).2 = some byte := by
  unfold plainNext
  split_ifs <;> simp

theorem Proper.next_ne_semicolon
    {reading : Reading} (hproper : reading.Proper) (hlast : reading.2 ≠ some 0x3B)
    (dialect : Dialect) {byte : UInt8} (hbyte : byte ≠ 0x3B) :
    (reading.next dialect byte).2 ≠ some 0x3B := by
  obtain ⟨mode, last⟩ := reading
  have hplain : ∀ before : Option UInt8, before ≠ some 0x3B →
      (plainNext dialect before byte).2 ≠ some 0x3B := by
    intro before hbefore
    rcases plainNext_snd dialect before byte with heq | heq
    · rwa [heq]
    · simpa [heq] using hbyte
  cases mode with
  | unquoted quote =>
      -- the byte that the mode has waited with is a quote
      have hquote : some quote ≠ some 0x3B := by
        rintro heq
        cases heq
        cases hproper
      simp only [Reading.next]
      split
      next => exact hlast
      next => exact hplain _ hquote
  | plain => exact hplain last hlast
  | dash =>
      simp only [Reading.next]
      split
      next => exact hlast
      next => exact hplain _ (by decide)
  | slash =>
      simp only [Reading.next]
      split
      next => exact hlast
      next => exact hplain _ (by decide)
  | tag name =>
      simp only [Reading.next]
      split_ifs
      · simpa using hbyte
      · exact hplain last hlast
      · simpa using hbyte
      · exact hplain last hlast
  | closing name seen =>
      simp only [Reading.next]
      split_ifs
      · simpa using hbyte
      · exact hlast
      · exact hlast
      · exact hlast
  | quoted quote =>
      simp only [Reading.next]
      split_ifs <;> exact hlast
  | _ => exact hlast

/-! ## Carriage returns -/

theorem Proper.next_return_feed
    {reading : Reading} (hproper : reading.Proper) (dialect : Dialect) :
    (reading.next dialect 0x0D).next dialect 0x0A = reading.next dialect 0x0A := by
  obtain ⟨mode, last⟩ := reading
  have hplain : ∀ last, plainNext dialect last 0x0D = (.plain, last) :=
    plain_next_space rfl
  have hfeed : ∀ last, plainNext dialect last 0x0A = (.plain, last) :=
    plain_next_space rfl
  have hne : ∀ quote, isQuote quote = true → (0x0D : UInt8) ≠ quote ∧ (0x0A : UInt8) ≠ quote := by
    rintro quote hquote
    constructor <;> rintro rfl <;> cases hquote
  cases mode with
  | quoted quote | escaped quote | unquoted quote =>
      obtain ⟨hreturn, hlf⟩ := hne quote hproper
      simp [Reading.next, hplain, hfeed, hreturn, hlf]
  | _ => simp [Reading.next, hplain, hfeed, isTagByte]

theorem Proper.read_withoutReturn
    {reading : Reading} (hproper : reading.Proper) (dialect : Dialect) (line : List UInt8) :
    reading.read dialect (Splitter.withoutReturn line ++ [0x0A]) =
      reading.read dialect (line ++ [0x0A]) := by
  unfold Splitter.withoutReturn
  split
  next hlast =>
    obtain ⟨front, rfl⟩ := List.getLast?_eq_some_iff.mp (by simpa using hlast)
    have hsame := (hproper.read dialect front).next_return_feed dialect
    simpa [read_append] using hsame.symm
  next => rfl

end Reading

/-! ## Lines -/

/-- A position that a scan of lines can come to. -/
def Lexeme.Proper : Lexeme → Prop
  | .plain | .blockComment => True
  | .quoted quote => isQuote quote = true
  | .dollar name => ∀ byte ∈ name, isTagByte byte = true

def Mode.ofLexeme : Lexeme → Mode
  | .plain => .plain
  | .quoted quote => .quoted quote
  | .blockComment => .blockComment
  | .dollar name => .body name

variable {dialect : Dialect}

theorem proper_scanLine
    (dialect : Dialect) {position : Lexeme} (hproper : position.Proper)
    (last : Option UInt8) (line : List UInt8) :
    (scanLine dialect position last line).1.Proper := by
  fun_induction scanLine dialect position last line with
  | case1 => exact hproper
  | case2 last byte rest hquote ih => exact ih hquote
  | case3 => trivial
  | case4 => trivial
  | case5 last byte rest _ _ _ _ ih => exact ih trivial
  | case6 last byte rest _ _ _ _ _ name hname ih =>
      obtain ⟨-, -, htag, -⟩ := Reading.dollarName?_eq_some hname
      exact ih htag
  | case12 quote last byte rest _ _ _ ih => exact ih trivial
  | case14 last byte rest _ ih => exact ih trivial
  | case16 name last byte rest _ behind _ ih => exact ih trivial
  | _ => rename_i ih; exact ih hproper

open Reading in
/-- A line read with its feed is a line scanned alone.  Where the scan takes several bytes in one
step, the lexer comes to the same position by way of the modes that wait. -/
theorem read_line_feed
    {position : Lexeme} (hproper : position.Proper) (last : Option UInt8) {line : List UInt8}
    (hline : 0x0A ∉ line) :
    Reading.read dialect (.ofLexeme position, last) (line ++ [0x0A]) =
      (.ofLexeme (scanLine dialect position last line).1,
        (scanLine dialect position last line).2) := by
  fun_induction scanLine dialect position last line with
  | case1 position last =>
      cases position with
      | quoted quote =>
          have hne : (0x0A : UInt8) ≠ quote := by
            rintro rfl
            cases hproper
          simp [Mode.ofLexeme, next, hne]
      | _ => rfl
  -- outside of everything
  | case2 last byte rest hquote ih =>
      refine (read_of_next (plain_next_quote hquote last) _).trans ?_
      exact ih hquote (List.not_mem_of_not_mem_cons hline)
  | case3 last byte rest hquote hdash =>
      simp only [Bool.and_eq_true, beq_iff_eq] at hdash
      obtain ⟨rfl, hhead⟩ := hdash
      obtain ⟨others, rfl⟩ := List.head?_eq_some_iff.mp hhead
      have hothers : 0x0A ∉ others := fun hmem => hline (by simp [hmem])
      exact lineComment_read_feed hothers last
  | case4 last byte rest hquote hdash hhash =>
      simp only [Bool.and_eq_true, beq_iff_eq] at hhash
      obtain ⟨rfl, hhash⟩ := hhash
      refine (read_of_next (plain_next_hash hhash last) _).trans ?_
      exact lineComment_read_feed (List.not_mem_of_not_mem_cons hline) last
  | case5 last byte rest hquote hdash hhash hslash ih =>
      simp only [Bool.and_eq_true, beq_iff_eq] at hslash
      obtain ⟨rfl, hhead⟩ := hslash
      obtain ⟨others, rfl⟩ := List.head?_eq_some_iff.mp hhead
      have hothers : 0x0A ∉ others := fun hmem => hline (by simp [hmem])
      exact ih trivial hothers
  | case6 last byte rest hquote hdash hhash hslash hdollar name hname ih =>
      simp only [Bool.and_eq_true, beq_iff_eq] at hdollar
      obtain ⟨rfl, hdollar⟩ := hdollar
      obtain ⟨behind, rfl, htag, hdigit⟩ := dollarName?_eq_some hname
      have hbehind : 0x0A ∉ behind := fun hmem => hline (by simp [hmem])
      have htagged := tag_read dialect [] htag (fun _ => hdigit) (behind ++ [0x0A])
        (some 0x24)
      have hdrop : (name ++ 0x24 :: behind).drop (name.length + 1) = behind := by simp
      rw [hdrop] at ih ⊢
      rw [← ih htag hbehind]
      refine (read_of_next (plain_next_dollar hdollar last) _).trans ?_
      simpa [Mode.ofLexeme] using htagged
  | case7 last byte rest hquote hdash hhash hslash hdollar hname ih =>
      simp only [Bool.and_eq_true, beq_iff_eq] at hdollar
      obtain ⟨rfl, hdollar⟩ := hdollar
      rw [← ih trivial (List.not_mem_of_not_mem_cons hline)]
      refine (read_of_next (plain_next_dollar hdollar last) _).trans ?_
      exact dollar_read_feed hname _
  | case8 last byte rest hquote hdash hhash hslash hdollar hspace ih =>
      refine (read_of_next (plain_next_space hspace last) _).trans ?_
      exact ih trivial (List.not_mem_of_not_mem_cons hline)
  | case9 last byte rest hquote hdash hhash hslash hdollar hspace ih =>
      rw [← ih trivial (List.not_mem_of_not_mem_cons hline)]
      by_cases hminus : byte = 0x2D
      · subst hminus
        exact read_feed_of_waiting (fun _ hbyte => dash_next hbyte last) (by decide)
          (by simpa using hdash)
      by_cases hsolidus : byte = 0x2F
      · subst hsolidus
        exact read_feed_of_waiting (fun _ hbyte => slash_next hbyte last) (by decide)
          (by simpa using hslash)
      exact read_of_next
        (plain_next_other hquote hminus hhash hsolidus hdollar hspace last) _
  -- inside of a quoted text
  | case10 quote last byte rest hescape ih =>
      refine (read_of_next (quoted_next_escape hescape quote last) _).trans ?_
      cases rest with
      | nil =>
          -- the feed itself is escaped
          rw [List.tail_nil, scanLine]
          rfl
      | cons escaped rest =>
          have hrest : 0x0A ∉ rest := fun hmem => hline (by simp [hmem])
          exact ih hproper hrest
  | case11 quote last byte rest hescape hquote hdoubled ih =>
      obtain rfl : byte = quote := by simpa using hquote
      obtain ⟨others, rfl⟩ := List.head?_eq_some_iff.mp (by simpa using hdoubled)
      have hothers : 0x0A ∉ others := fun hmem => hline (by simp [hmem])
      refine (read_of_next (quoted_next_quote hescape last) _).trans ?_
      refine (read_of_next (unquoted_next_quote dialect byte last) _).trans ?_
      exact ih hproper hothers
  | case12 quote last byte rest hescape hquote hsingle ih =>
      obtain rfl : byte = quote := by simpa using hquote
      have hfeed : byte ≠ 0x0A := by
        rintro rfl
        exact hline (by simp)
      rw [← ih trivial (List.not_mem_of_not_mem_cons hline)]
      refine (read_of_next (quoted_next_quote hescape last) _).trans ?_
      exact read_feed_of_waiting (fun _ hbyte => unquoted_next hbyte last) hfeed
        (by simpa using hsingle)
  | case13 quote last byte rest hescape hquote ih =>
      refine (read_of_next (quoted_next_other hescape hquote last) _).trans ?_
      exact ih hproper (List.not_mem_of_not_mem_cons hline)
  -- inside of a block comment
  | case14 last byte rest hstar ih =>
      simp only [Bool.and_eq_true, beq_iff_eq] at hstar
      obtain ⟨rfl, hhead⟩ := hstar
      obtain ⟨others, rfl⟩ := List.head?_eq_some_iff.mp hhead
      have hothers : 0x0A ∉ others := fun hmem => hline (by simp [hmem])
      exact ih trivial hothers
  | case15 last byte rest hstar ih =>
      rw [← ih trivial (List.not_mem_of_not_mem_cons hline)]
      by_cases hasterisk : byte = 0x2A
      · subst hasterisk
        exact read_feed_of_waiting (fun _ hbyte => star_next hbyte last) (by decide)
          (by simpa using hstar)
      · simp [Mode.ofLexeme, next, hasterisk]
  -- inside of a body between two tags
  | case16 name last byte rest hdollar behind hclose ih =>
      obtain rfl : byte = 0x24 := by simpa using hdollar
      obtain rfl := afterBytes?_eq_some_iff.mp hclose
      have hbehind : 0x0A ∉ behind := fun hmem => hline (by simp [hmem])
      have hclosed := closing_read dialect hproper [] (behind ++ [0x0A]) last
      rw [← ih trivial hbehind]
      simpa [Mode.ofLexeme, next] using hclosed
  | case17 name last byte rest hdollar hclose ih =>
      obtain rfl : byte = 0x24 := by simpa using hdollar
      have hopen : ¬ (name ++ [0x24]) <+: ([] ++ rest) := by
        rintro ⟨behind, hbehind⟩
        have hclosed := afterBytes?_eq_some_iff.mpr hbehind.symm
        rw [List.nil_append, hclose] at hclosed
        cases hclosed
      rw [← ih hproper (List.not_mem_of_not_mem_cons hline)]
      exact closing_read_feed hopen last
  | case18 name last byte rest hdollar ih =>
      have hnext : next dialect (.body name, last) byte = (.body name, last) := by
        simp only [next, hdollar, if_false, Bool.false_eq_true]
      exact (read_of_next hnext _).trans (ih hproper (List.not_mem_of_not_mem_cons hline))

end SqlPipe.Script
