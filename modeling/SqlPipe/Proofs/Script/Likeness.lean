import SqlPipe.Proofs.Script.Delimiters
import SqlPipe.Proofs.Text.Recoding

/-!
# Lexers that do alike

What a lexer remembers of a line besides its mode is one byte, and all it ever asks is whether that
is a semicolon and whether there is one at all.  Lexers that agree on that end a statement at the
same line feeds.  Hence nothing changes when bytes outside of ASCII are exchanged for others, and
little when a lexer has read white space before.
-/

namespace SqlPipe.Script

open Text (High Recoded)

/-! ## Bytes outside of ASCII -/

def Mode.behindHigh : Mode → Mode
  | .plain | .dash | .slash | .tag _ | .unquoted _ => .plain
  | .lineComment => .lineComment
  | .blockComment | .star => .blockComment
  | .quoted quote | .escaped quote => .quoted quote
  | .body name | .closing name _ => .body name

@[simp] theorem Mode.behindHigh_behindHigh (mode : Mode) :
    mode.behindHigh.behindHigh = mode.behindHigh := by
  cases mode <;> rfl

theorem ne_of_high {byte other : UInt8} (hhigh : 0x80 ≤ byte) (hascii : other < 0x80) :
    byte ≠ other := by
  rintro rfl
  exact UInt8.not_le.mpr hascii hhigh

theorem isTagByte_high {byte : UInt8} (hhigh : 0x80 ≤ byte) : isTagByte byte = false := by
  grind [isTagByte]

namespace Reading

variable {dialect : Dialect} {byte : UInt8}

theorem plainNext_high (hhigh : 0x80 ≤ byte) (last : Option UInt8) :
    plainNext dialect last byte = (.plain, some byte) := by
  grind [plainNext, isQuote, Text.isAsciiSpace]

theorem Proper.next_high
    {mode : Mode} {last : Option UInt8} (hproper : Proper (mode, last)) (dialect : Dialect)
    (hhigh : 0x80 ≤ byte) :
    Reading.next dialect (mode, last) byte =
      (mode.behindHigh, if mode.behindHigh = .plain then some byte else last) := by
  have hplain := fun last => @plainNext_high dialect byte hhigh last
  have htag := isTagByte_high hhigh
  cases mode with
  | quoted quote | escaped quote | unquoted quote =>
      have hquote : isQuote quote = true := hproper
      grind [Reading.next, Mode.behindHigh, isQuote]
  | _ => grind [Reading.next, Mode.behindHigh]

/-- Of a stretch of bytes outside of ASCII only the last one is remembered, and only in code. -/
theorem Proper.read_high
    {mode : Mode} {last : Option UInt8} (hproper : Proper (mode, last)) (dialect : Dialect)
    {stretch : List UInt8} (hne : stretch ≠ []) (hhigh : High stretch) :
    Reading.read dialect (mode, last) stretch =
      (mode.behindHigh, if mode.behindHigh = .plain then stretch.getLast? else last) := by
  induction stretch generalizing mode last with
  | nil => exact absurd rfl hne
  | cons byte stretch ih =>
      obtain ⟨hbyte, hrest⟩ := List.forall_mem_cons.mp hhigh
      have hnext := hproper.next_high dialect hbyte
      have hbehind := hproper.next dialect byte
      rw [hnext] at hbehind
      rw [read_cons, hnext]
      cases stretch with
      | nil => rfl
      | cons second stretch =>
          rw [ih hbehind (List.cons_ne_nil _ _) hrest, Mode.behindHigh_behindHigh]
          split_ifs <;> rfl

/-- The mode behind a byte does not hang on what is remembered, and what is remembered then is
either kept or the same whatever it was. -/
theorem next_last (dialect : Dialect) (mode : Mode) (last other : Option UInt8) (byte : UInt8) :
    (next dialect (mode, last) byte).1 = (next dialect (mode, other) byte).1 ∧
      ((next dialect (mode, last) byte).2 = last ∧ (next dialect (mode, other) byte).2 = other ∨
        (next dialect (mode, last) byte).2 = (next dialect (mode, other) byte).2) := by
  have hplain : (plainNext dialect last byte).1 = (plainNext dialect other byte).1 ∧
      ((plainNext dialect last byte).2 = last ∧ (plainNext dialect other byte).2 = other ∨
        (plainNext dialect last byte).2 = (plainNext dialect other byte).2) := by
    simp only [plainNext]
    split_ifs <;> simp
  cases mode with
  | plain => exact hplain
  | dash | slash | unquoted quote =>
      simp only [next]
      split_ifs <;> simp
  | tag name =>
      simp only [next]
      split_ifs <;> first | exact hplain | simp
  | quoted quote | closing name seen =>
      simp only [next]
      split_ifs <;> simp
  | _ => simp [next]

/-- A relation between what readings in the same mode remember is kept by every byte. -/
theorem next_related
    {related : Option UInt8 → Option UInt8 → Prop} (hrefl : ∀ last, related last last)
    {one other : Reading} (hmode : one.1 = other.1) (hlast : related one.2 other.2)
    (dialect : Dialect) (byte : UInt8) :
    (one.next dialect byte).1 = (other.next dialect byte).1 ∧
      related (one.next dialect byte).2 (other.next dialect byte).2 := by
  obtain ⟨mode, last⟩ := one
  obtain ⟨mode', last'⟩ := other
  obtain rfl : mode = mode' := hmode
  obtain ⟨hnext, ⟨hkept, hkept'⟩ | hsame⟩ := next_last dialect mode last last' byte
  · refine ⟨hnext, ?_⟩
    rw [hkept, hkept']
    exact hlast
  · refine ⟨hnext, ?_⟩
    rw [hsame]
    exact hrefl _

end Reading

namespace Lexer

variable {dialect : Dialect} {lexer one other : Lexer} {byte : UInt8}
  {bytes others : List UInt8}

@[simp] theorem step_bare (dialect : Dialect) (lexer : Lexer) (byte : UInt8) :
    (lexer.step dialect byte).bare =
      if byte = 0x0A then lexer.bare && (lexer.reading.next dialect byte).2 == none
      else lexer.bare := by
  by_cases hfeed : byte = 0x0A <;> simp [step, hfeed]

@[simp] theorem step_last (dialect : Dialect) (lexer : Lexer) (byte : UInt8) :
    (lexer.step dialect byte).reading.2 =
      if byte = 0x0A then none else (lexer.reading.next dialect byte).2 := by
  by_cases hfeed : byte = 0x0A <;> simp [step, hfeed]

theorem goesThrough_of_not_mem (hline : 0x0A ∉ bytes) :
    goesThrough dialect lexer bytes = true := by
  rw [goesThrough_iff]
  rintro earlier behind rfl
  exact absurd (by simp) hline

/-! ## Bytes outside of ASCII exchanged for others -/

/-- The same byte or the same lack of one, or two bytes outside of ASCII. -/
def SameSign (last last' : Option UInt8) : Prop :=
  last = last' ∨ ∃ high high', 0x80 ≤ high ∧ 0x80 ≤ high' ∧ last = some high ∧ last' = some high'

theorem SameSign.beq {last last' : Option UInt8} (hsame : SameSign last last') :
    (last == none) = (last' == none) ∧ (last == some 0x3B) = (last' == some 0x3B) := by
  rcases hsame with rfl | ⟨high, high', hhigh, hhigh', rfl, rfl⟩
  · exact ⟨rfl, rfl⟩
  · have hne := ne_of_high hhigh (show 0x3B < 0x80 by decide)
    have hne' := ne_of_high hhigh' (show 0x3B < 0x80 by decide)
    simp [hne, hne']

/-- Lexers of one statement whose lines differ outside of ASCII only. -/
structure Alike (one other : Lexer) : Prop where
  comment : one.comment = other.comment
  bare : one.bare = other.bare
  mode : one.reading.1 = other.reading.1
  last : SameSign one.reading.2 other.reading.2

theorem Alike.refl (lexer : Lexer) : Alike lexer lexer :=
  ⟨rfl, rfl, rfl, .inl rfl⟩

theorem Alike.next (halike : Alike one other) (dialect : Dialect) (byte : UInt8) :
    (one.reading.next dialect byte).1 = (other.reading.next dialect byte).1 ∧
      SameSign (one.reading.next dialect byte).2 (other.reading.next dialect byte).2 :=
  Reading.next_related (fun _ => .inl rfl) halike.mode halike.last dialect byte

theorem Alike.endsHere (halike : Alike one other) (dialect : Dialect) :
    one.endsHere dialect = other.endsHere dialect := by
  obtain ⟨hmode, hlast⟩ := halike.next dialect 0x0A
  obtain ⟨hnone, hsemicolon⟩ := hlast.beq
  simp only [Lexer.endsHere, halike.comment, halike.bare, hmode, hnone, hsemicolon]

theorem Alike.step (halike : Alike one other) (dialect : Dialect) (byte : UInt8) :
    Alike (one.step dialect byte) (other.step dialect byte) := by
  obtain ⟨hmode, hlast⟩ := halike.next dialect byte
  refine ⟨?_, ?_, ?_, ?_⟩
  · rw [step_comment, step_comment, halike.comment]
  · rw [step_bare, step_bare, halike.bare, hlast.beq.1]
  · rw [step_mode, step_mode, hmode]
  · rw [step_last, step_last]
    split_ifs
    · exact .inl rfl
    · exact hlast

theorem Alike.run_high
    (halike : Alike one other) (hproper : one.reading.Proper) {stretch stretch' : List UInt8}
    (hne : stretch ≠ []) (hne' : stretch' ≠ []) (hhigh : High stretch) (hhigh' : High stretch') :
    Alike (one.run dialect stretch) (other.run dialect stretch') := by
  obtain ⟨comment, bare, mode, last⟩ := one
  obtain ⟨comment', bare', mode', last'⟩ := other
  obtain rfl : mode = mode' := halike.mode
  rw [run_line dialect (hhigh.not_mem (by decide)), run_line dialect (hhigh'.not_mem (by decide))]
  have hproper' : Reading.Proper (mode, last') := hproper
  have hread := hproper.read_high dialect hne hhigh
  have hread' := hproper'.read_high dialect hne' hhigh'
  simp only [hread, hread']
  refine ⟨halike.comment, halike.bare, rfl, ?_⟩
  dsimp only
  split_ifs
  · rw [List.getLast?_eq_some_getLast hne, List.getLast?_eq_some_getLast hne']
    exact .inr ⟨_, _, hhigh _ (List.getLast_mem hne), hhigh' _ (List.getLast_mem hne'), rfl, rfl⟩
  · exact halike.last

theorem proper_step (hproper : lexer.reading.Proper) (dialect : Dialect) (byte : UInt8) :
    (lexer.step dialect byte).reading.Proper := by
  have hnext := hproper.next dialect byte
  simp only [step]
  split <;> exact hnext

theorem proper_run (hproper : lexer.reading.Proper) (dialect : Dialect) (bytes : List UInt8) :
    (lexer.run dialect bytes).reading.Proper := by
  induction bytes generalizing lexer with
  | nil => exact hproper
  | cons byte bytes ih => exact ih (proper_step hproper dialect byte)

/-- Lexers that do alike do so through bytes that differ outside of ASCII only. -/
theorem Alike.goesThrough
    (halike : Alike one other) (hproper : one.reading.Proper) (hrecoded : Recoded bytes others) :
    goesThrough dialect one bytes = goesThrough dialect other others := by
  induction hrecoded generalizing one other with
  | nil => rfl
  | @ascii byte bytes others hascii hrest ih =>
      rw [Lexer.goesThrough, Lexer.goesThrough, halike.endsHere,
        ih (halike.step dialect byte) (proper_step hproper dialect byte)]
  | @high stretch stretch' bytes others hne hne' hhigh hhigh' hrest ih =>
      rw [goesThrough_append, goesThrough_append,
        goesThrough_of_not_mem (hhigh.not_mem (by decide)),
        goesThrough_of_not_mem (hhigh'.not_mem (by decide)),
        ih (halike.run_high hproper hne hne' hhigh hhigh') (proper_run hproper dialect stretch)]

theorem isPrefixOf_of_recoded
    (begin : List UInt8) (hascii : ∀ byte ∈ begin, byte < 0x80) (hrecoded : Recoded bytes others) :
    begin.isPrefixOf bytes = begin.isPrefixOf others := by
  induction hrecoded generalizing begin with
  | nil => rfl
  | @ascii byte bytes others hbyte hrest ih =>
      cases begin with
      | nil => rfl
      | cons first begin =>
          have hbegin := ih begin fun byte hmem => hascii byte (List.mem_cons_of_mem first hmem)
          simp [List.isPrefixOf, hbegin]
  | @high stretch stretch' bytes others hne hne' hhigh hhigh' hrest ih =>
      obtain ⟨high, stretch, rfl⟩ := List.exists_cons_of_ne_nil hne
      obtain ⟨high', stretch', rfl⟩ := List.exists_cons_of_ne_nil hne'
      cases begin with
      | nil => rfl
      | cons first begin =>
          have hfirst := hascii first (by simp)
          have hother := beq_false_of_ne (ne_of_high (hhigh high (by simp)) hfirst).symm
          have hother' := beq_false_of_ne (ne_of_high (hhigh' high' (by simp)) hfirst).symm
          simp [List.isPrefixOf, hother, hother']

theorem start_of_recoded (dialect : Dialect) (hrecoded : Recoded bytes others) :
    start dialect bytes = start dialect others := by
  simp only [start, isPrefixOf_of_recoded [0x2D, 0x2D] (by simp) hrecoded,
    isPrefixOf_of_recoded [0x23] (by simp) hrecoded,
    isPrefixOf_of_recoded [0x2F, 0x2A] (by simp) hrecoded]

/-! ## White space -/

/-- The lexer is outside of everything, and no semicolon is the last byte of its line. -/
structure Outside (lexer : Lexer) : Prop where
  mode : lexer.reading.1 = .plain
  last : lexer.reading.2 ≠ some 0x3B

/-- The bytes of encoded white space are none of the visible ones of ASCII. -/
theorem le_or_high_of_blank
    {blank : List Char} (hblank : Text.Blank blank) (hbyte : byte ∈ Text.utf8Encode blank) :
    byte ≤ 0x20 ∨ 0x80 ≤ byte := by
  by_cases hascii : byte < 0x80
  · obtain ⟨c, hc, hmem⟩ := List.mem_flatMap.mp hbyte
    have hspace := hblank c hc
    rw [(Text.encodeChar_of_mem hmem hascii).2] at hspace
    simp only [Text.isSpace, Text.toNat_charOfByte, Bool.or_eq_true, Bool.and_eq_true,
      decide_eq_true_eq, beq_iff_eq] at hspace
    rw [UInt8.lt_iff_toNat_lt] at hascii
    left
    rw [UInt8.le_iff_toNat_le]
    change byte.toNat ≤ 32
    change byte.toNat < 128 at hascii
    omega
  · exact .inr (UInt8.not_lt.mp hascii)

theorem Outside.step (hin : Outside lexer) (hbyte : byte ≤ 0x20 ∨ 0x80 ≤ byte) :
    Outside (lexer.step dialect byte) := by
  obtain ⟨comment, bare, mode, last⟩ := lexer
  obtain rfl : mode = .plain := hin.mode
  have hplain : (Reading.plainNext dialect last byte).1 = .plain := by
    grind [Reading.plainNext, isQuote]
  have hsemicolon : byte ≠ 0x3B := by grind
  have hproper : Reading.Proper (.plain, last) := True.intro
  have hlast := hproper.next_ne_semicolon hin.last dialect hsemicolon
  constructor
  · rw [step_mode]
    exact hplain
  · rw [step_last]
    split_ifs
    · simp
    · exact hlast

theorem Outside.run
    (hin : Outside lexer) (hbytes : ∀ byte ∈ bytes, byte ≤ 0x20 ∨ 0x80 ≤ byte) :
    Outside (lexer.run dialect bytes) := by
  induction bytes generalizing lexer with
  | nil => exact hin
  | cons byte bytes ih =>
      obtain ⟨hbyte, hrest⟩ := List.forall_mem_cons.mp hbytes
      exact ih (hin.step hbyte) hrest

/-! ## Lexers behind white space -/

/-- Both are semicolons, or neither is. -/
def SameEnd (last last' : Option UInt8) : Prop :=
  last = some 0x3B ↔ last' = some 0x3B

/-- Lexers in the same mode that agree on whether a semicolon is the last byte of their lines. -/
structure Near (one other : Lexer) : Prop where
  mode : one.reading.1 = other.reading.1
  last : SameEnd one.reading.2 other.reading.2

theorem Outside.near (hin : Outside one) (hin' : Outside other) : Near one other :=
  ⟨hin.mode.trans hin'.mode.symm, iff_of_false hin.last hin'.last⟩

theorem Near.next (hnear : Near one other) (dialect : Dialect) (byte : UInt8) :
    (one.reading.next dialect byte).1 = (other.reading.next dialect byte).1 ∧
      SameEnd (one.reading.next dialect byte).2 (other.reading.next dialect byte).2 :=
  Reading.next_related (fun _ => Iff.rfl) hnear.mode hnear.last dialect byte

theorem Near.run (hnear : Near one other) (dialect : Dialect) (bytes : List UInt8) :
    Near (one.run dialect bytes) (other.run dialect bytes) := by
  induction bytes generalizing one other with
  | nil => exact hnear
  | cons byte bytes ih =>
      obtain ⟨hmode, hlast⟩ := hnear.next dialect byte
      refine ih ⟨?_, ?_⟩
      · rw [step_mode, step_mode, hmode]
      · rw [step_last, step_last]
        split_ifs
        · exact Iff.rfl
        · exact hlast

end Lexer

end SqlPipe.Script
