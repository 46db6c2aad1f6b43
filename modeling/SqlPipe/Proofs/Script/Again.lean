import SqlPipe.Proofs.Script.Identifiers
import SqlPipe.Proofs.Script.Likeness

/-!
# Statements split again

A statement that was cut out of a script is a script of its own.  Its text was decoded and trimmed,
so it is not the piece of the script that it was cut out of: white space other than ASCII stands in
front of a statement when it is cut, and is gone afterwards.  Behind such white space a comment is
no beginning, in the trimmed text it is one, and a line feed behind it ends the statement.  Nothing
else can break a statement when it is split again.
-/

namespace SqlPipe.Script

open Text (utf8Bytes utf8Decode utf8Encode)

variable {dialect : Dialect} {bytes piece : List UInt8} {text : String}

namespace Lexer

variable {lexer one other : Lexer} {front : List UInt8}

theorem cut?_eq_none_iff :
    cut? dialect lexer bytes = none ↔ goesThrough dialect lexer bytes = true := by
  induction bytes generalizing lexer with
  | nil => simp [cut?, goesThrough]
  | cons byte bytes ih =>
      rw [cut?, goesThrough]
      split
      next hends => simp [hends]
      next hends =>
        rw [Option.map_eq_none_iff, ih]
        simp [Bool.eq_false_iff.mpr hends]

/-- A line feed here ends the statement as a comment, whatever stands in front of the feed. -/
def endsComment (dialect : Dialect) (lexer : Lexer) : Bool :=
  let (mode, last) := lexer.reading.next dialect 0x0A
  lexer.comment || lexer.bare && (mode == .plain && last == none)

/-- A statement with the given text ends at a line feed inside of it, as a comment does. -/
def BreaksOff (dialect : Dialect) (bytes : List UInt8) : Prop :=
  ∃ front behind, bytes = front ++ 0x0A :: behind ∧
    ((start dialect bytes).run dialect front).endsComment dialect = true

theorem endsHere_eq (dialect : Dialect) (lexer : Lexer) :
    lexer.endsHere dialect =
      (lexer.endsComment dialect || ((lexer.reading.next dialect 0x0A).1 == .plain &&
        (lexer.reading.next dialect 0x0A).2 == some 0x3B)) := by
  simp only [endsHere, endsComment]
  cases lexer.comment <;> cases lexer.bare <;>
    simp [Bool.and_or_distrib_left, Bool.or_comm]

theorem run_comment (dialect : Dialect) (lexer : Lexer) (bytes : List UInt8) :
    (lexer.run dialect bytes).comment = lexer.comment := by
  induction bytes generalizing lexer with
  | nil => rfl
  | cons byte bytes ih => rw [run_cons, ih, step_comment]

theorem bare_of_run (hbare : (lexer.run dialect bytes).bare = true) : lexer.bare = true := by
  induction bytes generalizing lexer with
  | nil => exact hbare
  | cons byte bytes ih => exact bare_of_step (ih hbare)

theorem not_breaksOff_of_code (hcode : Splitter.shapeOf dialect bytes = .code) :
    ¬BreaksOff dialect bytes := by
  rintro ⟨front, behind, -, hends⟩
  have hstart : start dialect bytes = atLine .code .plain := by rw [start_eq_atLine, hcode]
  rw [hstart, endsComment, run_comment, Bool.or_eq_true, Bool.and_eq_true] at hends
  rcases hends with hcomment | ⟨hbare, -⟩
  · cases hcomment
  · cases bare_of_run hbare

/-- Where a lexer goes through bytes, one near to it stops only where a comment ends. -/
theorem Near.goesThrough_iff
    (hnear : Near one other) (hgoes : goesThrough dialect one bytes = true) :
    goesThrough dialect other bytes = true ↔
      ∀ front behind, bytes = front ++ 0x0A :: behind →
        (other.run dialect front).endsComment dialect = false := by
  rw [Lexer.goesThrough_iff]
  have hopen : ∀ front behind, bytes = front ++ 0x0A :: behind →
      (((other.run dialect front).reading.next dialect 0x0A).1 == .plain &&
        ((other.run dialect front).reading.next dialect 0x0A).2 == some 0x3B) = false := by
    intro front behind hbytes
    have hends := Lexer.goesThrough_iff.mp hgoes front behind hbytes
    rw [endsHere_eq, Bool.or_eq_false_iff] at hends
    obtain ⟨hmode, hlast⟩ := (hnear.run dialect front).next dialect 0x0A
    rw [← hends.2, Bool.eq_iff_iff]
    simp only [Bool.and_eq_true, beq_iff_eq, hmode, hlast.eq]
  constructor
  · intro hthrough front behind hbytes
    have hends := hthrough front behind hbytes
    rw [endsHere_eq, Bool.or_eq_false_iff] at hends
    exact hends.1
  · intro hcomments front behind hbytes
    rw [endsHere_eq, hcomments front behind hbytes, hopen front behind hbytes]
    rfl

theorem start_append
    {others : List UInt8} (hne : bytes ≠ [])
    (hhead : others.head? ≠ some 0x2D ∧ others.head? ≠ some 0x2A) :
    start dialect (bytes ++ others) = start dialect bytes := by
  rcases bytes with _ | ⟨first, _ | ⟨second, bytes⟩⟩
  · exact absurd rfl hne
  · cases others with
    | nil => rfl
    | cons byte others =>
        obtain ⟨hdash, hstar⟩ : byte ≠ 0x2D ∧ byte ≠ 0x2A := by simpa using hhead
        simp [start, List.isPrefixOf, hdash.symm, hstar.symm]
  · simp [start, List.isPrefixOf]

end Lexer

/-! ## Pieces and their texts -/

/-- A lexer comes to the end of a piece, or to the line feed that ends it. -/
theorem exists_front_of_mem_pieces (hpiece : piece ∈ pieces dialect bytes) :
    ∃ front, (piece = front ++ [0x0A] ∨ piece = front) ∧
      Lexer.goesThrough dialect (Lexer.start dialect piece) front = true := by
  fun_induction pieces dialect bytes with
  | case1 => cases hpiece
  | case2 bytes first rest hbegun hcut ih =>
      rcases List.mem_cons.mp hpiece with rfl | hmem
      · obtain ⟨front, rfl, htext, -, hgoes⟩ := Lexer.cut?_eq_some_iff.mp hcut
        rw [htext, Lexer.start_append_feed] at hgoes
        exact ⟨front, .inl rfl, Lexer.goesThrough_iff.mpr hgoes⟩
      · exact ih hmem
  | case3 bytes hbegun hcut =>
      obtain rfl := List.mem_singleton.mp hpiece
      exact ⟨_, .inr rfl, Lexer.cut?_eq_none_iff.mp hcut⟩

theorem head?_utf8Encode_blank
    {blank : List Char} (hblank : Text.Blank blank) {byte : UInt8} (hvisible : 0x20 < byte)
    (hascii : byte < 0x80) : (utf8Encode blank).head? ≠ some byte := by
  intro hhead
  rcases Lexer.le_or_high_of_blank hblank (List.mem_of_head? hhead) with hle | hhigh
  · exact UInt8.not_le.mpr hvisible hle
  · exact UInt8.not_le.mpr hascii hhigh

/-- The white space of a piece in front of its text, and a lexer that has read it and goes through
the text. -/
theorem exists_blank_of_textOf?
    (hpiece : piece ∈ pieces dialect bytes) (htext : Splitter.textOf? piece = some text) :
    ∃ blank behind, utf8Decode piece = blank ++ text.toList ++ behind ∧ Text.Blank blank ∧
      Text.Blank behind ∧
      Lexer.goesThrough dialect ((Lexer.start dialect piece).run dialect (utf8Encode blank))
        (utf8Bytes text) = true := by
  obtain ⟨front, hfront, hgoes⟩ := exists_front_of_mem_pieces hpiece
  obtain ⟨blank, behind, hdecoded, hblank, hbehind, hne, htrimmed⟩ :=
    Splitter.exists_of_textOf? htext
  obtain ⟨rest, hrest⟩ : ∃ rest, utf8Decode front = blank ++ text.toList ++ rest := by
    rcases hfront with rfl | rfl
    · have hline : utf8Decode (front ++ [0x0A]) = utf8Decode front ++ ['\n'] := by
        rw [Text.utf8Decode_append_ascii (by decide), Text.utf8Decode_nil]
        rfl
      rw [hline] at hdecoded
      have hfeed : '\n' ∈ behind :=
        Splitter.feed_mem_of_trimmed hdecoded (by simpa using hne) htrimmed
      rcases List.eq_nil_or_concat behind with rfl | ⟨rest, last, rfl⟩
      · cases hfeed
      · refine ⟨rest, ?_⟩
        rw [List.concat_eq_append, ← List.append_assoc] at hdecoded
        exact (List.append_inj' hdecoded rfl).1
    · exact ⟨behind, hdecoded⟩
  have hrecoded := Text.recoded_utf8Encode_utf8Decode front
  rw [(Lexer.Alike.refl _).goesThrough (by exact True.intro) hrecoded, hrest, Text.utf8Encode_append,
    Text.utf8Encode_append, Lexer.goesThrough_append, Lexer.goesThrough_append,
    Bool.and_eq_true, Bool.and_eq_true] at hgoes
  exact ⟨blank, behind, hdecoded, hblank, hbehind, hgoes.1.2⟩

theorem utf8Bytes_ne_nil (hne : text ≠ "") : utf8Bytes text ≠ [] := by
  intro hnil
  have hdecoded := Text.utf8Decode_utf8Encode text.toList
  rw [← utf8Bytes, hnil, Text.utf8Decode_nil] at hdecoded
  exact hne (by simpa using hdecoded.symm)

/-- Where a piece has no white space in front of its text, it begins as the text does. -/
theorem goesThrough_of_textOf?
    (hpiece : piece ∈ pieces dialect bytes) (htext : Splitter.textOf? piece = some text)
    (hbegins : ∀ c, (utf8Decode piece).head? = some c → Text.isSpace c = false) :
    Lexer.goesThrough dialect (Lexer.start dialect (utf8Bytes text)) (utf8Bytes text) = true := by
  obtain ⟨-, -, -, -, -, hne, -⟩ := Splitter.exists_of_textOf? htext
  obtain ⟨blank, behind, hdecoded, hblank, hbehind, hgoes⟩ := exists_blank_of_textOf? hpiece htext
  cases blank with
  | nil =>
      have hstart : Lexer.start dialect piece = Lexer.start dialect (utf8Bytes text) := by
        rw [Lexer.start_of_recoded dialect (Text.recoded_utf8Encode_utf8Decode piece), hdecoded,
          List.nil_append, Text.utf8Encode_append]
        refine Lexer.start_append (utf8Bytes_ne_nil hne) ⟨?_, ?_⟩ <;>
          exact head?_utf8Encode_blank hbehind (by decide) (by decide)
      rwa [Text.utf8Encode_nil, Lexer.run_nil, hstart] at hgoes
  | cons first blank =>
      have hvisible := hbegins first (by simp [hdecoded])
      rw [hblank first (by simp)] at hvisible
      cases hvisible

/-! ## Statements of one statement -/

theorem textOf?_utf8Bytes (hne : text ≠ "") (htrimmed : Text.Trimmed text.toList) :
    Splitter.textOf? (utf8Bytes text) = some text := by
  have hnone : Text.Blank [] := List.forall_mem_nil _
  have halone := textOf?_around hne htrimmed hnone hnone
  rwa [List.append_nil] at halone

theorem dropWhile_utf8Bytes (htrimmed : Text.Trimmed text.toList) :
    (utf8Bytes text).dropWhile Text.isAsciiSpace = utf8Bytes text := by
  cases hchars : text.toList with
  | nil => simp [utf8Bytes, hchars]
  | cons first chars =>
      obtain ⟨byte, others, hbyte⟩ :=
        List.exists_cons_of_ne_nil (Text.encodeChar_ne_nil first)
      rw [utf8Bytes, hchars, Text.utf8Encode_cons, hbyte, List.cons_append]
      apply List.dropWhile_cons_of_neg
      intro hspace
      have hascii : byte < 0x80 := by
        rcases Text.isAsciiSpace_iff.mp hspace with rfl | rfl | rfl | rfl | rfl <;> decide
      have hfirst := (Text.encodeChar_of_mem (c := first) (by simp [hbyte]) hascii).2
      have hvisible := htrimmed.1 first (by rw [hchars]; rfl)
      rw [hfirst, Text.isSpace_charOfByte hspace] at hvisible
      cases hvisible

theorem statements_utf8Bytes_iff (hne : text ≠ "") (htrimmed : Text.Trimmed text.toList) :
    statements dialect (utf8Bytes text) = [text] ↔
      Lexer.goesThrough dialect (Lexer.start dialect (utf8Bytes text)) (utf8Bytes text) = true := by
  have hbegins := dropWhile_utf8Bytes htrimmed
  rw [statements, Splitter.drain_eq_pieces, ← Lexer.cut?_eq_none_iff]
  cases hcut : (Lexer.start dialect (utf8Bytes text)).cut? dialect (utf8Bytes text) with
  | none =>
      refine iff_of_true ?_ rfl
      rw [pieces_of_whole hbegins (utf8Bytes_ne_nil hne) hcut,
        List.filterMap_cons_some (textOf?_utf8Bytes hne htrimmed), List.filterMap_nil]
  | some cut =>
      obtain ⟨piece, rest⟩ := cut
      refine iff_of_false ?_ (Option.some_ne_none _)
      obtain ⟨front, rfl, hbytes, -⟩ := Lexer.cut?_eq_some_iff.mp hcut
      obtain ⟨first, hfirst⟩ := exists_textOf?_of_cut? hcut
      rw [pieces_of_cut? hbegins hcut, List.filterMap_cons_some hfirst, List.cons.injEq]
      rintro ⟨rfl, -⟩
      exact textOf?_ne_of_feed hbytes hfirst

/-- A statement of a script, split again, is the one statement that it was, unless a comment that it
begins with ends inside of it.  That needs white space other than ASCII in front of the statement,
behind which the comment was no beginning. -/
theorem statements_again (htext : text ∈ statements dialect bytes) :
    (statements dialect (utf8Bytes text) = [text] ↔
        ¬Lexer.BreaksOff dialect (utf8Bytes text)) ∧
      (Splitter.shapeOf dialect (utf8Bytes text) = .code →
        statements dialect (utf8Bytes text) = [text]) ∧
      ∀ piece ∈ pieces dialect bytes, Splitter.textOf? piece = some text →
        (∀ c, (utf8Decode piece).head? = some c → Text.isSpace c = false) →
          statements dialect (utf8Bytes text) = [text] := by
  rw [statements, Splitter.drain_eq_pieces] at htext
  obtain ⟨piece, hpiece, hfound⟩ := List.mem_filterMap.mp htext
  obtain ⟨-, -, -, -, -, hne, htrimmed⟩ := Splitter.exists_of_textOf? hfound
  have hagain : statements dialect (utf8Bytes text) = [text] ↔
      ¬Lexer.BreaksOff dialect (utf8Bytes text) := by
    obtain ⟨blank, behind, -, hblank, -, hgoes⟩ := exists_blank_of_textOf? hpiece hfound
    have hin : Lexer.Outside
        ((Lexer.start dialect piece).run dialect (utf8Encode blank)) :=
      Lexer.Outside.run ⟨rfl, by simp [Lexer.start]⟩
        fun byte hbyte => Lexer.le_or_high_of_blank hblank hbyte
    have hstart : Lexer.Outside (Lexer.start dialect (utf8Bytes text)) :=
      ⟨rfl, by simp [Lexer.start]⟩
    -- the white space in front of the text leaves a lexer where none leaves it: outside
    rw [statements_utf8Bytes_iff hne htrimmed, (hin.near hstart).goesThrough_iff hgoes]
    simp [Lexer.BreaksOff]
  refine ⟨hagain, ?_, ?_⟩
  · intro hcode
    exact hagain.mpr (Lexer.not_breaksOff_of_code hcode)
  · intro other hother hfound' hbegins
    exact (statements_utf8Bytes_iff hne htrimmed).mpr
      (goesThrough_of_textOf? hother hfound' hbegins)

theorem statements_behind_tab
    (hne : text ≠ "") (htrimmed : Text.Trimmed text.toList)
    (hbegins : bytes.dropWhile Text.isAsciiSpace = bytes)
    (hcut : (Lexer.start dialect bytes).cut? dialect bytes =
      some (utf8Encode ('\x0b' :: (text.toList ++ ['\n'])), [])) :
    statements dialect bytes = [text] := by
  have hfront : Text.Blank ['\x0b'] := by simp [Text.Blank, Text.isSpace]
  have hbehind : Text.Blank ['\n'] := by simp [Text.Blank, Text.isSpace]
  rw [statements, Splitter.drain_eq_pieces, pieces_of_cut? hbegins hcut, pieces_nil]
  exact List.filterMap_cons_some (textOf?_around hne htrimmed hfront hbehind)

theorem statements_again_behind_tab :
    "SELECT ';\n';" ∈ statements .mysql (utf8Bytes "\x0bSELECT ';\n';\n") ∧
      statements .mysql (utf8Bytes "SELECT ';\n';") = ["SELECT ';\n';"] := by
  have hsplit : statements .mysql (utf8Bytes "\x0bSELECT ';\n';\n") = ["SELECT ';\n';"] :=
    statements_behind_tab (by decide) (by simp [Text.Trimmed, Text.isSpace]) rfl rfl
  have htext : "SELECT ';\n';" ∈ statements .mysql (utf8Bytes "\x0bSELECT ';\n';\n") := by
    rw [hsplit]
    exact List.mem_singleton_self _
  exact ⟨htext, (statements_again htext).2.1 rfl⟩

/-- A comment behind a vertical tab is no beginning, and without the tab it is a statement. -/
theorem exists_statement_broken_again :
    statements .mysql (utf8Bytes "\x0b-- a\nb;\n") = ["-- a\nb;"] ∧
      statements .mysql (utf8Bytes "-- a\nb;") = ["-- a", "b;"] := by
  constructor
  · exact statements_behind_tab (by decide) (by simp [Text.Trimmed, Text.isSpace]) rfl rfl
  · have hcut : (Lexer.start .mysql (utf8Bytes "-- a\nb;")).cut? .mysql (utf8Bytes "-- a\nb;") =
        some (utf8Bytes "-- a" ++ [0x0A], utf8Bytes "b;") := rfl
    have hcomment : Text.Trimmed "-- a".toList := by simp [Text.Trimmed, Text.isSpace]
    have hcode : Text.Trimmed "b;".toList := by simp [Text.Trimmed, Text.isSpace]
    rw [statements, Splitter.drain_eq_pieces, pieces_of_cut? rfl hcut,
      pieces_of_whole rfl (utf8Bytes_ne_nil (by decide)) rfl,
      List.filterMap_cons_some (textOf?_line (by decide) hcomment),
      List.filterMap_cons_some (textOf?_utf8Bytes (by decide) hcode), List.filterMap_nil]

end SqlPipe.Script
