import SqlPipe.Proofs.Script.Delimiters
import SqlPipe.Proofs.Script.Lossless

/-!
# Delimited names in scripts

A name between delimiters may hold anything: quotes, semicolons, comments, line feeds.  What a
splitter makes of it shows in a script of two statements: the first one, which holds the name, must
end where it is written to end.
-/

namespace SqlPipe.Script

/-! ## Statements with names -/

def selecting (table : String) : String := "SELECT 1 FROM " ++ table ++ ";"

/-- A script that selects from a table, and then selects again, is split into two statements, of
which the first is the one that names the table. -/
def Separates (dialect : Dialect) (table : String) : Prop :=
  ∃ second, statements dialect (Text.utf8Bytes ("SELECT 1 FROM " ++ table ++ ";\nSELECT 2;\n")) =
    [selecting table, second]

section Cuts

variable {dialect : Dialect} {bytes piece rest : List UInt8}

theorem pieces_nil (dialect : Dialect) : pieces dialect [] = [] := by
  rw [pieces]
  rfl

theorem pieces_of_cut?
    (hbegins : bytes.dropWhile Text.isAsciiSpace = bytes)
    (hcut : (Lexer.start dialect bytes).cut? dialect bytes = some (piece, rest)) :
    pieces dialect bytes = piece :: pieces dialect rest := by
  rw [pieces]
  split
  next hnil =>
    rw [hbegins] at hnil
    subst hnil
    cases hcut
  next hbegun =>
    split
    next heq =>
      rw [hbegins, hcut] at heq
      cases heq
      rfl
    next heq =>
      rw [hbegins, hcut] at heq
      cases heq

theorem pieces_of_whole
    (hbegins : bytes.dropWhile Text.isAsciiSpace = bytes) (hne : bytes ≠ [])
    (hcut : (Lexer.start dialect bytes).cut? dialect bytes = none) :
    pieces dialect bytes = [bytes] := by
  rw [pieces]
  split
  next hnil => exact absurd (hbegins.symm.trans hnil) hne
  next hbegun =>
    split
    next heq =>
      rw [hbegins, hcut] at heq
      cases heq
    next heq => rw [hbegins]

theorem pieces_of_uncut
    (hbegins : bytes.dropWhile Text.isAsciiSpace = bytes)
    (hcut : (Lexer.start dialect bytes).cut? dialect bytes = none) :
    (pieces dialect bytes).length ≤ 1 := by
  cases bytes with
  | nil => simp [pieces_nil]
  | cons byte bytes => simp [pieces_of_whole hbegins (List.cons_ne_nil byte bytes) hcut]

theorem exists_textOf?_of_cut?
    (hcut : (Lexer.start dialect bytes).cut? dialect bytes = some (piece, rest)) :
    ∃ text, Splitter.textOf? piece = some text := by
  rw [← Option.ne_none_iff_exists']
  intro hnone
  exact Lexer.not_blank_of_cut? hcut (Splitter.textOf?_eq_none_iff.mp hnone)

theorem textOf?_around
    {text : String} {front behind : List Char} (hne : text ≠ "") (htrimmed : Text.Trimmed text.toList)
    (hfront : Text.Blank front) (hbehind : Text.Blank behind) :
    Splitter.textOf? (Text.utf8Encode (front ++ (text.toList ++ behind))) = some text := by
  unfold Splitter.textOf?
  rw [Text.utf8Decode_utf8Encode, htrimmed.trim_around hfront hbehind]
  split
  next hnil => exact absurd (by simpa using hnil) hne
  next => rw [String.ofList_toList]

theorem textOf?_line {text : String} (hne : text ≠ "") (htrimmed : Text.Trimmed text.toList) :
    Splitter.textOf? (Text.utf8Bytes text ++ [0x0A]) = some text := by
  have hnone : Text.Blank [] := List.forall_mem_nil _
  have hfeed : Text.Blank ['\n'] := by simp [Text.Blank, Text.isSpace]
  have haround := textOf?_around hne htrimmed hnone hfeed
  rwa [List.nil_append, Text.utf8Encode_append] at haround

theorem eq_nil_of_feed {line front behind : List UInt8} (hline : 0x0A ∉ line)
    (heq : line ++ [0x0A] = front ++ 0x0A :: behind) : behind = [] := by
  rcases List.eq_nil_or_concat behind with rfl | ⟨others, last, rfl⟩
  · rfl
  · rw [List.concat_eq_append, ← List.cons_append, ← List.append_assoc] at heq
    rw [(List.append_inj' heq rfl).1] at hline
    exact absurd (by simp) hline

/-- A statement that is cut off at a line feed inside of its text is shorter than the text. -/
theorem textOf?_ne_of_feed {text : String} {front behind : List UInt8}
    (htext : Text.utf8Bytes text = front ++ 0x0A :: behind) :
    Splitter.textOf? (front ++ [0x0A]) ≠ some text := by
  intro hfound
  have hdecoded : text.toList = Text.utf8Decode front ++ '\n' :: Text.utf8Decode behind := by
    rw [← Text.utf8Decode_utf8Encode text.toList, ← Text.utf8Bytes, htext,
      Text.utf8Decode_append_ascii (by decide)]
    rfl
  have hline : Text.utf8Decode (front ++ [0x0A]) = Text.utf8Decode front ++ ['\n'] := by
    rw [Text.utf8Decode_append_ascii (by decide), Text.utf8Decode_nil]
    rfl
  obtain ⟨before, after, hcut, -, -, hne, htrimmed⟩ := Splitter.exists_of_textOf? hfound
  rw [hline] at hcut
  have hfeed : '\n' ∈ after := Splitter.feed_mem_of_trimmed hcut (by simpa using hne) htrimmed
  have hafter := List.length_pos_of_mem hfeed
  have hlength := congrArg List.length hcut
  have hwhole := congrArg List.length hdecoded
  simp only [List.length_append, List.length_cons, List.length_nil] at hlength hwhole
  omega

/-- A first statement that is the whole first line, with another one behind it, ends with that
line. -/
theorem front_eq_of_textOf?
    {text : String} {line front : List UInt8} (hline : 0x0A ∉ line)
    (htext : Text.utf8Bytes text ++ 0x0A :: (line ++ [0x0A]) = front ++ 0x0A :: rest)
    (hfirst : Splitter.textOf? (front ++ [0x0A]) = some text) (hmore : rest ≠ []) :
    front = Text.utf8Bytes text := by
  rcases List.append_eq_append_iff.mp htext with ⟨between, hfront, hbehind⟩ |
    ⟨between, hfront, hbehind⟩
  · cases between with
    | nil => rw [hfront, List.append_nil]
    | cons feed between =>
        obtain ⟨rfl, hlast⟩ := List.cons.inj hbehind
        exact absurd (eq_nil_of_feed hline hlast) hmore
  · cases between with
    | nil => rw [hfront, List.append_nil]
    | cons feed between =>
        obtain ⟨rfl, -⟩ := List.cons.inj hbehind
        exact absurd hfirst (textOf?_ne_of_feed hfront)

end Cuts

variable {dialect : Dialect} {table : String}

theorem utf8Bytes_selecting (table : String) :
    Text.utf8Bytes (selecting table) =
      Text.utf8Bytes "SELECT 1 FROM " ++ (Text.utf8Bytes table ++ [0x3B]) := by
  rw [selecting, Text.utf8Bytes_append, Text.utf8Bytes_append, List.append_assoc]
  rfl

theorem utf8Bytes_script (table : String) :
    Text.utf8Bytes ("SELECT 1 FROM " ++ table ++ ";\nSELECT 2;\n") =
      Text.utf8Bytes (selecting table) ++ 0x0A :: Text.utf8Bytes "SELECT 2;\n" := by
  have hbehind : ";\nSELECT 2;\n" = ";" ++ ("\n" ++ "SELECT 2;\n") := rfl
  rw [hbehind, ← String.append_assoc, ← selecting, Text.utf8Bytes_append,
    Text.utf8Bytes_append "\n"]
  rfl

theorem trimmed_selecting (table : String) : Text.Trimmed (selecting table).toList := by
  have hends : (selecting table).toList.getLast? = some ';' := by
    rw [selecting, String.toList_append]
    exact List.getLast?_concat
  constructor
  · intro c hc
    obtain rfl : 'S' = c := by simpa [selecting] using hc
    rfl
  · intro c hc
    obtain rfl : ';' = c := Option.some.inj (hends.symm.trans hc)
    rfl

theorem begins_selecting (dialect : Dialect) (table : String) (behind : List UInt8) :
    (Text.utf8Bytes (selecting table) ++ behind).dropWhile Text.isAsciiSpace =
        Text.utf8Bytes (selecting table) ++ behind ∧
      Lexer.start dialect (Text.utf8Bytes (selecting table) ++ behind) =
        Lexer.start dialect (Text.utf8Bytes (selecting table)) := by
  have hbegins : ∃ more, Text.utf8Bytes (selecting table) = 0x53 :: more :=
    ⟨_, utf8Bytes_selecting table⟩
  obtain ⟨more, hmore⟩ := hbegins
  rw [hmore]
  constructor
  · rfl
  · simp [Lexer.start, List.isPrefixOf]

theorem pieces_again (dialect : Dialect) :
    (pieces dialect (Text.utf8Bytes "SELECT 2;\n")).filterMap Splitter.textOf? =
      ["SELECT 2;"] := by
  have hcut : (Lexer.start dialect (Text.utf8Bytes "SELECT 2;\n")).cut? dialect
      (Text.utf8Bytes "SELECT 2;\n") = some (Text.utf8Bytes "SELECT 2;" ++ [0x0A], []) := by
    cases dialect <;> rfl
  have htrimmed : Text.Trimmed "SELECT 2;".toList := by
    simp [Text.Trimmed, Text.isSpace]
  have hline : Splitter.textOf? (Text.utf8Bytes "SELECT 2;" ++ [0x0A]) = some "SELECT 2;" :=
    textOf?_line (by decide) htrimmed
  rw [pieces_of_cut? rfl hcut, pieces_nil, List.filterMap_cons_some hline, List.filterMap_nil]

theorem separates_of_endsBehind
    (hends : Lexer.endsBehind dialect (Text.utf8Bytes (selecting table)) = true) :
    Separates dialect table := by
  obtain ⟨hbegins, hstart⟩ :=
    begins_selecting dialect table (0x0A :: Text.utf8Bytes "SELECT 2;\n")
  have hcut : (Lexer.start dialect (Text.utf8Bytes (selecting table))).cut? dialect
      (Text.utf8Bytes (selecting table) ++ 0x0A :: Text.utf8Bytes "SELECT 2;\n") =
        some (Text.utf8Bytes (selecting table) ++ [0x0A], Text.utf8Bytes "SELECT 2;\n") :=
    Lexer.cut?_append_feed_iff.mpr (Bool.and_eq_true_iff.mp hends)
  have hline : Splitter.textOf? (Text.utf8Bytes (selecting table) ++ [0x0A]) =
      some (selecting table) :=
    textOf?_line (by simp [selecting]) (trimmed_selecting table)
  rw [← hstart] at hcut
  refine ⟨"SELECT 2;", ?_⟩
  rw [utf8Bytes_script, (statements_eq_pieces dialect _).1, pieces_of_cut? hbegins hcut,
    List.filterMap_cons_some hline, pieces_again]

theorem endsBehind_of_separates (hseparates : Separates dialect table) :
    Lexer.endsBehind dialect (Text.utf8Bytes (selecting table)) = true := by
  obtain ⟨second, hsplit⟩ := hseparates
  obtain ⟨hbegins, hstart⟩ :=
    begins_selecting dialect table (0x0A :: Text.utf8Bytes "SELECT 2;\n")
  rw [utf8Bytes_script, (statements_eq_pieces dialect _).1] at hsplit
  cases hcut : (Lexer.start dialect (Text.utf8Bytes (selecting table) ++
      0x0A :: Text.utf8Bytes "SELECT 2;\n")).cut? dialect
        (Text.utf8Bytes (selecting table) ++ 0x0A :: Text.utf8Bytes "SELECT 2;\n") with
  | none =>
      have hfew := pieces_of_uncut hbegins hcut
      have hle := List.length_filterMap_le Splitter.textOf? (pieces dialect
        (Text.utf8Bytes (selecting table) ++ 0x0A :: Text.utf8Bytes "SELECT 2;\n"))
      rw [hsplit, List.length_cons, List.length_singleton] at hle
      omega
  | some cut =>
      obtain ⟨piece, rest⟩ := cut
      rw [pieces_of_cut? hbegins hcut] at hsplit
      obtain ⟨first, hfirst⟩ := exists_textOf?_of_cut? hcut
      rw [List.filterMap_cons_some hfirst, List.cons.injEq] at hsplit
      obtain ⟨rfl, hrest⟩ := hsplit
      obtain ⟨front, rfl, htext, hends, hgoes⟩ := Lexer.cut?_eq_some_iff.mp hcut
      have hmore : rest ≠ [] := by
        rintro rfl
        rw [pieces_nil] at hrest
        cases hrest
      have hlast : 0x0A ∉ Text.utf8Bytes "SELECT 2;" := by decide
      obtain rfl : front = Text.utf8Bytes (selecting table) :=
        front_eq_of_textOf? hlast htext hfirst hmore
      rw [hstart] at hends hgoes
      rw [Lexer.endsBehind, hends, Lexer.goesThrough_iff.mpr hgoes]
      rfl

namespace Lexer

variable {dialect : Dialect} {lexer : Lexer} {quote : UInt8} {bytes : List UInt8}

theorem run_lead (dialect : Dialect) (behind : List UInt8) :
    (start dialect (Text.utf8Bytes "SELECT 1 FROM " ++ behind)).run dialect
        (Text.utf8Bytes "SELECT 1 FROM ") = ⟨false, false, .plain, some 0x4D⟩ ∧
      goesThrough dialect (start dialect (Text.utf8Bytes "SELECT 1 FROM " ++ behind))
        (Text.utf8Bytes "SELECT 1 FROM ") = true := by
  cases dialect <;> exact ⟨rfl, rfl⟩

theorem endsBehind_lead
    (hgoes : goesThrough dialect ⟨false, false, .plain, some 0x4D⟩ bytes = true)
    (hends : (run dialect ⟨false, false, .plain, some 0x4D⟩ bytes).endsHere dialect = true) :
    endsBehind dialect (Text.utf8Bytes "SELECT 1 FROM " ++ bytes) = true := by
  obtain ⟨hrun, hlead⟩ := run_lead dialect bytes
  rw [endsBehind, goesThrough_append, hlead, run_append, hrun, hgoes, hends]
  rfl

/-- A semicolon outside of everything is the end at the next line feed. -/
theorem endsHere_of_plain
    (hmode : lexer.reading.1 = .plain) : (lexer.step dialect 0x3B).endsHere dialect = true := by
  obtain ⟨comment, bare, mode, last⟩ := lexer
  obtain rfl : mode = .plain := hmode
  simp [step, endsHere, Reading.next, Reading.plainNext, isQuote, Text.isAsciiSpace]

theorem endsHere_of_unquoted
    (hquote : isQuote quote = true) (hmode : lexer.reading.1 = .unquoted quote) :
    (lexer.step dialect 0x3B).endsHere dialect = true := by
  have hne : 0x3B ≠ quote := by
    rintro rfl
    cases hquote
  obtain ⟨comment, bare, mode, last⟩ := lexer
  obtain rfl : mode = .unquoted quote := hmode
  simp [step, endsHere, Reading.next, Reading.plainNext, isQuote, Text.isAsciiSpace, hne]

theorem endsBehind_quoted
    (hquote : isQuote quote = true) (hspares : sparesDelimiter dialect quote bytes = true) :
    endsBehind dialect (Text.utf8Bytes "SELECT 1 FROM " ++
      (quote :: (doubled quote bytes ++ [quote]) ++ [0x3B])) = true := by
  have hfeed : quote ≠ 0x0A := by
    rintro rfl
    cases hquote
  have hin : InQuote quote (step dialect ⟨false, false, .plain, some 0x4D⟩ quote) := by
    constructor
    · rw [step_comment]
    · rw [step_mode, Reading.plain_next_quote hquote]
  obtain ⟨hgoes, hbehind⟩ := hin.run_doubled hquote hspares
  apply endsBehind_lead
  · rw [List.cons_append, goesThrough_of_ne hfeed, List.append_assoc, goesThrough_append, hgoes,
      List.singleton_append, goesThrough_of_ne hfeed]
    rfl
  · rw [List.cons_append, run_cons, List.append_assoc, run_append]
    exact endsHere_of_unquoted hquote (hbehind.unquote hquote)

theorem endsBehind_bracketed
    (hhash : dialect.hashComments = false) (hdollar : dialect.dollarQuoting = false)
    (hopens : opensNothing 0x5B bytes = true) :
    endsBehind dialect (Text.utf8Bytes "SELECT 1 FROM " ++
      (0x5B :: (doubled 0x5D bytes ++ [0x5D]) ++ [0x3B])) = true := by
  have hstart : InCode 0x20 ⟨false, false, .plain, some 0x4D⟩ :=
    ⟨rfl, by exact True.intro, by decide, rfl, .inl rfl⟩
  have hname : opensNothing 0x20 (0x5B :: (doubled 0x5D bytes ++ [0x5D])) = true :=
    opensNothing_bracketed hopens
  obtain ⟨hgoes, hbehind⟩ := hstart.run hhash hdollar hname
  have hplain := hbehind.mode
  simp only [List.getLastD_cons, List.getLastD_concat] at hplain
  apply endsBehind_lead
  · rw [goesThrough_append, hgoes]
    rfl
  · rw [run_append]
    exact endsHere_of_plain (by simpa using hplain)

end Lexer

/-! ## What a splitter makes of names -/

section Names

variable {dialect : Dialect} {opening closing : Char} {first last : UInt8} {name : String}

theorem utf8Bytes_selecting_delimited
    (hopening : String.utf8EncodeChar opening = [first])
    (hclosing : String.utf8EncodeChar closing = [last]) (hascii : last < 0x80) (name : String) :
    Text.utf8Bytes (selecting (Sql.delimited opening closing name)) =
      Text.utf8Bytes "SELECT 1 FROM " ++
        (first :: (doubled last (Text.utf8Bytes name) ++ [last]) ++ [0x3B]) := by
  rw [utf8Bytes_selecting, utf8Bytes_delimited hopening hclosing hascii]

theorem separates_quoted
    (hopening : String.utf8EncodeChar opening = [first]) (hquote : isQuote first = true)
    (hspares : sparesDelimiter dialect first (Text.utf8Bytes name) = true) :
    Separates dialect (Sql.delimited opening opening name) := by
  have hascii : first < 0x80 := by
    simp only [isQuote, Bool.or_eq_true, beq_iff_eq] at hquote
    rcases hquote with (rfl | rfl) | rfl <;> decide
  apply separates_of_endsBehind
  rw [utf8Bytes_selecting_delimited hopening hopening hascii]
  exact Lexer.endsBehind_quoted hquote hspares

/-- Names between delimiters in scripts.  A splitter for SQLite understands every name.  One for
MySQL understands the names in which no backslash that escapes stands in front of a backtick or at
the end.  One for SQL Server knows no brackets: it understands exactly the names that, read as code
with their brackets, leave the statement to end at its own line feed, and among them those without
quotes and semicolons that begin no comment. -/
theorem separates_delimited_names
    (hquoting : dialect.quoting = .always opening closing) (name : String) :
    let table := Sql.delimited opening closing name
    let bytes := Text.utf8Bytes name
    (dialect = .sqlite → Separates dialect table) ∧
      (dialect = .mysql → sparesDelimiter dialect 0x60 bytes = true → Separates dialect table) ∧
      (dialect = .sqlServer →
        (Separates dialect table ↔
          Lexer.endsBehind dialect (Text.utf8Bytes (selecting table)) = true)) ∧
      (dialect = .sqlServer → opensNothing 0x5B bytes = true → Separates dialect table) := by
  intro table bytes
  refine ⟨?_, ?_, ?_, ?_⟩
  · rintro rfl
    cases hquoting
    have hopening : String.utf8EncodeChar '\x22' = [0x22] := by decide
    exact separates_quoted hopening rfl (sparesDelimiter_of_not_backslashEscapes rfl 0x22 bytes)
  · rintro rfl hspares
    cases hquoting
    have hopening : String.utf8EncodeChar '\x60' = [0x60] := by decide
    exact separates_quoted hopening rfl hspares
  · rintro -
    exact ⟨endsBehind_of_separates, separates_of_endsBehind⟩
  · rintro rfl hopens
    cases hquoting
    have hopening : String.utf8EncodeChar '[' = [0x5B] := by decide
    have hclosing : String.utf8EncodeChar ']' = [0x5D] := by decide
    apply separates_of_endsBehind
    rw [utf8Bytes_selecting_delimited hopening hclosing (by decide)]
    exact Lexer.endsBehind_bracketed rfl rfl hopens

theorem separates_delimited_names_of_odd_names :
    Separates .sqlite (Sql.delimited '\x22' '\x22' "a\";\n--\\") ∧
      Separates .mysql (Sql.delimited '\x60' '\x60' "it's;\n\\\\") ∧
      Separates .sqlServer (Sql.delimited '[' ']' "order-items]\n") := by
  have hspares : sparesDelimiter .mysql 0x60 (Text.utf8Bytes "it's;\n\\\\") = true := by
    decide +kernel
  have hopens : opensNothing 0x5B (Text.utf8Bytes "order-items]\n") = true := by
    decide +kernel
  obtain ⟨hsqlite, -⟩ := @separates_delimited_names .sqlite _ _ rfl "a\";\n--\\"
  obtain ⟨-, hmysql, -⟩ := @separates_delimited_names .mysql _ _ rfl "it's;\n\\\\"
  obtain ⟨-, -, -, hserver⟩ := @separates_delimited_names .sqlServer _ _ rfl "order-items]\n"
  exact ⟨hsqlite rfl, hmysql rfl hspares, hserver rfl hopens⟩

/-- Not every name is understood: a quote in brackets begins a text, and a backslash takes away the
delimiter behind it. -/
theorem exists_delimited_name_not_separated :
    Dialect.sqlServer.quoting = .always '[' ']' ∧
      ¬Separates .sqlServer (Sql.delimited '[' ']' "it's") ∧
      Dialect.mysql.quoting = .always '\x60' '\x60' ∧
      ¬Separates .mysql (Sql.delimited '\x60' '\x60' "a\\") := by
  refine ⟨rfl, ?_, rfl, ?_⟩
  · intro hseparates
    have hends := endsBehind_of_separates hseparates
    revert hends
    decide
  · intro hseparates
    have hends := endsBehind_of_separates hseparates
    revert hends
    decide

end Names

end SqlPipe.Script
