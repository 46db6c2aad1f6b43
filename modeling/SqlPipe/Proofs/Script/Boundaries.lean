import SqlPipe.Proofs.Script.Lines
import SqlPipe.Proofs.Script.OnePass
import SqlPipe.Proofs.Text.Decoding

/-!
# Where statements end

The boundaries of statements as one lexer over the whole script finds them.  A statement that is a
line comment ends at the first line feed.  Any other ends at the first line feed outside quoted
texts, block comments and dollar bodies in front of which `;` is the last significant byte of its
line, or which follows nothing but comments and white space, if the statement began with a block
comment.  A splitter, which works line by line, cuts at the same places.
-/

namespace SqlPipe.Script

/-- A lexer inside of a statement. -/
structure Lexer where
  /-- The statement is a line comment. -/
  comment : Bool
  /-- The statement began with a block comment, and the lines before held nothing but comments and
  white space. -/
  bare : Bool
  reading : Reading
  deriving DecidableEq, Repr

namespace Lexer

/-- The lexer is in a quoted text, a block comment or a dollar body of a statement. -/
def isInside (lexer : Lexer) : Bool :=
  !lexer.comment &&
    match lexer.reading.1 with
    | .quoted _ | .escaped _ | .blockComment | .star | .body _ | .closing _ _ => true
    | _ => false

variable (dialect : Dialect)

def start (text : List UInt8) : Lexer where
  comment := [0x2D, 0x2D].isPrefixOf text || dialect.hashComments && [0x23].isPrefixOf text
  bare := [0x2F, 0x2A].isPrefixOf text
  reading := (.plain, none)

def endsHere (lexer : Lexer) : Bool :=
  let (mode, last) := lexer.reading.next dialect 0x0A
  lexer.comment || mode == .plain && (last == some 0x3B || lexer.bare && last == none)

def step (lexer : Lexer) (byte : UInt8) : Lexer :=
  let (mode, last) := lexer.reading.next dialect byte
  if byte == 0x0A then { lexer with bare := lexer.bare && last == none, reading := (mode, none) }
  else { lexer with reading := (mode, last) }

def run (lexer : Lexer) (bytes : List UInt8) : Lexer :=
  bytes.foldl (step dialect) lexer

/-- The bytes up to the line feed that ends the statement, with it, and those behind it. -/
def cut? (lexer : Lexer) : List UInt8 → Option (List UInt8 × List UInt8)
  | [] => none
  | byte :: rest =>
      if byte == 0x0A && lexer.endsHere dialect then some ([byte], rest)
      else (cut? (lexer.step dialect byte) rest).map fun (piece, behind) => (byte :: piece, behind)

variable {dialect} {lexer : Lexer} {line text piece rest : List UInt8}

/-- A statement ends at the first line feed at which the lexer says so. -/
theorem cut?_eq_some_iff :
    cut? dialect lexer text = some (piece, rest) ↔
      ∃ front, piece = front ++ [0x0A] ∧ text = front ++ 0x0A :: rest ∧
        (lexer.run dialect front).endsHere dialect = true ∧
        ∀ earlier behind, front = earlier ++ 0x0A :: behind →
          (lexer.run dialect earlier).endsHere dialect = false := by
  induction text generalizing lexer piece with
  | nil => simp [cut?]
  | cons byte text ih =>
      rw [cut?]
      split
      -- the feed that ends the statement comes at once
      next hhere =>
        simp only [Bool.and_eq_true, beq_iff_eq] at hhere
        obtain ⟨rfl, hends⟩ := hhere
        constructor
        · intro hcut
          cases hcut
          exact ⟨[], rfl, rfl, hends, by simp⟩
        · rintro ⟨front, rfl, htext, -, hfirst⟩
          cases front with
          | nil =>
              cases htext
              rfl
          | cons byte front =>
              obtain ⟨rfl, -⟩ := List.cons.inj htext
              have hopen := hfirst [] front rfl
              rw [run, List.foldl_nil, hends] at hopen
              cases hopen
      -- it stands behind this byte, so the byte joins those in front of it
      next hhere =>
        rw [Option.map_eq_some_iff]
        constructor
        · rintro ⟨⟨taken, behind⟩, hcut, heq⟩
          cases heq
          obtain ⟨front, rfl, rfl, hends, hfirst⟩ := ih.mp hcut
          refine ⟨byte :: front, rfl, rfl, hends, ?_⟩
          intro earlier behind hfront
          cases earlier with
          | nil =>
              obtain ⟨rfl, -⟩ := List.cons.inj hfront
              simpa [run] using hhere
          | cons first earlier =>
              obtain ⟨rfl, htail⟩ := List.cons.inj hfront
              exact hfirst earlier behind htail
        · rintro ⟨front, rfl, htext, hends, hfirst⟩
          cases front with
          | nil =>
              obtain ⟨rfl, -⟩ := List.cons.inj htext
              exact absurd (by simpa [run] using hends) hhere
          | cons first front =>
              obtain ⟨rfl, htail⟩ := List.cons.inj htext
              refine ⟨(front ++ [0x0A], rest), ih.mpr ⟨front, rfl, htail, hends, ?_⟩, rfl⟩
              intro earlier behind hfront
              exact hfirst (byte :: earlier) behind (by rw [hfront, List.cons_append])

theorem length_cut? (hcut : cut? dialect lexer text = some (piece, rest)) :
    rest.length < text.length := by
  obtain ⟨front, -, rfl, -⟩ := cut?_eq_some_iff.mp hcut
  simp only [List.length_append, List.length_cons]
  omega

end Lexer

/-- The script cut into the texts of its statements.  A statement begins behind white space and
takes its line feed with it. -/
def pieces (dialect : Dialect) (bytes : List UInt8) : List (List UInt8) :=
  match _htext : bytes.dropWhile Text.isAsciiSpace with
  | [] => []
  | text =>
      match _hcut : (Lexer.start dialect text).cut? dialect text with
      | some (piece, rest) => piece :: pieces dialect rest
      | none => [text]
termination_by bytes.length
decreasing_by
  have hlen := Lexer.length_cut? _hcut
  have hle := (List.dropWhile_sublist (l := bytes) Text.isAsciiSpace).length_le
  rw [_htext] at hle
  omega

namespace Lexer

variable {dialect : Dialect} {lexer : Lexer} {line text piece rest : List UInt8}

/-! ## What is in a statement -/

theorem step_comment (lexer : Lexer) (byte : UInt8) :
    (lexer.step dialect byte).comment = lexer.comment := by
  simp only [step]
  split <;> rfl

theorem bare_of_step {byte : UInt8} (hbare : (lexer.step dialect byte).bare = true) :
    lexer.bare = true := by
  simp only [step] at hbare
  split at hbare
  next => exact (Bool.and_eq_true_iff.mp hbare).1
  next => exact hbare

theorem step_unmarked
    (dialect : Dialect) {byte : UInt8} (hproper : lexer.reading.Proper)
    (hlast : lexer.reading.2 ≠ some 0x3B) (hbyte : byte ≠ 0x3B) :
    (lexer.step dialect byte).reading.Proper ∧
      (lexer.step dialect byte).reading.2 ≠ some 0x3B := by
  have hnext := hproper.next dialect byte
  simp only [step]
  split
  next => exact ⟨hnext, by simp⟩
  next => exact ⟨hnext, hproper.next_ne_semicolon hlast dialect hbyte⟩

theorem mem_of_run_endsHere
    (hproper : lexer.reading.Proper) (hlast : lexer.reading.2 ≠ some 0x3B)
    (hends : (lexer.run dialect text).endsHere dialect = true) :
    lexer.comment = true ∨ lexer.bare = true ∨ 0x3B ∈ text := by
  induction text generalizing lexer with
  | nil =>
      have hfeed := hproper.next_ne_semicolon hlast dialect (show (0x0A : UInt8) ≠ 0x3B by decide)
      simp only [run, List.foldl_nil, endsHere, Bool.or_eq_true, Bool.and_eq_true, beq_iff_eq]
        at hends
      rcases hends with hcomment | ⟨-, hsemicolon | ⟨hbare, -⟩⟩
      · exact .inl hcomment
      · exact absurd hsemicolon hfeed
      · exact .inr (.inl hbare)
  | cons byte text ih =>
      by_cases hbyte : byte = 0x3B
      · exact .inr (.inr (by simp [hbyte]))
      have hunmarked := step_unmarked dialect hproper hlast hbyte
      rcases ih hunmarked.1 hunmarked.2 hends with hcomment | hbare | hmem
      · exact .inl ((step_comment lexer byte).symm.trans hcomment)
      · exact .inr (.inl (bare_of_step hbare))
      · exact .inr (.inr (List.mem_cons_of_mem byte hmem))

theorem next_feed_ne_plain (hinside : lexer.isInside = true) :
    (lexer.reading.next dialect 0x0A).1 ≠ .plain := by
  obtain ⟨comment, bare, mode, last⟩ := lexer
  cases mode with
  | quoted | closing =>
      simp only [Reading.next]
      split_ifs <;> simp_all
  | escaped | blockComment | star | body => simp [Reading.next]
  | _ => simp [isInside] at hinside

theorem isInside_of_endsHere (hends : lexer.endsHere dialect = true) :
    lexer.isInside = false := by
  cases hinside : lexer.isInside with
  | false => rfl
  | true =>
      have hcomment : lexer.comment = false := by
        simpa using (Bool.and_eq_true_iff.mp hinside).1
      simp [endsHere, hcomment, next_feed_ne_plain hinside] at hends

theorem start_append_feed (dialect : Dialect) (front rest : List UInt8) :
    start dialect (front ++ 0x0A :: rest) = start dialect (front ++ [0x0A]) := by
  rcases front with _ | ⟨first, _ | ⟨second, front⟩⟩ <;> simp [start, List.isPrefixOf]

theorem isInside_of_cut?
    (hcut : (start dialect text).cut? dialect text = some (piece, rest)) :
    ((start dialect piece).run dialect piece.dropLast).isInside = false := by
  obtain ⟨front, rfl, rfl, hends, -⟩ := cut?_eq_some_iff.mp hcut
  rw [start_append_feed] at hends
  rw [List.dropLast_concat]
  exact isInside_of_endsHere hends

theorem not_blank_of_cut?
    (hcut : (start dialect text).cut? dialect text = some (piece, rest)) :
    ¬ Text.Blank (Text.utf8Decode piece) := by
  obtain ⟨front, rfl, htext, hends, -⟩ := cut?_eq_some_iff.mp hcut
  have hbegins : ∀ begin, begin ≠ [] → begin.isPrefixOf text = true →
      ∃ byte ∈ front ++ [0x0A], begin.head? = some byte := by
    intro begin hne hstarts
    obtain ⟨first, others, rfl⟩ := List.exists_cons_of_ne_nil hne
    obtain ⟨behind, hbehind⟩ := List.isPrefixOf_iff_prefix.mp hstarts
    refine ⟨first, ?_, rfl⟩
    rw [htext] at hbehind
    cases front with
    | nil => simp [(List.cons.inj hbehind).1]
    | cons byte front => simp [(List.cons.inj hbehind).1]
  have hvisible : ∃ byte ∈ front ++ [0x0A],
      byte < 0x80 ∧ Text.isSpace (Text.charOfByte byte) = false := by
    rcases mem_of_run_endsHere (by exact True.intro) (by simp [start]) hends with
      hcomment | hbare | hsemicolon
    · simp only [start, Bool.or_eq_true, Bool.and_eq_true] at hcomment
      rcases hcomment with hdash | ⟨-, hhash⟩
      · obtain ⟨byte, hbyte, hfirst⟩ := hbegins _ (by simp) hdash
        cases hfirst
        exact ⟨_, hbyte, by decide, by decide⟩
      · obtain ⟨byte, hbyte, hfirst⟩ := hbegins _ (by simp) hhash
        cases hfirst
        exact ⟨_, hbyte, by decide, by decide⟩
    · obtain ⟨byte, hbyte, hfirst⟩ := hbegins _ (by simp) hbare
      cases hfirst
      exact ⟨_, hbyte, by decide, by decide⟩
    · exact ⟨0x3B, List.mem_append_left _ hsemicolon, by decide, by decide⟩
  obtain ⟨byte, hbyte, hascii, hspace⟩ := hvisible
  intro hblank
  rw [hblank _ (Text.charOfByte_mem_utf8Decode hascii hbyte)] at hspace
  cases hspace

/-! ## Lines -/

theorem run_line (dialect : Dialect) (hline : 0x0A ∉ line) (lexer : Lexer) :
    lexer.run dialect line = { lexer with reading := lexer.reading.read dialect line } := by
  induction line generalizing lexer with
  | nil => rfl
  | cons byte line ih =>
      rw [List.mem_cons, not_or] at hline
      have hbyte : byte ≠ 0x0A := fun heq => hline.1 heq.symm
      have hstep : lexer.step dialect byte =
          { lexer with reading := lexer.reading.next dialect byte } := by
        simp [step, hbyte]
      rw [run, List.foldl_cons, hstep]
      exact ih hline.2 _

theorem cut?_of_not_mem (hline : 0x0A ∉ line) : lexer.cut? dialect line = none := by
  rcases hcut : lexer.cut? dialect line with _ | ⟨piece, rest⟩
  · rfl
  · obtain ⟨front, -, rfl, -⟩ := cut?_eq_some_iff.mp hcut
    exact absurd (by simp) hline

theorem cut?_line_feed (hline : 0x0A ∉ line) (lexer : Lexer) (rest : List UInt8) :
    lexer.cut? dialect (line ++ 0x0A :: rest) =
      if (lexer.run dialect line).endsHere dialect then some (line ++ [0x0A], rest)
      else (((lexer.run dialect line).step dialect 0x0A).cut? dialect rest).map
        fun (piece, behind) => (line ++ 0x0A :: piece, behind) := by
  induction line generalizing lexer with
  | nil => by_cases hends : lexer.endsHere dialect = true <;> simp [cut?, run, hends]
  | cons byte line ih =>
      rw [List.mem_cons, not_or] at hline
      have hbyte : byte ≠ 0x0A := fun heq => hline.1 heq.symm
      rw [List.cons_append, cut?, if_neg (by simp [hbyte]), ih hline.2 (lexer.step dialect byte),
        run, run, List.foldl_cons]
      split
      next => rfl
      next =>
        rw [Option.map_map]
        rfl

def atLine (shape : Shape) (position : Lexeme) : Lexer where
  comment := shape = .lineComment
  bare := shape = .blockComment
  reading := (.ofLexeme position, none)

theorem start_eq_atLine (text : List UInt8) :
    start dialect text = atLine (Splitter.shapeOf dialect text) .plain := by
  unfold Splitter.shapeOf
  split
  next => simp [start, atLine, Mode.ofLexeme, List.isPrefixOf]
  next => simp [start, atLine, Mode.ofLexeme, List.isPrefixOf]
  next => cases hhash : dialect.hashComments <;>
    simp [start, atLine, Mode.ofLexeme, List.isPrefixOf, hhash]
  next hdash hslash hhash =>
    have hstarts : ∀ begin, (∀ rest, text ≠ begin ++ rest) → begin.isPrefixOf text = false := by
      intro begin hnone
      rw [Bool.eq_false_iff]
      intro hstarts
      obtain ⟨rest, rfl⟩ := List.isPrefixOf_iff_prefix.mp hstarts
      exact hnone rest rfl
    simp [start, atLine, Mode.ofLexeme, hstarts [0x2D, 0x2D] hdash, hstarts [0x2F, 0x2A] hslash,
      hstarts [0x23] hhash]

variable {shape shape' : Shape} {position position' : Lexeme} {ends : Bool}

theorem proper_atLine (hproper : position.Proper) (shape : Shape) :
    (atLine shape position).reading.Proper := by
  cases position with
  | quoted quote => exact hproper
  | _ => trivial

/-- The feed of a line tells a lexer what a scan of the line alone tells a splitter. -/
theorem atLine_next_feed
    (dialect : Dialect) (hproper : position.Proper) (hline : 0x0A ∉ line) (shape : Shape) :
    ((atLine shape position).run dialect line).reading.next dialect 0x0A =
      (.ofLexeme (scanLine dialect position none (Splitter.withoutReturn line)).1,
        (scanLine dialect position none (Splitter.withoutReturn line)).2) := by
  have hbare : 0x0A ∉ Splitter.withoutReturn line := by
    unfold Splitter.withoutReturn
    split
    next => exact fun hmem => hline (List.dropLast_subset line hmem)
    next => exact hline
  have hread := (proper_atLine hproper shape).read_withoutReturn dialect line
  rw [atLine, read_line_feed hproper none hbare, Reading.read_append] at hread
  rw [run_line dialect hline]
  exact hread.symm

theorem atLine_run
    (hproper : position.Proper) (hline : 0x0A ∉ line)
    (heq : Splitter.endsWithLine dialect shape position line = (shape', position', ends)) :
    ((atLine shape position).run dialect line).endsHere dialect = ends ∧
      (ends = false →
        ((atLine shape position).run dialect line).step dialect 0x0A =
          atLine shape' position') := by
  have hfeed := atLine_next_feed dialect hproper hline shape
  rcases hscan : scanLine dialect position none (Splitter.withoutReturn line) with ⟨behind, last⟩
  have hplain : (Mode.ofLexeme behind == .plain) = (behind == .plain) := by
    cases behind <;> rfl
  rw [hscan] at hfeed
  have hrun := run_line dialect hline (atLine shape position)
  simp only [endsHere, step, hfeed, hplain, beq_self_eq_true, if_true]
  rw [hrun]
  cases shape with
  | lineComment =>
      cases heq
      simp [atLine]
  | blockComment =>
      simp only [Splitter.endsWithLine, hscan] at heq
      cases last <;> cases heq <;> simp [atLine]
  | code =>
      simp only [Splitter.endsWithLine, hscan] at heq
      cases heq
      simp [atLine]

end Lexer

namespace Splitter

variable {splitter : Splitter} {dialect : Dialect} {shape : Shape} {text piece rest : List UInt8}

theorem proper_endsWithLine
    (dialect : Dialect) {position : Lexeme} (hproper : position.Proper)
    (shape : Shape) (line : List UInt8) :
    (endsWithLine dialect shape position line).2.1.Proper := by
  have hscan := proper_scanLine dialect hproper none (withoutReturn line)
  unfold endsWithLine
  split
  next => exact hproper
  next =>
    split
    next heq => rwa [heq] at hscan
    next heq => rwa [heq] at hscan
  next => exact hscan

/-- Inside of a statement a splitter goes on to the place where the lexer ends the statement. -/
theorem next?_of_shape (hshape : splitter.shape = some shape) (hproper : splitter.position.Proper) :
    splitter.next? true =
      match (Lexer.atLine shape splitter.position).cut? splitter.dialect splitter.pending with
      | some (piece, rest) =>
          match textOf? (splitter.scanned.reverse ++ piece) with
          | some text => (some text, (empty splitter.dialect).feed rest)
          | none => next? ((empty splitter.dialect).feed rest) true
      | none =>
          (textOf? (splitter.scanned.reverse ++ splitter.pending), empty splitter.dialect) := by
  -- the lines that were scanned are set aside one by one, so fewer bytes wait behind each of them
  induction hlength : splitter.pending.length using Nat.strong_induction_on
    generalizing splitter shape with
  | _ length ih =>
  have hbegin : splitter.begin? true = (splitter.pending, some shape) := by
    simp [begin?, hshape]
  rcases hcut : cutLine splitter.pending with _ | ⟨line, rest⟩
  · have hnone : 0x0A ∉ splitter.pending := cutLine_eq_none_iff.mp hcut
    rw [next?_of_rest hbegin hcut, Lexer.cut?_of_not_mem hnone, if_pos rfl]
  · obtain ⟨hpending, hline⟩ := cutLine_eq_some_iff.mp hcut
    rw [next?_of_line hbegin hcut, hpending, Lexer.cut?_line_feed hline]
    rcases hends : endsWithLine splitter.dialect shape splitter.position line with
      ⟨shape', position', ends⟩
    obtain ⟨hhere, hopen⟩ := Lexer.atLine_run hproper hline hends
    rw [hhere]
    cases ends with
    | true =>
        simp only [List.reverse_cons, List.reverse_append, List.reverse_reverse, List.append_assoc,
          if_true]
        rfl
    | false =>
        have hproper' : position'.Proper := by
          have hbehind := proper_endsWithLine splitter.dialect hproper shape line
          rwa [hends] at hbehind
        have hshorter : rest.length < length := by
          rw [← hlength, hpending, List.length_append, List.length_cons]
          omega
        have hrest := @ih rest.length hshorter
          { splitter with
            scanned := 0x0A :: (line.reverse ++ splitter.scanned)
            shape := some shape'
            position := position'
            pending := rest }
          shape' rfl hproper' rfl
        simp only [hopen rfl, Bool.false_eq_true, if_false]
        rw [hrest]
        rcases hnext : (Lexer.atLine shape' position').cut? splitter.dialect rest with
          _ | ⟨piece, behind⟩
        · simp
        · simp

/-- At the end of the input a splitter between two statements gives the next piece. -/
theorem next?_of_text (dialect : Dialect) (hbegun : text.dropWhile Text.isAsciiSpace ≠ []) :
    ((empty dialect).feed text).next? true =
      match (Lexer.start dialect (text.dropWhile Text.isAsciiSpace)).cut? dialect
          (text.dropWhile Text.isAsciiSpace) with
      | some (piece, rest) =>
          match textOf? piece with
          | some text => (some text, (empty dialect).feed rest)
          | none => ((empty dialect).feed rest).next? true
      | none => (textOf? (text.dropWhile Text.isAsciiSpace), empty dialect) := by
  obtain ⟨first, others, htext⟩ := List.exists_cons_of_ne_nil hbegun
  have hshape : shape? dialect true (first :: others) =
      some (shapeOf dialect (first :: others)) := by
    cases others <;> rfl
  have hbegin : ((empty dialect).feed text).begin? true =
      (first :: others, some (shapeOf dialect (first :: others))) := by
    simp [begin?, feed, empty, htext, hshape]
  have hsame : ((empty dialect).feed text).next? true =
      next?
        { empty dialect with
          shape := some (shapeOf dialect (first :: others))
          pending := first :: others }
        true :=
    next?_congr rfl rfl rfl hbegin
  rw [htext, hsame, next?_of_shape rfl (by exact True.intro), Lexer.start_eq_atLine]
  rfl

theorem next?_of_blank (dialect : Dialect) (hblank : text.dropWhile Text.isAsciiSpace = []) :
    (((empty dialect).feed text).next? true).1 = none := by
  have hbegin : ((empty dialect).feed text).begin? true = ([], none) := by
    simp [begin?, feed, empty, hblank, shape?]
  rw [next?_of_unbegun hbegin]

theorem drain_eq_pieces (dialect : Dialect) (text : List UInt8) :
    (((empty dialect).feed text).drain true).1 = (pieces dialect text).filterMap textOf? := by
  fun_induction pieces dialect text with
  | case1 text hblank =>
      exact drain_of_none (Prod.ext (next?_of_blank dialect hblank) rfl)
  | case2 text piece rest hbegun hcut ih =>
      have hnext := next?_of_text dialect hbegun
      rw [hcut] at hnext
      cases hpiece : textOf? piece with
      | some found =>
          simp only [hpiece] at hnext
          rw [drain_of_some hnext, ih, List.filterMap_cons_some hpiece]
      | none =>
          simp only [hpiece] at hnext
          rw [drain_congr hnext, ih, List.filterMap_cons_none hpiece]
  | case3 text hbegun hcut =>
      have hnext := next?_of_text dialect hbegun
      rw [hcut] at hnext
      have hempty : ((empty dialect).drain true).1 = [] :=
        drain_of_none (Prod.ext (next?_of_blank dialect List.dropWhile_nil) rfl)
      rcases hrest : textOf? (text.dropWhile Text.isAsciiSpace) with _ | found
      · rw [hrest] at hnext
        rw [drain_of_none hnext, List.filterMap_cons_none hrest, List.filterMap_nil]
      · rw [hrest] at hnext
        rw [drain_of_some hnext, hempty, List.filterMap_cons_some hrest, List.filterMap_nil]

theorem textOf?_eq_none_iff {bytes : List UInt8} :
    textOf? bytes = none ↔ Text.Blank (Text.utf8Decode bytes) := by
  rw [← Text.trim_eq_nil_iff]
  unfold textOf?
  split
  next hnil => simp [hnil]
  next hne => simpa using hne

end Splitter

theorem exists_cut?_of_mem_dropLast (dialect : Dialect) (bytes : List UInt8) :
    ∀ piece ∈ (pieces dialect bytes).dropLast,
      ∃ text rest, (Lexer.start dialect text).cut? dialect text = some (piece, rest) := by
  fun_induction pieces dialect bytes with
  | case1 => simp
  | case2 bytes piece rest hbegun hcut ih =>
      intro other hmem
      cases hrest : pieces dialect rest with
      | nil => simp [hrest] at hmem
      | cons first others =>
          rw [hrest, List.dropLast_cons_cons, ← hrest, List.mem_cons] at hmem
          rcases hmem with rfl | hmem
          · exact ⟨_, rest, hcut⟩
          · exact ih other hmem
  | case3 => simp

/-- The statements of a script are the pieces that the lexer cuts it into.  Only the last piece can
be blank and no statement, and at the feed that ends any other one the lexer is not inside of a
quoted text, a block comment or a dollar body. -/
theorem statements_eq_pieces (dialect : Dialect) (bytes : List UInt8) :
    statements dialect bytes = (pieces dialect bytes).filterMap Splitter.textOf? ∧
      (pieces dialect bytes).dropLast.all (fun piece =>
        (Splitter.textOf? piece).isSome &&
          !((Lexer.start dialect piece).run dialect piece.dropLast).isInside) = true := by
  refine ⟨Splitter.drain_eq_pieces dialect bytes, ?_⟩
  rw [List.all_eq_true]
  intro piece hpiece
  obtain ⟨text, rest, hcut⟩ := exists_cut?_of_mem_dropLast dialect bytes piece hpiece
  have hsome : (Splitter.textOf? piece).isSome = true := by
    rw [Option.isSome_iff_ne_none, ne_eq, Splitter.textOf?_eq_none_iff]
    exact Lexer.not_blank_of_cut? hcut
  rw [hsome, Lexer.isInside_of_cut? hcut]
  rfl

example :
    pieces .postgres (Text.utf8Bytes " /* a */\nSELECT $$;\n$$; --\n\nrest") =
      ["/* a */\n", "SELECT $$;\n$$; --\n", "rest"].map Text.utf8Bytes := by
  cbv

end SqlPipe.Script
