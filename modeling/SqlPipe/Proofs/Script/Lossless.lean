import SqlPipe.Proofs.Script.Boundaries

/-!
# Nothing of a script is lost

The text of a script is that of its statements in order, with white space before, between and behind
them.  A script is decoded piece by piece, and that is as good as decoding it at once, because a
piece ends with a line feed and what is dropped in front of the next one is ASCII.
-/

namespace SqlPipe.Script

/-- Statements with the white space around them, which between two of them holds a line feed. -/
structure Weave where
  lead : List Char
  /-- Every statement with what stands between it and the next one or the end. -/
  parts : List (String × List Char)
  blank_lead : Text.Blank lead
  trimmed : ∀ part ∈ parts, part.1 ≠ "" ∧ Text.Trimmed part.1.toList
  blank_gap : ∀ part ∈ parts, Text.Blank part.2
  feed_gap : ∀ part ∈ parts.dropLast, '\n' ∈ part.2

namespace Weave

def statements (weave : Weave) : List String :=
  weave.parts.map Prod.fst

/-- The text that the statements and the white space around them make up. -/
def text (weave : Weave) : List Char :=
  weave.lead ++ weave.parts.flatMap fun (statement, gap) => statement.toList ++ gap

variable {front behind : List Char} {found : String}

def space (hblank : Text.Blank front) : Weave where
  lead := front
  parts := []
  blank_lead := hblank
  trimmed := by simp
  blank_gap := by simp
  feed_gap := by simp

def pad (weave : Weave) (hblank : Text.Blank front) : Weave :=
  { weave with
    lead := front ++ weave.lead
    blank_lead := Text.blank_append.mpr ⟨hblank, weave.blank_lead⟩ }

def cons
    (weave : Weave) (hfront : Text.Blank front) (hfound : found ≠ "" ∧ Text.Trimmed found.toList)
    (hbehind : Text.Blank behind) (hfeed : weave.parts = [] ∨ '\n' ∈ behind) : Weave where
  lead := front
  parts := (found, behind ++ weave.lead) :: weave.parts
  blank_lead := hfront
  trimmed := List.forall_mem_cons.mpr ⟨hfound, weave.trimmed⟩
  blank_gap :=
    List.forall_mem_cons.mpr ⟨Text.blank_append.mpr ⟨hbehind, weave.blank_lead⟩, weave.blank_gap⟩
  feed_gap := by
    rcases hfeed with hnil | hfeed
    · simp [hnil]
    · intro part hpart
      cases hparts : weave.parts with
      | nil => simp [hparts] at hpart
      | cons first others =>
          rw [hparts, List.dropLast_cons_cons, List.mem_cons, ← hparts] at hpart
          rcases hpart with rfl | hpart
          · exact List.mem_append_left _ hfeed
          · exact weave.feed_gap part hpart

variable (weave : Weave) {hfront : Text.Blank front} {hbehind : Text.Blank behind}
  {hfound : found ≠ "" ∧ Text.Trimmed found.toList} {hfeed : weave.parts = [] ∨ '\n' ∈ behind}

@[simp] theorem statements_space : (space hfront).statements = [] := rfl

@[simp] theorem text_space : (space hfront).text = front := List.append_nil front

@[simp] theorem statements_pad : (weave.pad hfront).statements = weave.statements := rfl

@[simp] theorem text_pad : (weave.pad hfront).text = front ++ weave.text :=
  List.append_assoc front weave.lead _

@[simp] theorem statements_cons :
    (weave.cons hfront hfound hbehind hfeed).statements = found :: weave.statements := rfl

@[simp] theorem text_cons :
    (weave.cons hfront hfound hbehind hfeed).text =
      front ++ (found.toList ++ (behind ++ weave.text)) := by
  simp [cons, text]

end Weave

namespace Splitter

variable {bytes : List UInt8} {found : String}

theorem exists_of_textOf? (hfound : textOf? bytes = some found) :
    ∃ front behind, Text.utf8Decode bytes = front ++ found.toList ++ behind ∧
      Text.Blank front ∧ Text.Blank behind ∧ found ≠ "" ∧ Text.Trimmed found.toList := by
  obtain ⟨front, behind, hbytes, hfront, hbehind⟩ := Text.exists_trim (Text.utf8Decode bytes)
  have htrimmed := Text.trimmed_trim (Text.utf8Decode bytes)
  unfold textOf? at hfound
  split at hfound
  next => cases hfound
  next hne =>
    obtain rfl := Option.some.inj hfound
    rw [String.toList_ofList]
    refine ⟨front, behind, hbytes, hfront, hbehind, ?_, htrimmed⟩
    intro hnil
    have htext := congrArg String.toList hnil
    rw [String.toList_ofList] at htext
    exact hne htext

theorem feed_mem_of_trimmed
    {text front body behind : List Char} (heq : text ++ ['\n'] = front ++ body ++ behind)
    (hne : body ≠ []) (htrimmed : Text.Trimmed body) : '\n' ∈ behind := by
  have hlast := congrArg List.getLast? heq
  rw [List.getLast?_concat] at hlast
  cases hbehind : behind with
  | nil =>
      rw [hbehind, List.append_nil, List.getLast?_append_of_ne_nil _ hne] at hlast
      have hspace := htrimmed.2 _ hlast.symm
      cases hspace
  | cons first others =>
      rw [hbehind, List.getLast?_append_of_ne_nil _ (List.cons_ne_nil first others)] at hlast
      exact List.mem_of_getLast? hlast.symm

end Splitter

theorem exists_weave (dialect : Dialect) (bytes : List UInt8) :
    ∃ weave : Weave, weave.statements = (pieces dialect bytes).filterMap Splitter.textOf? ∧
      weave.text = Text.utf8Decode bytes := by
  obtain ⟨space, hspace, hbytes⟩ := Text.exists_utf8Decode_dropWhile bytes
  fun_induction pieces dialect bytes generalizing space with
  | case1 bytes hblank =>
      refine ⟨.space hspace, rfl, ?_⟩
      rw [hbytes, hblank, Text.utf8Decode_nil, List.append_nil, Weave.text_space]
  | case2 bytes piece rest hbegun hcut ih =>
      obtain ⟨behindSpace, hbehindSpace, hrest⟩ := Text.exists_utf8Decode_dropWhile rest
      obtain ⟨weave, hstatements, htext⟩ := ih behindSpace hbehindSpace hrest
      obtain ⟨front, rfl, hcutText, -⟩ := Lexer.cut?_eq_some_iff.mp hcut
      have hdecoded : Text.utf8Decode bytes =
          space ++ (Text.utf8Decode (front ++ [0x0A]) ++ weave.text) := by
        rw [hbytes, hcutText, htext, ← Text.utf8Decode_append (by decide)]
        simp
      cases hpiece : Splitter.textOf? (front ++ [0x0A]) with
      | none =>
          -- a piece without a text is more white space in front of the next statement
          have hblank := Splitter.textOf?_eq_none_iff.mp hpiece
          refine ⟨weave.pad (Text.blank_append.mpr ⟨hspace, hblank⟩), ?_, ?_⟩
          · rw [Weave.statements_pad, List.filterMap_cons_none hpiece, hstatements]
          · rw [Weave.text_pad, hdecoded, List.append_assoc]
      | some found =>
          obtain ⟨before, behind, hfound, hbefore, hbehind, hne, htrimmed⟩ :=
            Splitter.exists_of_textOf? hpiece
          have hended : Text.utf8Decode (front ++ [0x0A]) = Text.utf8Decode front ++ ['\n'] := by
            rw [Text.utf8Decode_append_ascii (by decide), Text.utf8Decode_nil]
            rfl
          -- the feed that cut the piece off is left behind its text
          have hfeed : '\n' ∈ behind :=
            Splitter.feed_mem_of_trimmed (hended.symm.trans hfound) (by simpa using hne) htrimmed
          refine ⟨weave.cons (Text.blank_append.mpr ⟨hspace, hbefore⟩) ⟨hne, htrimmed⟩ hbehind
            (.inr hfeed), ?_, ?_⟩
          · rw [Weave.statements_cons, List.filterMap_cons_some hpiece, hstatements]
          · simp [hdecoded, hfound]
  | case3 bytes hbegun hcut =>
      cases hrest : Splitter.textOf? (bytes.dropWhile Text.isAsciiSpace) with
      | none =>
          have hblank := Splitter.textOf?_eq_none_iff.mp hrest
          refine ⟨.space (Text.blank_append.mpr ⟨hspace, hblank⟩), ?_, ?_⟩
          · rw [List.filterMap_cons_none hrest, List.filterMap_nil, Weave.statements_space]
          · rw [Weave.text_space, hbytes]
      | some found =>
          obtain ⟨before, behind, hfound, hbefore, hbehind, hne, htrimmed⟩ :=
            Splitter.exists_of_textOf? hrest
          have hnil : Text.Blank [] := by simp [Text.Blank]
          refine ⟨(Weave.space hnil).cons (Text.blank_append.mpr ⟨hspace, hbefore⟩) ⟨hne, htrimmed⟩
            hbehind (.inl rfl), ?_, ?_⟩
          · rw [List.filterMap_cons_some hrest, List.filterMap_nil, Weave.statements_cons,
              Weave.statements_space]
          · simp [hbytes, hfound]

/-- The text of a script is that of its statements, with white space around them.  A statement is
not empty and has no white space at its ends, and between two of them there is a line feed. -/
theorem statements_lossless (dialect : Dialect) (bytes : List UInt8) :
    ∃ weave : Weave, weave.statements = statements dialect bytes ∧
      weave.text = Text.utf8Decode bytes := by
  rw [statements, Splitter.drain_eq_pieces]
  exact exists_weave dialect bytes

end SqlPipe.Script
