import SqlPipe.Proofs.Script.Streams
import SqlPipe.Source

/-!
# Reading ahead

A source reads its script up to the first failed read and only then sends the statements, while a
reader is asked for one statement at a time.  Both see the same statements and the same failure, for
a reader asked once too often answers with the failure or with the end.

The comparison goes over one call: what is read ahead is what the call answers, followed by what is
read ahead of the reader behind it.
-/

namespace SqlPipe.Script

variable {splitter later : Splitter} {stream : List Delivery}

theorem readAll_of_some
    {text : String} (hnext : splitter.next? false = (some text, later)) :
    readAll splitter stream =
      (text :: (readAll later stream).1, (readAll later stream).2) := by
  have hearly : (splitter.drain false).1 = text :: (later.drain false).1 ∧
      (splitter.drain false).2 = (later.drain false).2 := by
    rw [Splitter.drain]
    split
    next hsome =>
      rw [hnext] at hsome
      cases hsome
      exact ⟨rfl, rfl⟩
    next hnone =>
      rw [hnext] at hnone
      cases hnone
  have hfinal : (splitter.drain true).1 = text :: (later.drain true).1 := by
    have hdrain := Splitter.drain_feed splitter []
    rw [hnext] at hdrain
    simpa using hdrain
  obtain ⟨hfound, hbehind⟩ := hearly
  rcases stream with _ | ⟨_ | reason, others⟩
  · simp [readAll, hfinal]
  · rename_i chunk
    cases chunk with
    | nil => simp [readAll, hfinal]
    | cons byte chunk => simp [readAll, hfound, hbehind]
  · simp [readAll, hfound]

theorem readAll_of_none (hnext : splitter.next? false = (none, later)) :
    readAll splitter stream =
      match stream with
      | [] | .bytes [] :: _ => ((later.drain true).1, none)
      | .failed reason :: _ => ([], some (.io reason))
      | .bytes chunk :: others => readAll (later.feed chunk) others := by
  have hearly : splitter.drain false = ([], later) := by
    rw [Splitter.drain]
    split
    next hsome =>
      rw [hnext] at hsome
      cases hsome
    next hnone =>
      rw [hnext] at hnone
      cases hnone
      rfl
  have hfinal : (splitter.drain true).1 = (later.drain true).1 := by
    have hdrain := Splitter.drain_feed splitter []
    rw [hnext] at hdrain
    simpa using hdrain
  rcases stream with _ | ⟨_ | reason, others⟩
  · simp [readAll, hfinal]
  · rename_i chunk
    cases chunk with
    | nil => simp [readAll, hfinal]
    | cons byte chunk => simp [readAll, hearly]
  · simp [readAll, hearly]

namespace Reader

variable {reader : Reader}

/-- The statements of a reader up to the first failed read, and the failure of that read. -/
def ahead (reader : Reader) : List String × Option Failure :=
  if reader.atEnd then ((reader.splitter.drain true).1, none)
  else readAll reader.splitter reader.stream

def aheadOf : Except Failure (Option Statement) × Reader → List String × Option Failure
  | (.ok (some statement), later) => (statement.text :: later.ahead.1, later.ahead.2)
  | (.ok none, _) => ([], none)
  | (.error failure, _) => ([], some failure)

theorem ahead_eq (reader : Reader) : reader.ahead = aheadOf reader.next? := by
  fun_induction next? reader with
  | case1 reader text splitter hnext =>
      cases hend : reader.atEnd with
      | false =>
          rw [hend] at hnext
          simp [ahead, aheadOf, hend, readAll_of_some hnext]
      | true =>
          rw [hend] at hnext
          simp [ahead, aheadOf, hend, Splitter.drain_of_some hnext]
  | case2 reader splitter hnext hend =>
      rw [hend] at hnext
      simp [ahead, aheadOf, hend, Splitter.drain_of_none hnext]
  | case3 reader splitter hnext hopen hstream ih =>
      have hfalse : reader.atEnd = false := by simpa using hopen
      rw [hfalse] at hnext
      rw [← ih]
      simp [ahead, hfalse, readAll_of_none hnext, hstream]
  | case4 reader splitter hnext hopen reason stream hstream =>
      have hfalse : reader.atEnd = false := by simpa using hopen
      rw [hfalse] at hnext
      simp [ahead, aheadOf, hfalse, readAll_of_none hnext, hstream]
  | case5 reader splitter hnext hopen stream hstream ih =>
      have hfalse : reader.atEnd = false := by simpa using hopen
      rw [hfalse] at hnext
      rw [← ih]
      simp [ahead, hfalse, readAll_of_none hnext, hstream]
  | case6 reader splitter hnext hopen chunk stream hchunk hstream ih =>
      have hfalse : reader.atEnd = false := by simpa using hopen
      rw [hfalse] at hnext
      obtain ⟨byte, others, rfl⟩ := List.exists_cons_of_ne_nil hchunk
      rw [← ih]
      simp [ahead, hfalse, readAll_of_none hnext, hstream]

/-- What a reader answers when everything read ahead has been told. -/
def ending : Option Failure → Except Failure (Option Statement)
  | some failure => .error failure
  | none => .ok none

/-- Reading ahead finds what the reader would have told, and why it would have stopped. -/
structure Foresees (reader : Reader) (texts : List String) (failure : Option Failure) :
    Prop where
  answers : reader.answers (texts.length + 1) =
    texts.map (fun text => .ok (some ⟨text, reader.splitter.dialect⟩)) ++ [ending failure]
  initial : texts <+: reader.untold
  complete : failure = none → texts = reader.untold
  failure : failure = reader.failing.head?

theorem foresees_ahead (reader : Reader) : reader.Foresees reader.ahead.1 reader.ahead.2 := by
  -- each call takes one from the statements that are read ahead, whatever the reads deliver
  induction htexts : reader.ahead.1 generalizing reader with
  | nil =>
      have hahead := ahead_eq reader
      have htells := tells_next? reader
      rcases hnext : reader.next? with ⟨answer, later⟩
      rw [hnext] at hahead htells
      cases htells with
      | statement => simp [aheadOf, hahead] at htexts
      | @failure _ failure huntold hfailing hdialect =>
          rw [hahead]
          refine ⟨?_, List.nil_prefix, ?_, ?_⟩
          · simp [answers, hnext, aheadOf, ending]
          · simp [aheadOf]
          · simp [aheadOf, hfailing]
      | nothing huntold hfailing hlater =>
          rw [hahead]
          refine ⟨?_, List.nil_prefix, ?_, ?_⟩
          · simp [answers, hnext, aheadOf, ending]
          · simp [huntold]
          · simp [aheadOf, hfailing]
  | cons text texts ih =>
      have hahead := ahead_eq reader
      have htells := tells_next? reader
      rcases hnext : reader.next? with ⟨answer, later⟩
      rw [hnext] at hahead htells
      cases htells with
      | @statement _ found huntold hfailing hdialect =>
          simp only [hahead, aheadOf, List.cons.injEq] at htexts
          obtain ⟨rfl, hothers⟩ := htexts
          have hforesees := ih later hothers
          rw [hahead]
          refine ⟨?_, ?_, ?_, ?_⟩
          · rw [List.length_cons, answers, hnext, hforesees.answers, hdialect]
            rfl
          · rw [huntold]
            exact List.cons_prefix_cons.mpr ⟨rfl, hforesees.initial⟩
          · intro hnone
            rw [huntold, hforesees.complete hnone]
          · rw [hfailing]
            exact hforesees.failure
      | failure => simp [aheadOf, hahead] at htexts
      | nothing => simp [aheadOf, hahead] at htexts

end Reader

/-- What a source reads of a stream is what a reader of it would have told, one statement after the
other: an initial segment of the script, all of it when no read failed. -/
theorem foresees_readAll (dialect : Dialect) (stream : List Delivery) :
    (Reader.open_ dialect stream).Foresees (readAll (.empty dialect) stream).1
      (readAll (.empty dialect) stream).2 :=
  Reader.foresees_ahead (Reader.open_ dialect stream)

end SqlPipe.Script
