import SqlPipe.Proofs.Script.Chunks

/-!
# Statements of a stream

A reader that is called again and again tells the statements of what its stream delivers, each
failed read once, and then forever that there is nothing more.  Neither the pieces of the stream nor
the failures between them change the statements: they are those of the delivered bytes as a whole.
-/

namespace SqlPipe.Script

def delivered : List Delivery → List UInt8
  | [] => []
  | .failed _ :: stream => delivered stream
  | .bytes [] :: _ => []
  | .bytes (byte :: chunk) :: stream => byte :: chunk ++ delivered stream

def failuresBeforeEnd : List Delivery → List Failure
  | [] => []
  | .failed reason :: stream => .io reason :: failuresBeforeEnd stream
  | .bytes [] :: _ => []
  | .bytes (_ :: _) :: stream => failuresBeforeEnd stream

def failureOf? {α : Type} : Except Failure α → Option Failure
  | .ok _ => none
  | .error failure => some failure

namespace Reader

variable {reader later : Reader}

def answers (reader : Reader) : ℕ → List (Except Failure (Option Statement))
  | 0 => []
  | calls + 1 => reader.next?.1 :: answers reader.next?.2 calls

def unread (reader : Reader) : List UInt8 :=
  if reader.atEnd then [] else delivered reader.stream

def untold (reader : Reader) : List String :=
  ((reader.splitter.feed reader.unread).drain true).1

def failing (reader : Reader) : List Failure :=
  if reader.atEnd then [] else failuresBeforeEnd reader.stream

/-- What one call answers, and what it leaves to be told. -/
inductive Tells : Reader → Except Failure (Option Statement) × Reader → Prop
  | statement {reader later : Reader} {text : String}
      (huntold : reader.untold = text :: later.untold)
      (hfailing : reader.failing = later.failing)
      (hdialect : later.splitter.dialect = reader.splitter.dialect) :
      Tells reader (.ok (some ⟨text, reader.splitter.dialect⟩), later)
  | failure {reader later : Reader} {failure : Failure}
      (huntold : reader.untold = later.untold)
      (hfailing : reader.failing = failure :: later.failing)
      (hdialect : later.splitter.dialect = reader.splitter.dialect) :
      Tells reader (.error failure, later)
  | nothing {reader later : Reader}
      (huntold : reader.untold = []) (hfailing : reader.failing = [])
      (hlater : later.next? = (.ok none, later)) :
      Tells reader (.ok none, later)

theorem Tells.of_eq
    {answer : Except Failure (Option Statement) × Reader} (htells : later.Tells answer)
    (huntold : reader.untold = later.untold) (hfailing : reader.failing = later.failing)
    (hdialect : later.splitter.dialect = reader.splitter.dialect) : reader.Tells answer := by
  cases htells with
  | statement hfirst hfailures hsame =>
      rw [hdialect]
      exact .statement (huntold.trans hfirst) (hfailing.trans hfailures) (hsame.trans hdialect)
  | failure hfirst hfailures hsame =>
      exact .failure (huntold.trans hfirst) (hfailing.trans hfailures) (hsame.trans hdialect)
  | nothing hfirst hfailures hlater =>
      exact .nothing (huntold.trans hfirst) (hfailing.trans hfailures) hlater

theorem untold_of_next?
    {found : Option String} {splitter : Splitter}
    (hnext : reader.splitter.next? reader.atEnd = (found, splitter)) :
    reader.untold = found.toList ++ untold { reader with splitter } := by
  cases hend : reader.atEnd with
  | false =>
      rw [hend] at hnext
      have hdrain := Splitter.drain_feed reader.splitter reader.unread
      rw [hnext] at hdrain
      simpa [untold, unread, hend] using hdrain
  | true =>
      rw [hend] at hnext
      simp only [untold, unread, hend, if_true, Splitter.feed_nil]
      cases found with
      | some text => exact Splitter.drain_of_some hnext
      | none =>
          rw [Splitter.drain_of_none hnext,
            Splitter.drain_of_none (Splitter.next?_of_exhausted hnext)]
          rfl

theorem dialect_of_next?
    {found : Option String} {splitter : Splitter}
    (hnext : reader.splitter.next? reader.atEnd = (found, splitter)) :
    splitter.dialect = reader.splitter.dialect := by
  rw [← Splitter.dialect_next? reader.splitter reader.atEnd, hnext]

theorem next?_of_exhausted
    {splitter : Splitter} (hend : reader.atEnd = true)
    (hnext : reader.splitter.next? true = (none, splitter)) :
    reader.next? = (.ok none, { reader with splitter }) := by
  rw [next?]
  split
  next heq =>
    rw [hend, hnext] at heq
    cases heq
  next heq =>
    rw [hend, hnext] at heq
    cases heq
    rw [if_pos hend]

theorem tells_next? (reader : Reader) : reader.Tells reader.next? := by
  fun_induction next? reader with
  | case1 reader text splitter hnext =>
      have hdialect := dialect_of_next? hnext
      rw [hdialect]
      exact .statement (untold_of_next? hnext) rfl hdialect
  | case2 reader splitter hnext hend =>
      rw [hend] at hnext
      have hnone : reader.untold = [] := by
        simpa [untold, unread, hend] using Splitter.drain_of_none hnext
      exact .nothing hnone (by simp [failing, hend])
        (next?_of_exhausted hend (Splitter.next?_of_exhausted hnext))
  | case3 reader splitter hnext hopen hstream ih =>
      refine ih.of_eq ((untold_of_next? hnext).trans ?_) ?_ (dialect_of_next? hnext)
      · simp [untold, unread, hopen, hstream, delivered]
      · simp [failing, hopen, hstream, failuresBeforeEnd]
  | case4 reader splitter hnext hopen reason stream hstream =>
      refine .failure ((untold_of_next? hnext).trans ?_) ?_ (dialect_of_next? hnext)
      · simp [untold, unread, hopen, hstream, delivered]
      · simp [failing, hopen, hstream, failuresBeforeEnd]
  | case5 reader splitter hnext hopen stream hstream ih =>
      refine ih.of_eq ((untold_of_next? hnext).trans ?_) ?_ (dialect_of_next? hnext)
      · simp [untold, unread, hopen, hstream, delivered]
      · simp [failing, hopen, hstream, failuresBeforeEnd]
  | case6 reader splitter hnext hopen chunk stream hchunk hstream ih =>
      obtain ⟨byte, others, rfl⟩ := List.exists_cons_of_ne_nil hchunk
      have hdialect := dialect_of_next? hnext
      refine ih.of_eq ((untold_of_next? hnext).trans ?_) ?_ hdialect
      · simp [untold, unread, hopen, hstream, delivered]
      · simp [failing, hopen, hstream, failuresBeforeEnd]

theorem answers_of_silent (hlater : later.next? = (.ok none, later)) (calls : ℕ) :
    later.answers calls = List.replicate calls (.ok none) := by
  induction calls with
  | zero => rfl
  | succ calls ih => rw [answers, hlater, ih, List.replicate_succ]

/-- The answers of a reader: all that it has to tell, in this order, and then nothing. -/
structure Answers (reader : Reader) (told : List (Except Failure Statement)) : Prop where
  answers : ∀ calls, reader.answers calls =
    (told.map (Except.map some)).take calls ++ List.replicate (calls - told.length) (.ok none)
  statements : told.filterMap Except.toOption =
    reader.untold.map fun text => ⟨text, reader.splitter.dialect⟩
  failures : told.filterMap failureOf? = reader.failing

theorem Answers.cons
    {told : List (Except Failure Statement)} {first : Except Failure Statement}
    (htold : later.Answers told) (hnext : reader.next? = (first.map some, later))
    (hstatements : (first :: told).filterMap Except.toOption =
      reader.untold.map fun text => ⟨text, reader.splitter.dialect⟩)
    (hfailures : (first :: told).filterMap failureOf? = reader.failing) :
    reader.Answers (first :: told) := by
  refine ⟨?_, hstatements, hfailures⟩
  intro calls
  cases calls with
  | zero => simp [Reader.answers]
  | succ calls =>
      rw [Reader.answers, hnext, htold.answers]
      simp

theorem exists_answers (reader : Reader) : ∃ told, reader.Answers told := by
  induction hleft : reader.untold.length + reader.failing.length using Nat.strong_induction_on
    generalizing reader with
  | _ left ih =>
  have htells := tells_next? reader
  rcases hnext : reader.next? with ⟨answer, later⟩
  rw [hnext] at htells
  cases htells with
  | @statement _ text huntold hfailing hdialect =>
      have hfewer : later.untold.length + later.failing.length < left := by
        rw [← hleft, huntold, hfailing, List.length_cons]
        omega
      obtain ⟨told, htold⟩ := ih _ hfewer later rfl
      refine ⟨.ok ⟨text, reader.splitter.dialect⟩ :: told, htold.cons hnext ?_ ?_⟩
      · simp [Except.toOption, htold.statements, huntold, hdialect]
      · rw [List.filterMap_cons, failureOf?, htold.failures, hfailing]
  | @failure _ failure huntold hfailing hdialect =>
      have hfewer : later.untold.length + later.failing.length < left := by
        rw [← hleft, huntold, hfailing, List.length_cons]
        omega
      obtain ⟨told, htold⟩ := ih _ hfewer later rfl
      refine ⟨.error failure :: told, htold.cons hnext ?_ ?_⟩
      · rw [List.filterMap_cons, Except.toOption, htold.statements, huntold, hdialect]
      · simp [failureOf?, htold.failures, hfailing]
  | nothing huntold hfailing hlater =>
      refine ⟨[], ?_, by simp [huntold], by simp [hfailing]⟩
      intro calls
      cases calls with
      | zero => rfl
      | succ calls =>
          rw [answers, hnext, answers_of_silent hlater]
          simp [List.replicate_succ]

end Reader

/-- However a script is cut into pieces, and however often statements are asked for between them, a
splitter finds the statements of the script as a whole.  A reader tells those of what its stream
delivers, however its reads cut it and whichever of them fail, and from then on nothing. -/
theorem statements_independent_of_chunks (dialect : Dialect) :
    (∀ moves : List Splitter.Move,
      let (texts, splitter) := (Splitter.empty dialect).play moves
      texts ++ (splitter.drain true).1 = statements dialect (Splitter.fedBy moves)) ∧
    ∀ stream : List Delivery, ∃ told : List (Except Failure Statement),
      (∀ calls, (Reader.open_ dialect stream).answers calls =
        (told.map (Except.map some)).take calls ++
          List.replicate (calls - told.length) (.ok none)) ∧
      told.filterMap Except.toOption =
        (statements dialect (delivered stream)).map (fun text => ⟨text, dialect⟩) ∧
      told.filterMap failureOf? = failuresBeforeEnd stream := by
  constructor
  · intro moves
    have hplay := Splitter.play_append_drain (Splitter.empty dialect) moves []
    rwa [Splitter.feed_nil, List.append_nil] at hplay
  · intro stream
    obtain ⟨told, htold⟩ := Reader.exists_answers (Reader.open_ dialect stream)
    exact ⟨told, htold.answers, htold.statements, htold.failures⟩

end SqlPipe.Script
