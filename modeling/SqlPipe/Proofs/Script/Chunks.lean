import SqlPipe.Proofs.Script.Lines
import SqlPipe.Script.Reader
import Mathlib.Data.List.DropRight

/-!
# Scripts that arrive in pieces

A splitter gives the same statements whether a script arrives as a whole or in pieces, and however
often it is asked for statements in between.  The reason is that what it does before more input
comes is what it would have done with that input already there: a statement found early is the one
found late, and where nothing was found, nothing was decided that more input could change.

A reader in front of a stream is a splitter with such a schedule, so it gives the statements of what
the stream delivers, whatever reads fail on the way.
-/

namespace SqlPipe.Script

namespace Splitter

variable {splitter later : Splitter} {atEnd : Bool}
variable {pending chunk : List UInt8} {shape : Shape}

/-! ## More input -/

@[simp] theorem dialect_feed (splitter : Splitter) (chunk : List UInt8) :
    (splitter.feed chunk).dialect = splitter.dialect := rfl

@[simp] theorem scanned_feed (splitter : Splitter) (chunk : List UInt8) :
    (splitter.feed chunk).scanned = splitter.scanned := rfl

@[simp] theorem position_feed (splitter : Splitter) (chunk : List UInt8) :
    (splitter.feed chunk).position = splitter.position := rfl

@[simp] theorem feed_nil (splitter : Splitter) : splitter.feed [] = splitter := by
  simp [feed]

@[simp] theorem feed_feed (splitter : Splitter) (first second : List UInt8) :
    (splitter.feed first).feed second = splitter.feed (first ++ second) := by
  simp [feed]

theorem shape?_append
    {dialect : Dialect} (hshape : shape? dialect false pending = some shape)
    (chunk : List UInt8) (atEnd : Bool) :
    shape? dialect atEnd (pending ++ chunk) = some shape := by
  rcases pending with _ | ⟨first, _ | ⟨second, others⟩⟩
  · simp [shape?] at hshape
  · simp [shape?] at hshape
  · have hsame : shapeOf dialect (first :: second :: (others ++ chunk)) =
        shapeOf dialect (first :: second :: others) := by
      simp only [shapeOf]
      split <;> simp_all
    simpa [shape?, hsame] using hshape

theorem begin?_feed
    (hbegin : splitter.begin? false = (pending, some shape)) (chunk : List UInt8) (atEnd : Bool) :
    (splitter.feed chunk).begin? atEnd = (pending ++ chunk, some shape) := by
  unfold begin? at hbegin ⊢
  cases hknown : splitter.shape with
  | some known =>
      rw [hknown] at hbegin
      cases hbegin
      simp [feed, hknown]
  | none =>
      rw [hknown] at hbegin
      obtain ⟨rfl, hshape⟩ := Prod.mk.inj hbegin
      have hne : splitter.pending.dropWhile Text.isAsciiSpace ≠ [] := by
        intro hnil
        rw [hnil] at hshape
        cases hshape
      have hdrop : (splitter.pending ++ chunk).dropWhile Text.isAsciiSpace =
          splitter.pending.dropWhile Text.isAsciiSpace ++ chunk := by
        rw [List.dropWhile_append, if_neg (by simpa using hne)]
      simp only [feed, hknown, hdrop]
      rw [shape?_append hshape]

/-- Dropping white space early leaves what dropping it late would have left. -/
theorem begin?_feed_dropped
    (hbegin : splitter.begin? atEnd = (pending, none)) (chunk : List UInt8) (ended : Bool) :
    (splitter.feed chunk).begin? ended = (feed { splitter with pending } chunk).begin? ended := by
  have hknown := shape_of_unbegun hbegin
  have hpending : splitter.pending.dropWhile Text.isAsciiSpace = pending := by
    simpa [begin?, hknown] using congrArg Prod.fst hbegin
  have hidle : pending.dropWhile Text.isAsciiSpace = pending := by
    rw [← hpending, List.dropWhile_idempotent]
  have hdrop : (splitter.pending ++ chunk).dropWhile Text.isAsciiSpace =
      (pending ++ chunk).dropWhile Text.isAsciiSpace := by
    rw [List.dropWhile_append, List.dropWhile_append, hidle, hpending]
  simp only [begin?, feed, hknown, hdrop]

/-- What comes before more input is what would have come with that input already there. -/
theorem next?_feed (splitter : Splitter) (chunk : List UInt8) (atEnd : Bool) :
    (splitter.feed chunk).next? atEnd =
      match splitter.next? false with
      | (some text, later) => (some text, later.feed chunk)
      | (none, later) => (later.feed chunk).next? atEnd := by
  fun_induction next? splitter false with
  | case1 splitter pending hbegin =>
      exact next?_congr rfl rfl rfl (begin?_feed_dropped hbegin chunk atEnd)
  | case2 splitter pending shape hbegin line rest hcut shape' position' scanned behind text htext
      hends =>
      rw [next?_of_line (begin?_feed hbegin chunk atEnd) (cutLine_append hcut chunk)]
      simp only [dialect_feed, position_feed, scanned_feed, hends]
      simp only [scanned] at htext
      simp only [htext]
      rfl
  | case3 splitter pending shape hbegin line rest hcut shape' position' scanned behind hblank
      hends ih =>
      rw [next?_of_line (begin?_feed hbegin chunk atEnd) (cutLine_append hcut chunk), ← ih]
      simp only [dialect_feed, position_feed, scanned_feed, hends]
      simp only [scanned] at hblank
      simp only [hblank]
      rfl
  | case4 splitter pending shape hbegin line rest hcut shape' position' ends hends scanned hopen
      ih =>
      rw [next?_of_line (begin?_feed hbegin chunk atEnd) (cutLine_append hcut chunk), ← ih]
      obtain rfl : ends = false := by simpa using hopen
      simp only [dialect_feed, position_feed, scanned_feed, hends]
      rfl
  | case5 splitter pending shape hbegin hcut hend => cases hend
  | case6 splitter pending shape hbegin hcut =>
      have hfed := begin?_feed hbegin chunk atEnd
      exact next?_congr rfl rfl rfl hfed

theorem dialect_next? (splitter : Splitter) (atEnd : Bool) :
    (splitter.next? atEnd).2.dialect = splitter.dialect := by
  fun_induction next? splitter atEnd with
  | case3 => assumption
  | case4 => assumption
  | _ => rfl

/-- At the end of the input a splitter that has nothing more to give is left as it is. -/
theorem next?_of_exhausted (hnext : splitter.next? true = (none, later)) :
    later.next? true = (none, later) := by
  fun_induction next? splitter true with
  | case1 splitter pending hbegin =>
      obtain ⟨-, rfl⟩ := Prod.mk.inj hnext
      have hdropped := begin?_feed_dropped hbegin [] true
      rw [feed_nil, feed_nil, hbegin] at hdropped
      exact next?_of_unbegun hdropped.symm
  | case2 => cases (Prod.mk.inj hnext).1
  | case3 => rename_i ih; exact ih hnext
  | case4 => rename_i ih; exact ih hnext
  | case5 splitter pending shape hbegin hcut =>
      obtain ⟨-, rfl⟩ := Prod.mk.inj hnext
      exact next?_of_unbegun rfl
  | case6 => contradiction

/-! ## Schedules -/

/-- What happens to a splitter before the end of its input. -/
inductive Move
  | feed (chunk : List UInt8)
  /-- The next statement is asked for. -/
  | ask
  deriving DecidableEq, Repr

/-- The statements found in a schedule of moves, and the splitter behind it. -/
def play (splitter : Splitter) : List Move → List String × Splitter
  | [] => ([], splitter)
  | .feed chunk :: moves => play (splitter.feed chunk) moves
  | .ask :: moves =>
      let (found, next) := splitter.next? false
      let (texts, last) := play next moves
      (found.toList ++ texts, last)

def fedBy : List Move → List UInt8
  | [] => []
  | .feed chunk :: moves => chunk ++ fedBy moves
  | .ask :: moves => fedBy moves

theorem drain_feed (splitter : Splitter) (chunk : List UInt8) :
    ((splitter.feed chunk).drain true).1 =
      (splitter.next? false).1.toList ++ (((splitter.next? false).2.feed chunk).drain true).1 := by
  have hfeed := next?_feed splitter chunk true
  rcases hnext : splitter.next? false with ⟨_ | text, later⟩
  · rw [hnext] at hfeed
    exact drain_congr hfeed
  · rw [hnext] at hfeed
    exact drain_of_some hfeed

/-- Whatever was asked for meanwhile, the statements found before and after more input are those
of a splitter that has had all input from the beginning. -/
theorem play_append_drain (splitter : Splitter) (moves : List Move) (chunk : List UInt8) :
    (splitter.play moves).1 ++ (((splitter.play moves).2.feed chunk).drain true).1 =
      ((splitter.feed (fedBy moves ++ chunk)).drain true).1 := by
  induction moves generalizing splitter with
  | nil => rfl
  | cons move moves ih =>
      cases move with
      | feed first => rw [play, ih, fedBy, feed_feed, List.append_assoc]
      | ask =>
          have hfound := drain_feed splitter (fedBy moves ++ chunk)
          rw [fedBy, hfound, ← ih, ← List.append_assoc]
          rfl

end Splitter

end SqlPipe.Script
