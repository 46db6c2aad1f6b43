import SqlPipe.Script.Splitter
import Mathlib.Data.List.TakeWhile

/-!
# A splitter, line by line

What a splitter does next is told by how its pending bytes begin: nothing, when the shape of a
statement cannot be told yet; otherwise it scans the first line of them, or takes the rest at the
end of the input.  The equations here stand for the definition in all later proofs.
-/

namespace SqlPipe.Script.Splitter

variable {bytes pending line rest : List UInt8} {shape : Shape}
variable {splitter other : Splitter} {atEnd : Bool}

/-! ## Lines -/

theorem cutLine_append_feed (hline : 0x0A ∉ line) (rest : List UInt8) :
    cutLine (line ++ 0x0A :: rest) = some (line, rest) := by
  have hall : ∀ byte ∈ line, (byte != 0x0A) = true := by
    intro byte hbyte
    have hne : byte ≠ 0x0A := fun heq => hline (heq ▸ hbyte)
    simpa using hne
  simp [cutLine, List.takeWhile_append_of_pos hall, List.dropWhile_append_of_pos hall]

theorem cutLine_eq_none_iff : cutLine bytes = none ↔ 0x0A ∉ bytes := by
  have hdrop : cutLine bytes = none ↔ bytes.dropWhile (· != 0x0A) = [] := by
    unfold cutLine
    split
    next heq => simp [heq]
    next heq => simp [heq]
  rw [hdrop, List.dropWhile_eq_nil_iff]
  constructor
  · intro hall hmem
    simpa using hall _ hmem
  · intro hnone byte hbyte
    have hne : byte ≠ 0x0A := fun heq => hnone (heq ▸ hbyte)
    simpa using hne

theorem cutLine_eq_some_iff :
    cutLine bytes = some (line, rest) ↔ bytes = line ++ 0x0A :: rest ∧ 0x0A ∉ line := by
  constructor
  · intro hcut
    have hmem : (0x0A : UInt8) ∈ bytes := by
      by_contra hnone
      rw [cutLine_eq_none_iff.mpr hnone] at hcut
      cases hcut
    obtain ⟨first, behind, rfl, hfirst⟩ := List.eq_append_cons_of_mem hmem
    rw [cutLine_append_feed hfirst] at hcut
    cases hcut
    exact ⟨rfl, hfirst⟩
  · rintro ⟨rfl, hline⟩
    exact cutLine_append_feed hline rest

theorem cutLine_append (hcut : cutLine pending = some (line, rest)) (chunk : List UInt8) :
    cutLine (pending ++ chunk) = some (line, rest ++ chunk) := by
  rw [cutLine_eq_some_iff] at hcut ⊢
  obtain ⟨rfl, hline⟩ := hcut
  exact ⟨by simp, hline⟩

/-! ## The next statement -/

theorem next?_of_unbegun (hbegin : splitter.begin? atEnd = (pending, none)) :
    splitter.next? atEnd = (none, { splitter with pending }) := by
  rw [next?]
  split
  next heq =>
    rw [hbegin] at heq
    cases heq
    rfl
  next heq =>
    rw [hbegin] at heq
    cases heq

theorem next?_of_line
    (hbegin : splitter.begin? atEnd = (pending, some shape))
    (hcut : cutLine pending = some (line, rest)) :
    splitter.next? atEnd =
      match endsWithLine splitter.dialect shape splitter.position line with
      | (_, _, true) =>
          match textOf? (0x0A :: (line.reverse ++ splitter.scanned)).reverse with
          | some text => (some text, { empty splitter.dialect with pending := rest })
          | none => next? { empty splitter.dialect with pending := rest } atEnd
      | (shape', position', false) =>
          next?
            { splitter with
              scanned := 0x0A :: (line.reverse ++ splitter.scanned)
              shape := some shape'
              position := position'
              pending := rest }
            atEnd := by
  rw [next?]
  split
  next heq =>
    rw [hbegin] at heq
    cases heq
  next heq =>
    rw [hbegin] at heq
    cases heq
    split
    next hline =>
      rw [hcut] at hline
      cases hline
      obtain ⟨shape', position', ends⟩ :=
        endsWithLine splitter.dialect shape splitter.position line
      cases ends <;> rfl
    next hline =>
      rw [hcut] at hline
      cases hline

theorem next?_of_rest
    (hbegin : splitter.begin? atEnd = (pending, some shape)) (hcut : cutLine pending = none) :
    splitter.next? atEnd =
      if atEnd then (textOf? (splitter.scanned.reverse ++ pending), empty splitter.dialect)
      else (none, { splitter with shape := some shape, pending }) := by
  rw [next?]
  split
  next heq =>
    rw [hbegin] at heq
    cases heq
  next heq =>
    rw [hbegin] at heq
    cases heq
    split
    next hline =>
      rw [hcut] at hline
      cases hline
    next => rfl

theorem shape_of_unbegun (hbegin : splitter.begin? atEnd = (pending, none)) :
    splitter.shape = none := by
  unfold begin? at hbegin
  split at hbegin
  next => cases hbegin
  next hshape => exact hshape

/-- Of the bytes that wait, only those matter that are left when white space in front of a statement
is dropped. -/
theorem next?_congr
    (hdialect : splitter.dialect = other.dialect) (hscanned : splitter.scanned = other.scanned)
    (hposition : splitter.position = other.position)
    (hbegin : splitter.begin? atEnd = other.begin? atEnd) :
    splitter.next? atEnd = other.next? atEnd := by
  obtain ⟨dialect, scanned, shape, position, pending⟩ := splitter
  obtain ⟨dialect', scanned', shape', position', pending'⟩ := other
  obtain rfl : dialect = dialect' := hdialect
  obtain rfl : scanned = scanned' := hscanned
  obtain rfl : position = position' := hposition
  rcases hother : begin? ⟨dialect, scanned, shape', position, pending'⟩ atEnd with
    ⟨bytes, _ | begun⟩
  · have hthis := hbegin.trans hother
    obtain rfl : shape = none := shape_of_unbegun hthis
    obtain rfl : shape' = none := shape_of_unbegun hother
    rw [next?_of_unbegun hthis, next?_of_unbegun hother]
  · have hthis := hbegin.trans hother
    rcases hcut : cutLine bytes with _ | ⟨line, rest⟩
    · rw [next?_of_rest hthis hcut, next?_of_rest hother hcut]
    · rw [next?_of_line hthis hcut, next?_of_line hother hcut]

/-! ## All statements -/

theorem drain_of_some
    {text : String} (hnext : splitter.next? atEnd = (some text, other)) :
    (splitter.drain atEnd).1 = text :: (other.drain atEnd).1 := by
  rw [drain]
  split
  next heq =>
    rw [hnext] at heq
    cases heq
    rfl
  next heq =>
    rw [hnext] at heq
    cases heq

theorem drain_of_none (hnext : splitter.next? atEnd = (none, other)) :
    (splitter.drain atEnd).1 = [] := by
  rw [drain]
  split
  next heq =>
    rw [hnext] at heq
    cases heq
  next heq => rfl

theorem drain_congr (hnext : splitter.next? atEnd = other.next? atEnd) :
    (splitter.drain atEnd).1 = (other.drain atEnd).1 := by
  rcases hother : other.next? atEnd with ⟨_ | text, later⟩
  · rw [drain_of_none (hnext.trans hother), drain_of_none hother]
  · rw [drain_of_some (hnext.trans hother), drain_of_some hother]

end SqlPipe.Script.Splitter
