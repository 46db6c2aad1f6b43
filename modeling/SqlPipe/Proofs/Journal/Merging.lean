import SqlPipe.Proofs.Journal.Rows
import Mathlib.Data.List.Induction

/-!
# Merged inserts

The buffers of a sink are a function of the inserts whose rows wait: there is one buffer for each
target, the targets stand in the order in which they came, and a buffer holds the rows of all
inserts for its target.  A journal tells which inserts these are: the ones that arrived since rows
were last taken out of the buffers.

So a batch is made of the rows that one stretch of the arrivals has for its target.  Nothing else
decides what meets in a batch.  In particular the lengths of the rows do not: a batch has rows of
one length exactly if the inserts that it merges have.
-/

namespace SqlPipe

/-- All rows have the same number of values. -/
def Rectangular (rows : List Row) : Prop :=
  ∀ row ∈ rows, ∀ other ∈ rows, row.values.length = other.values.length

instance (rows : List Row) : Decidable (Rectangular rows) :=
  inferInstanceAs (Decidable (∀ row ∈ rows, ∀ other ∈ rows, _))

theorem Rectangular.subset
    {rows others : List Row} (hrows : Rectangular rows) (hsubset : others ⊆ rows) :
    Rectangular others :=
  fun row hrow other hother => hrows row (hsubset hrow) other (hsubset hother)

/-- A stretch of inserts has no other rows for a target than all of them have. -/
theorem rowsFor_subset
    {stretch inserts : List Insert} (hstretch : stretch <:+: inserts) (target : String) :
    rowsFor target stretch ⊆ rowsFor target inserts := by
  obtain ⟨before, behind, rfl⟩ := hstretch
  intro row hrow
  simp [hrow]

namespace Sink

/-! ## Buffers from inserts -/

def collected (inserts : List Insert) : List Insert :=
  inserts.foldl (fun buffers insert => addRows insert buffers) []

@[simp] theorem collected_nil : collected [] = [] := rfl

@[simp] theorem collected_concat (inserts : List Insert) (insert : Insert) :
    collected (inserts ++ [insert]) = addRows insert (collected inserts) := by
  simp [collected]

theorem map_target_addRows (insert : Insert) (buffers : List Insert) :
    (addRows insert buffers).map Insert.target =
      if insert.target ∈ buffers.map Insert.target then buffers.map Insert.target
      else buffers.map Insert.target ++ [insert.target] := by
  induction buffers with
  | nil => simp [addRows]
  | cons buffer others ih =>
      by_cases hsame : buffer.target = insert.target
      · simp [addRows, hsame]
      · have hother : insert.target ≠ buffer.target := Ne.symm hsame
        simp only [addRows, if_neg hsame, List.map_cons, List.mem_cons, hother, false_or, ih]
        split <;> simp

theorem map_target_collected (inserts : List Insert) :
    (collected inserts).map Insert.target = (inserts.map Insert.target).eraseDups := by
  induction inserts using List.reverseRecOn with
  | nil => rfl
  | append_singleton inserts insert ih =>
      rw [collected_concat, map_target_addRows, ih, List.map_append, List.eraseDups_append]
      generalize inserts.map Insert.target = seen
      by_cases hseen : insert.target ∈ seen <;>
        simp [hseen, List.cons_removeAll, List.eraseDups_cons]

theorem distinctTargets_collected (inserts : List Insert) :
    DistinctTargets (collected inserts) := by
  induction inserts using List.reverseRecOn with
  | nil => simp [DistinctTargets]
  | append_singleton inserts insert ih =>
      rw [collected_concat]
      exact ih.addRows insert

theorem rowsFor_collected (target : String) (inserts : List Insert) :
    rowsFor target (collected inserts) = rowsFor target inserts := by
  induction inserts using List.reverseRecOn with
  | nil => rfl
  | append_singleton inserts insert ih =>
      rw [collected_concat, rowsFor_addRows (distinctTargets_collected inserts), ih]
      simp

theorem rows_of_mem_collected
    {inserts : List Insert} {buffer : Insert} (hmem : buffer ∈ collected inserts) :
    buffer.rows = rowsFor buffer.target inserts := by
  have hone : rowsFor buffer.target ((collected inserts).erase buffer) = [] := by
    apply rowsFor_eq_nil
    have hdistinct := distinctTargets_collected inserts
    have hperm := (List.perm_cons_erase hmem).map Insert.target
    exact (List.nodup_cons.mp (hperm.nodup_iff.mp hdistinct)).1
  rw [← rowsFor_collected, rowsFor_eq_append_erase (distinctTargets_collected inserts) hmem, hone,
    List.append_nil, Insert.rowsFor, if_pos rfl]

end Sink

namespace Journal

/-! ## Inserts that wait and inserts on their way -/

/-- The inserts whose rows wait: those that arrived since rows were last taken out. -/
def unflushed : Journal → List Insert
  | [] => []
  | .buffered insert :: earlier => unflushed earlier ++ [insert]
  | .emptied :: _ => []
  | _ :: earlier => unflushed earlier

def flushedLast : Journal → List Insert
  | [] => []
  | .emptied :: earlier => unflushed earlier
  | _ :: earlier => flushedLast earlier

theorem waiting_eq_collected (journal : Journal) :
    journal.ledger.waiting = Sink.collected journal.unflushed := by
  induction journal with
  | nil => rfl
  | cons action earlier ih =>
      cases action with
      | buffered insert => simp [Ledger.after, unflushed, ih]
      | sent connection message => cases message <;> exact ih
      | emptied => rfl
      | _ => exact ih

theorem outgoing_subset_collected (journal : Journal) :
    journal.ledger.outgoing ⊆ Sink.collected journal.flushedLast := by
  induction journal with
  | nil => exact List.nil_subset _
  | cons action earlier ih =>
      cases action with
      | emptied => simp [Ledger.after, flushedLast, waiting_eq_collected]
      | sent connection message =>
          cases message with
          | statement text => exact List.nil_subset _
          | batch insert => exact fun batch hmem => ih (List.mem_of_mem_erase hmem)
      | bound | unbound => exact List.nil_subset _
      | _ => exact ih

theorem flushedLast_unflushed_suffix (journal : Journal) :
    journal.flushedLast ++ journal.unflushed <:+ journal.ledger.arrived := by
  induction journal with
  | nil => exact List.suffix_refl _
  | cons action earlier ih =>
      cases action with
      | buffered insert =>
          obtain ⟨before, hbefore⟩ := ih
          refine ⟨before, ?_⟩
          simp [Ledger.after, flushedLast, unflushed, ← hbefore]
      | emptied =>
          rw [unflushed, List.append_nil]
          exact (List.suffix_append _ _).trans ih
      | sent connection message => cases message <;> exact ih
      | _ => exact ih

/-- The batch is made of the rows that a stretch of the arrivals has for its target. -/
def Merges (arrived : List Insert) (batch : Insert) : Prop :=
  ∃ stretch, stretch <:+: arrived ∧ batch.target ∈ stretch.map Insert.target ∧
    batch.rows = rowsFor batch.target stretch

theorem Merges.mono
    {arrived more : List Insert} {batch : Insert} (hmerges : Merges arrived batch)
    (hmore : arrived <+: more) : Merges more batch := by
  obtain ⟨stretch, hstretch, htarget, hrows⟩ := hmerges
  exact ⟨stretch, hstretch.trans hmore.isInfix, htarget, hrows⟩

theorem arrived_prefix_after (ledger : Ledger) (action : Action) :
    ledger.arrived <+: (ledger.after action).arrived := by
  cases action with
  | buffered insert => exact List.prefix_append _ _
  | sent connection message => cases message <;> exact List.prefix_refl _
  | _ => exact List.prefix_refl _

theorem merges_of_mem_outgoing
    {journal : Journal} {batch : Insert} (hbatch : batch ∈ journal.ledger.outgoing) :
    Merges journal.ledger.arrived batch := by
  have hcollected := outgoing_subset_collected journal hbatch
  have hstretch : journal.flushedLast <:+: journal.ledger.arrived :=
    (List.prefix_append _ _).isInfix.trans (flushedLast_unflushed_suffix journal).isInfix
  refine ⟨journal.flushedLast, hstretch, ?_, Sink.rows_of_mem_collected hcollected⟩
  have htarget := List.mem_map_of_mem (f := Insert.target) hcollected
  rwa [Sink.map_target_collected, List.mem_eraseDups] at htarget

/-- In an orderly journal every batch that was sent is made of rows of one stretch. -/
theorem Orderly.merges
    {limit : ℕ} {journal : Journal} (horderly : journal.Orderly limit)
    {connection : Connection} {batch : Insert}
    (hsent : (connection, .batch batch) ∈ journal.messages) :
    Merges journal.ledger.arrived batch := by
  induction journal with
  | nil => simp [Journal.messages] at hsent
  | cons action earlier ih =>
      obtain ⟨hallowed, hearlier⟩ := horderly
      rw [messages_cons] at hsent
      have hmore := arrived_prefix_after (ledger earlier) action
      rcases List.mem_append.mp hsent with hbefore | hnow
      · exact (ih hearlier hbefore).mono hmore
      · have haction : action = .sent connection (.batch batch) := by
          cases action <;> simp_all [sentBy?]
        subst haction
        exact (merges_of_mem_outgoing hallowed.2).mono hmore

end Journal

end SqlPipe
