import SqlPipe.Engine.Rehearsal
import SqlPipe.Proofs.Engine.Runs
import SqlPipe.Proofs.Engine.Success
import SqlPipe.Proofs.Journal.Merging

/-!
# Shapes of batches

The target of an insert is the only key of the buffers, and the lengths of rows are never compared.
Where rows for one target are all of one length, so are those of every batch; it is not enough that
they are within each insert.  A target without a list of columns leaves room for that: a database
may accept rows of different lengths one insert at a time, but not in one list of values.
-/

namespace SqlPipe.Engine

variable {σ : Type}

/-- Every batch that is sent in a run merges the inserts that one stretch of the arrivals has for
its target, and its rows are of one length whenever all rows that arrive for this target are. -/
theorem run_sends_rectangular_batches
    (destination : Destination σ) (batchCap : ℕ) (world : σ) (calls : List (Call σ))
    {connection : Connection} {batch : Insert}
    (hsent : (connection, .batch batch) ∈
      ((fresh batchCap world).run destination calls).messages) :
    Journal.Merges (arrivedBy destination calls) batch ∧
      (Rectangular (rowsFor batch.target (arrivedBy destination calls)) →
        Rectangular batch.rows) := by
  have hconsistent : ((fresh batchCap world).run destination calls).Consistent destination
      (arrivedBy destination calls) := consistent_run_fresh batchCap world calls
  have hmerges := hconsistent.orderly.merges hsent
  obtain ⟨outgoing, turn, htold⟩ := hconsistent.told
  rw [htold] at hmerges
  refine ⟨hmerges, fun hrows => ?_⟩
  obtain ⟨stretch, hstretch, -, heq⟩ := hmerges
  rw [heq]
  exact hrows.subset (rowsFor_subset hstretch batch.target)

/-- Two inserts that name the same column are merged. -/
theorem run_sends_rectangular_batches_of_one_column :
    let destination := Rehearsal.destination .mysql 2 false
    let calls : List (Call Rehearsal) :=
      [.exec "INSERT INTO t (a) VALUES (1)", .exec "INSERT INTO t (a) VALUES (2)", .flush]
    let batch : Insert := ⟨"INSERT INTO `t` (`a`) ", [⟨["1"]⟩, ⟨["2"]⟩]⟩
    (0, .batch batch) ∈
        ((fresh 8 (Rehearsal.fresh [] [] [])).run destination calls).messages ∧
      Journal.Merges (arrivedBy destination calls) batch ∧ Rectangular batch.rows := by
  intro destination calls batch
  have hsent : (0, .batch batch) ∈
      ((fresh 8 (Rehearsal.fresh [] [] [])).run destination calls).messages := by
    decide +kernel
  have hrows : Rectangular (rowsFor batch.target (arrivedBy destination calls)) := by
    decide +kernel
  obtain ⟨hmerges, hbatch⟩ :=
    run_sends_rectangular_batches destination 8 (Rehearsal.fresh [] [] []) calls hsent
  exact ⟨hsent, hmerges, hbatch hrows⟩

/-- Each insert has rows of one length, and the batch that merges them has not. -/
theorem exists_batch_not_rectangular :
    let destination := Rehearsal.destination .postgres 3 false
    let calls : List (Call Rehearsal) :=
      [.exec "INSERT INTO t VALUES (1)", .exec "INSERT INTO t VALUES (1, 2)", .flush]
    (∀ insert ∈ arrivedBy destination calls, Rectangular insert.rows) ∧
      ∃ connection batch,
        (connection, .batch batch) ∈
          ((fresh 8 (Rehearsal.fresh [] [] [])).run destination calls).messages ∧
        ¬Rectangular batch.rows := by
  intro destination calls
  constructor
  · decide +kernel
  · refine ⟨0, ⟨"INSERT INTO t ", [⟨["1"]⟩, ⟨["1", "2"]⟩]⟩, ?_, by decide⟩
    decide +kernel

end SqlPipe.Engine
