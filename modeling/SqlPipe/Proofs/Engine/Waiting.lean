import SqlPipe.Proofs.Engine.Flushes
import SqlPipe.Proofs.Sql.RoundTrip

/-!
# Rows that wait

Between two calls every target that waits has rows, fewer of them than cause a flush, and the sink
counts the rows of all targets rightly.  Only two things touch rows and count: an insert that
arrives, which adds to both, and a flush, which clears both before it sends anything.  So neither
failures nor statements in between can make them disagree.
-/

namespace SqlPipe

def rowCount : List Insert → ℕ
  | [] => 0
  | insert :: others => insert.rows.length + rowCount others

@[simp] theorem rowCount_nil : rowCount [] = 0 := rfl

@[simp] theorem rowCount_cons (insert : Insert) (others : List Insert) :
    rowCount (insert :: others) = insert.rows.length + rowCount others := rfl

namespace Sink

/-! ## The rows of one more insert -/

theorem rowCount_addRows (insert : Insert) (buffers : List Insert) :
    rowCount (addRows insert buffers) = rowCount buffers + insert.rows.length := by
  induction buffers with
  | nil => simp [addRows]
  | cons buffer others ih =>
      simp only [addRows]
      split
      · simp only [rowCount_cons, List.length_append]
        omega
      · simp only [rowCount_cons, ih]
        omega

theorem mem_addRows
    {insert buffer : Insert} {buffers : List Insert} (hmem : buffer ∈ addRows insert buffers) :
    buffer ∈ buffers ∨ buffer.rows = pending insert.target (addRows insert buffers) := by
  induction buffers with
  | nil =>
      obtain rfl := List.mem_singleton.mp hmem
      simp [addRows, pending]
  | cons first others ih =>
      by_cases hsame : first.target = insert.target
      · simp only [addRows, if_pos hsame] at hmem ⊢
        rcases List.mem_cons.mp hmem with rfl | hothers
        · simp [pending, hsame]
        · exact .inl (List.mem_cons_of_mem first hothers)
      · have hskip : pending insert.target (addRows insert (first :: others)) =
            pending insert.target (addRows insert others) := by
          simp [addRows, pending, hsame]
        rw [addRows, if_neg hsame] at hmem
        rw [hskip]
        rcases List.mem_cons.mp hmem with rfl | hothers
        · exact .inl List.mem_cons_self
        · exact (ih hothers).imp_left (List.mem_cons_of_mem first)

theorem pending_eq (target : String) (buffers : List Insert) :
    pending target buffers = [] ∨ ∃ buffer ∈ buffers, pending target buffers = buffer.rows := by
  unfold pending
  cases hfound : buffers.find? (·.target = target) with
  | none => exact .inl rfl
  | some buffer => exact .inr ⟨buffer, List.mem_of_find?_eq_some hfound, rfl⟩

theorem pending_addRows (insert : Insert) (buffers : List Insert) :
    pending insert.target (addRows insert buffers) =
      pending insert.target buffers ++ insert.rows := by
  induction buffers with
  | nil => simp [addRows, pending]
  | cons buffer others ih =>
      by_cases hsame : buffer.target = insert.target
      · simp [addRows, pending, hsame]
      · simpa [addRows, pending, hsame] using ih

/-! ## Bounded buffers -/

/-- For each target some rows wait, but fewer than cause a flush, and the sink knows how many wait
altogether. -/
structure Metered (cap : ℕ) (sink : Sink) : Prop where
  cap_eq : sink.batchCap = cap
  sizes : ∀ buffer ∈ sink.buffers, 0 < buffer.rows.length ∧ buffer.rows.length < cap
  counted : sink.buffered = rowCount sink.buffers

theorem metered_of_empty
    {cap : ℕ} {sink : Sink} (hcap : sink.batchCap = cap) (hbuffers : sink.buffers = [])
    (hbuffered : sink.buffered = 0) : sink.Metered cap where
  cap_eq := hcap
  sizes buffer hmem := by
    rw [hbuffers] at hmem
    cases hmem
  counted := by
    rw [hbuffered, hbuffers]
    rfl

/-- The buffers that an insert leaves hold no more rows than waited before and its own. -/
theorem Metered.length_le_of_mem_addRows
    {cap : ℕ} {sink : Sink} (hmetered : sink.Metered cap) (hcap : 0 < cap)
    {insert buffer : Insert} (hmem : buffer ∈ addRows insert sink.buffers) :
    buffer.rows.length ≤ cap - 1 + insert.rows.length := by
  rcases mem_addRows hmem with hbefore | hrows
  · have hsize := (hmetered.sizes buffer hbefore).2
    omega
  · rw [hrows, pending_addRows, List.length_append]
    rcases pending_eq insert.target sink.buffers with hnone | ⟨old, hold, heq⟩
    · rw [hnone, List.length_nil]
      omega
    · have hsize := (hmetered.sizes old hold).2
      rw [heq]
      omega

theorem Metered.addInsert
    {cap : ℕ} {sink : Sink} (hmetered : sink.Metered cap) {insert : Insert}
    (hrows : insert.rows ≠ [])
    (hroom : (pending insert.target (sink.addInsert insert).buffers).length < cap) :
    (sink.addInsert insert).Metered cap where
  cap_eq := hmetered.cap_eq
  sizes buffer hmem := by
    rcases mem_addRows hmem with hbefore | heq
    · exact hmetered.sizes buffer hbefore
    · refine ⟨?_, heq ▸ hroom⟩
      rw [heq, pending_addRows, List.length_append]
      have hsome := List.length_pos_iff.mpr hrows
      omega
  counted := by
    have hcount := rowCount_addRows insert sink.buffers
    rw [← hmetered.counted] at hcount
    exact hcount.symm

/-- The same rows wait in both sinks, and the same number of them causes a flush. -/
structure SameRows (sink later : Sink) : Prop where
  batchCap : later.batchCap = sink.batchCap
  buffers : later.buffers = sink.buffers
  buffered : later.buffered = sink.buffered

theorem SameRows.refl (sink : Sink) : sink.SameRows sink := ⟨rfl, rfl, rfl⟩

theorem SameRows.trans
    {sink middle later : Sink} (hsame : sink.SameRows middle) (hlater : middle.SameRows later) :
    sink.SameRows later :=
  ⟨hlater.batchCap.trans hsame.batchCap, hlater.buffers.trans hsame.buffers,
    hlater.buffered.trans hsame.buffered⟩

theorem Metered.sameRows
    {cap : ℕ} {sink later : Sink} (hmetered : sink.Metered cap) (hsame : sink.SameRows later) :
    later.Metered cap where
  cap_eq := hsame.batchCap.trans hmetered.cap_eq
  sizes := by
    rw [hsame.buffers]
    exact hmetered.sizes
  counted := by rw [hsame.buffers, hsame.buffered, hmetered.counted]

end Sink

namespace Engine

variable {σ : Type} {destination : Destination σ} {engine later : Engine σ}

/-! ## Work that moves no rows -/

/-- The same rows wait behind some work as before it. -/
def KeepsRows (engine later : Engine σ) : Prop :=
  engine.sink.SameRows later.sink

theorem keepsRows_of_sink (hsink : later.sink = engine.sink) : engine.KeepsRows later := by
  unfold KeepsRows
  rw [hsink]
  exact .refl _

theorem KeepsRows.counted
    {done : Outcome × Engine σ} (hkeeps : engine.KeepsRows done.2) :
    engine.KeepsRows (counted done).2 := by
  apply andThen_snd engine.KeepsRows hkeeps
  intro next hnext
  rw [hnext] at hkeeps
  exact ⟨hkeeps.batchCap, hkeeps.buffers, hkeeps.buffered⟩

theorem keepsRows_runOnce (destination : Destination σ) (engine : Engine σ) (text : String) :
    engine.KeepsRows (engine.runOnce destination text).2 := by
  apply KeepsRows.counted
  split <;> exact .refl _

theorem keepsRows_beginOn
    (destination : Destination σ) (engine : Engine σ) (sentry : Sentry) (text : String) :
    engine.KeepsRows (engine.beginOn destination sentry text).2 := by
  unfold beginOn
  split
  next next hrun =>
    have hsink : next.sink = engine.sink := congrArg (fun done => done.2.sink) hrun.symm
    have hkeeps := keepsRows_of_sink hsink
    exact ⟨hkeeps.batchCap, hkeeps.buffers, hkeeps.buffered⟩
  next failure next hrun =>
    have hsink : next.sink = engine.sink := congrArg (fun done => done.2.sink) hrun.symm
    have hkeeps := keepsRows_of_sink hsink
    split
    · exact ⟨hkeeps.batchCap, hkeeps.buffers, hkeeps.buffered⟩
    · exact hkeeps

theorem keepsRows_begin (destination : Destination σ) (engine : Engine σ) (text : String) :
    engine.KeepsRows (engine.begin destination text).2 := by
  unfold Engine.begin
  split
  next sentry hsentry => exact keepsRows_beginOn destination engine sentry text
  next hsentry =>
    split
    next connection line hacquire =>
      have hbound : engine.KeepsRows (bindTo { engine with line } connection) := ⟨rfl, rfl, rfl⟩
      exact hbound.trans (keepsRows_beginOn destination _ ⟨connection, 0⟩ text)
    next => exact .refl _

theorem keepsRows_replay
    (destination : Destination σ) (engine : Engine σ) (deferred : List String) :
    engine.KeepsRows (engine.replay destination deferred).2 := by
  unfold replay
  split <;> exact .refl _

theorem keepsRows_endOn
    (destination : Destination σ) (engine : Engine σ) (sentry : Sentry) (text : String) :
    engine.KeepsRows (engine.endOn destination sentry text).2 := by
  unfold endOn
  cases hrun : engine.runOn destination sentry.connection (.statement text) with
  | mk outcome next =>
      have hsink : next.sink = engine.sink := congrArg (fun done => done.2.sink) hrun.symm
      have hkeeps := keepsRows_of_sink hsink
      dsimp only
      split
      · apply KeepsRows.counted
        exact ⟨hkeeps.batchCap, hkeeps.buffers, hkeeps.buffered⟩
      · have hcounted : engine.KeepsRows (Engine.counted (outcome,
            Engine.unbind { next with sink.deferred := [] })).2 :=
          KeepsRows.counted ⟨hkeeps.batchCap, hkeeps.buffers, hkeeps.buffered⟩
        have hreplayed : engine.KeepsRows (andThen (Engine.counted (outcome,
            Engine.unbind { next with sink.deferred := [] }))
              fun state => state.replay destination next.sink.deferred).2 := by
          apply andThen_snd engine.KeepsRows hcounted
          intro state hstate
          rw [hstate] at hcounted
          exact hcounted.trans (keepsRows_replay destination state _)
        exact ⟨hreplayed.batchCap, hreplayed.buffers, hreplayed.buffered⟩

theorem keepsRows_finish (destination : Destination σ) (engine : Engine σ) (text : String) :
    engine.KeepsRows (engine.finish destination text).2 := by
  unfold Engine.finish
  split
  next sentry hsentry => exact keepsRows_endOn destination engine sentry text
  next hsentry => exact keepsRows_runOnce destination (engine.report _ _) text

theorem keepsRows_broadcast (destination : Destination σ) (engine : Engine σ) (text : String) :
    engine.KeepsRows (engine.broadcast destination text).2 := by
  apply KeepsRows.counted
  split
  next sentry hsentry =>
    apply andThen_snd engine.KeepsRows
    · exact .refl _
    · intro next hnext
      have hsink : next.sink = engine.sink := congrArg (fun done => done.2.sink) hnext.symm
      have hkeeps := keepsRows_of_sink hsink
      exact ⟨hkeeps.batchCap, hkeeps.buffers, hkeeps.buffered⟩
  next hsentry => exact .refl _

theorem keepsRows_deliver
    (destination : Destination σ) (engine : Engine σ) (statementClass : StatementClass)
    (text : String) :
    engine.KeepsRows (engine.deliver destination statementClass text).2 := by
  unfold deliver
  split
  · exact .refl _
  · exact keepsRows_begin destination engine text
  · exact keepsRows_finish destination engine text
  · exact keepsRows_broadcast destination engine text
  all_goals exact keepsRows_runOnce destination engine text

/-! ## The bounds along a run -/

theorem rows_ne_nil_of_roleOf
    {dialect : Dialect} {text : String} {insert : Insert}
    (hrole : Classify.roleOf dialect text = .rows insert) : insert.rows ≠ [] := by
  unfold Classify.roleOf Classify.Parsed.role at hrole
  split at hrole
  next => cases hrole
  next parsed hparse =>
    split at hrole
    next => cases hrole
    next =>
      split at hrole
      next found hfound =>
        cases hrole
        unfold Classify.Parsed.toInsert? at hfound
        split at hfound
        next =>
          split at hfound
          next tree htree =>
            obtain ⟨parts, -, hparts⟩ := Option.bind_eq_some_iff.mp hfound
            obtain ⟨-, -, -, -, -, -, -, -, hrows, -⟩ :=
              Sql.InsertTree.toInsert?_eq_some_iff.mp hparts
            exact hrows
          next => exact Sql.rows_ne_nil_of_decompose? hfound
        next => cases hfound
      next => cases hrole

theorem metered_flush
    {cap : ℕ} (hcap : engine.sink.batchCap = cap)
    (hmetered : engine.sink.buffers = [] → engine.sink.Metered cap) :
    (engine.flush destination).2.sink.Metered cap := by
  by_cases hfull : engine.sink.buffers = []
  · have hnothing : engine.flush destination = (.ok (), engine) :=
      if_pos (List.isEmpty_iff.mpr hfull)
    rw [hnothing]
    exact hmetered hfull
  · obtain ⟨n, hsink⟩ := exists_sink_flush destination hfull
    rw [hsink]
    exact Sink.metered_of_empty hcap rfl rfl

def taking (engine : Engine σ) (insert : Insert) : Engine σ :=
  { engine with sink := engine.sink.addInsert insert }.note (.buffered insert)

theorem buffer_eq (destination : Destination σ) (engine : Engine σ) (insert : Insert) :
    engine.buffer destination insert =
      if engine.sink.batchCap ≤
            (Sink.pending insert.target (engine.taking insert).sink.buffers).length ∨
          destination.maxOpen ≤ (engine.taking insert).sink.buffers.length then
        (engine.taking insert).flush destination
      else (.ok (), engine.taking insert) := by
  simp only [buffer, Bool.or_eq_true, decide_eq_true_eq, ge_iff_le]
  rfl

theorem metered_buffer
    {cap : ℕ} (hmetered : engine.sink.Metered cap) {insert : Insert} (hrows : insert.rows ≠ []) :
    (engine.buffer destination insert).2.sink.Metered cap := by
  rw [buffer_eq]
  split
  next hfull =>
    have hcap : (engine.taking insert).sink.batchCap = cap := hmetered.cap_eq
    apply metered_flush hcap
    intro hnone
    have hcount := Sink.rowCount_addRows insert engine.sink.buffers
    have hsome := List.length_pos_iff.mpr hrows
    rw [show Sink.addRows insert engine.sink.buffers = [] from hnone, rowCount_nil] at hcount
    omega
  next hroom =>
    simp only [not_or, not_le, hmetered.cap_eq] at hroom
    exact hmetered.addInsert hrows hroom.1

theorem metered_exec
    {cap : ℕ} (hmetered : engine.sink.Metered cap) (hmany : 2 ≤ destination.maxOpen)
    (text : String) : (engine.exec destination text).2.sink.Metered cap := by
  have hmore : ¬destination.maxOpen ≤ 1 := by omega
  rw [exec_eq]
  have hreported := sink_reportAll engine (Classify.parse destination.dialect text).2
  dsimp only
  generalize engine.reportAll (Classify.parse destination.dialect text).2 = reported at *
  rw [← hreported] at hmetered
  cases hrole : Classify.roleOf destination.dialect text with
  | refused failure => exact hmetered
  | skipped => exact ⟨hmetered.cap_eq, hmetered.sizes, hmetered.counted⟩
  | rows insert =>
      dsimp only
      rw [if_neg hmore]
      exact metered_buffer hmetered (rows_ne_nil_of_roleOf hrole)
  | barrier statementClass =>
      dsimp only
      rw [if_neg hmore]
      have hflush : (reported.flush destination).2.sink.Metered cap :=
        metered_flush hmetered.cap_eq fun _ => hmetered
      apply andThen_snd (fun later : Engine σ => later.sink.Metered cap) hflush
      intro later hlater
      rw [hlater] at hflush
      exact hflush.sameRows (keepsRows_deliver destination later statementClass text)

theorem keepsRows_abandonTransaction (destination : Destination σ) (engine : Engine σ) :
    engine.KeepsRows (engine.abandonTransaction destination) := by
  unfold abandonTransaction
  split <;> exact ⟨rfl, rfl, rfl⟩

theorem keepsRows_unpin (destination : Destination σ) (engine : Engine σ) :
    engine.KeepsRows (engine.unpin destination) := by
  unfold unpin
  split <;> exact ⟨rfl, rfl, rfl⟩

theorem metered_close {cap : ℕ} (hmetered : engine.sink.Metered cap) :
    (engine.close destination).2.sink.Metered cap := by
  have hflush : (engine.flush destination).2.sink.Metered cap :=
    metered_flush hmetered.cap_eq fun _ => hmetered
  unfold close
  generalize engine.flush destination = done at *
  have habandoned := keepsRows_abandonTransaction destination done.2
  have hunpinned := keepsRows_unpin destination
    { done.2.abandonTransaction destination with sink.deferred := [] }
  exact (hflush.sameRows habandoned).sameRows
    ⟨hunpinned.batchCap, hunpinned.buffers, hunpinned.buffered⟩

theorem metered_answer
    {cap : ℕ} (hmetered : engine.sink.Metered cap) (hmany : 2 ≤ destination.maxOpen)
    (call : Call σ) : (engine.answer destination call).2.sink.Metered cap := by
  cases call with
  | exec text => exact metered_exec hmetered hmany text
  | flush => exact metered_flush hmetered.cap_eq fun _ => hmetered
  | close => exact metered_close hmetered
  | meanwhile change => exact hmetered

theorem metered_run
    {cap : ℕ} (hmetered : engine.sink.Metered cap) (hmany : 2 ≤ destination.maxOpen)
    (calls : List (Call σ)) : (engine.run destination calls).sink.Metered cap := by
  induction calls generalizing engine with
  | nil => exact hmetered
  | cons call calls ih => exact ih (metered_answer hmetered hmany call)

end Engine

end SqlPipe
