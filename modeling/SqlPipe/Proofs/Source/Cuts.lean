import SqlPipe.Proofs.Engine.Origins
import SqlPipe.Proofs.Engine.RowOrder
import SqlPipe.Proofs.Script.ReadAhead

/-!
# Cut streams

A pipe routes statements until one of them fails, cancellation is seen before one of them, or
reading fails.  From then on it is as if the script had ended there: the engine is the one that
answered the calls for the routed statements and no others, so that even closing it sends nothing of
the rest.

Cancellation may be requested at any time.  While rows only wait in buffers, no operation of the
destination happens in which its state could change, so the pipe is considered amid interludes, in
which the destination changes on its own.  The pipe itself is the one amid interludes that change
nothing.
-/

namespace SqlPipe

/-- What happens to a destination while a pipe runs, apart from the work of the pipe. -/
structure Interludes (σ : Type) where
  /-- While the statement at a place is read. -/
  before : ℕ → σ → σ
  /-- Between the look for a cancellation and the sending of the statement at a place. -/
  behind : ℕ → σ → σ

def Interludes.still {σ : Type} : Interludes σ := ⟨fun _ => id, fun _ => id⟩

namespace Engine

variable {σ : Type}

def amid (engine : Engine σ) (change : σ → σ) : Engine σ :=
  { engine with line.world := change engine.line.world }

end Engine

namespace Interludes

variable {σ : Type} (interludes : Interludes σ)

def calls : ℕ → List String → List (Call σ)
  | _, [] => []
  | place, text :: texts =>
      .meanwhile (interludes.before place) :: .meanwhile (interludes.behind place) ::
        .exec text :: calls (place + 1) texts

theorem askedBy?_calls (place : ℕ) (texts : List String) :
    (interludes.calls place texts).filterMap Engine.askedBy? = texts := by
  induction texts generalizing place with
  | nil => rfl
  | cons text texts ih =>
      simp [calls, List.filterMap_cons, Engine.askedBy?, ih]

end Interludes

namespace Source

variable {σ : Type} (destination : Destination σ) (interludes : Interludes σ)

def pipeStatementsAmid (failure : Option Failure) :
    ℕ → Engine σ → List String → Outcome × Engine σ
  | place, engine, [] =>
      let engine := engine.amid (interludes.before place)
      match failure with
      | some failure => (.error failure, engine)
      | none => engine.flush destination
  | place, engine, text :: texts =>
      let engine := engine.amid (interludes.before place)
      if engine.line.cancelled destination then (.error .cancelled, engine)
      else
        andThen ((engine.amid (interludes.behind place)).exec destination text) fun engine =>
          pipeStatementsAmid failure (place + 1) engine texts

def pipeAmid (source : Source) (engine : Engine σ) : Outcome × Source × Engine σ :=
  match source with
  | script _ (some stream) =>
      let (texts, failure) := Script.readAll (.empty destination.dialect) stream
      let (outcome, engine) :=
        pipeStatementsAmid destination interludes failure 0 engine texts
      (outcome, source.close, engine)
  | source => source.pipe destination engine

theorem pipeStatementsAmid_still
    (failure : Option Failure) (place : ℕ) (engine : Engine σ) (texts : List String) :
    pipeStatementsAmid destination .still failure place engine texts =
      pipeStatements destination failure engine texts := by
  induction texts generalizing place engine with
  | nil => rfl
  | cons text texts ih =>
      simp only [pipeStatementsAmid, ih]
      rfl

/-- The pipe is the one amid interludes in which nothing happens. -/
theorem pipe_eq_pipeAmid (source : Source) (engine : Engine σ) :
    source.pipe destination engine = source.pipeAmid destination .still engine := by
  cases source with
  | database address => rfl
  | script description stream =>
      cases stream with
      | none => rfl
      | some stream => simp only [pipe, pipeAmid, pipeStatementsAmid_still]

/-- No cancellation is seen before any of the statements, and none of them fails. -/
def Passes : ℕ → Engine σ → List String → Prop
  | _, _, [] => True
  | place, engine, text :: texts =>
      let engine := engine.amid (interludes.before place)
      let done := (engine.amid (interludes.behind place)).exec destination text
      engine.line.cancelled destination = false ∧ done.1 = .ok () ∧
        Passes (place + 1) done.2 texts

/-- The result of a pipe that has routed some statements and not the others, and the engine after
it. -/
inductive Ends (failure : Option Failure) (place : ℕ) (start : Engine σ) :
    List String → List String → Outcome × Engine σ → Prop
  | cancelled {routed left : List String} {text : String} {engine : Engine σ}
      (hpasses : Passes destination interludes place start routed)
      (hengine : engine = (start.run destination (interludes.calls place routed)).amid
        (interludes.before (place + routed.length)))
      (hseen : engine.line.cancelled destination = true) :
      Ends failure place start routed (text :: left) (.error .cancelled, engine)
  | failed {routed left : List String} {text : String} {cause : Failure} {engine : Engine σ}
      (hpasses : Passes destination interludes place start routed)
      (hengine : engine = (start.run destination (interludes.calls place routed)).amid
        (interludes.before (place + routed.length)))
      (hunseen : engine.line.cancelled destination = false)
      (hcause : ((engine.amid (interludes.behind (place + routed.length))).exec destination
        text).1 = .error cause) :
      Ends failure place start (routed ++ [text]) left
        (.error cause, start.run destination (interludes.calls place (routed ++ [text])))
  | unread {routed left : List String} {cause : Failure} {engine : Engine σ}
      (hpasses : Passes destination interludes place start routed)
      (hengine : engine = (start.run destination (interludes.calls place routed)).amid
        (interludes.before (place + routed.length)))
      (hcause : failure = some cause) :
      Ends failure place start routed left (.error cause, engine)
  | flushed {routed : List String} {engine : Engine σ}
      (hpasses : Passes destination interludes place start routed)
      (hengine : engine = (start.run destination (interludes.calls place routed)).amid
        (interludes.before (place + routed.length)))
      (hread : failure = none) :
      Ends failure place start routed [] (engine.flush destination)

variable {destination interludes}

/-- A statement that passes leaves the rest of the pipe to end as it would alone. -/
theorem Ends.cons
    {failure : Option Failure} {place : ℕ} {start : Engine σ} {text : String}
    {routed left : List String} {ending : Outcome × Engine σ}
    (hunseen : (start.amid (interludes.before place)).line.cancelled destination = false)
    (hdone : (((start.amid (interludes.before place)).amid (interludes.behind place)).exec
      destination text).1 = .ok ())
    (hends : Ends destination interludes failure (place + 1)
      (((start.amid (interludes.before place)).amid (interludes.behind place)).exec
        destination text).2 routed left ending) :
    Ends destination interludes failure place start (text :: routed) left ending := by
  have hplace (routed : List String) :
      place + 1 + routed.length = place + (text :: routed).length := by
    rw [List.length_cons]
    omega
  cases hends with
  | cancelled hpasses hengine hseen =>
      rw [hplace] at hengine
      exact .cancelled ⟨hunseen, hdone, hpasses⟩ hengine hseen
  | @failed passed _ _ _ _ hpasses hengine huncut hcause =>
      rw [hplace] at hengine hcause
      have hmore : Passes destination interludes place start (text :: passed) :=
        ⟨hunseen, hdone, hpasses⟩
      exact .failed hmore hengine huncut hcause
  | unread hpasses hengine hcause =>
      rw [hplace] at hengine
      exact .unread ⟨hunseen, hdone, hpasses⟩ hengine hcause
  | flushed hpasses hengine hread =>
      rw [hplace] at hengine
      exact .flushed ⟨hunseen, hdone, hpasses⟩ hengine hread

theorem Ends.append
    {failure : Option Failure} {place : ℕ} {start : Engine σ} {routed left unread : List String}
    {ending : Outcome × Engine σ}
    (hends : Ends destination interludes failure place start routed left ending)
    (hcomplete : failure = none → unread = []) :
    Ends destination interludes failure place start routed (left ++ unread) ending := by
  cases hends with
  | cancelled hpasses hengine hseen => exact .cancelled hpasses hengine hseen
  | failed hpasses hengine hunseen hcause => exact .failed hpasses hengine hunseen hcause
  | unread hpasses hengine hcause => exact .unread hpasses hengine hcause
  | flushed hpasses hengine hread =>
      rw [hcomplete hread]
      exact .flushed hpasses hengine hread

theorem exists_ends
    (destination : Destination σ) (interludes : Interludes σ) (failure : Option Failure) (place : ℕ)
    (start : Engine σ) (texts : List String) :
    ∃ routed left, routed ++ left = texts ∧
      Ends destination interludes failure place start routed left
        (pipeStatementsAmid destination interludes failure place start texts) := by
  induction texts generalizing place start with
  | nil =>
      refine ⟨[], [], rfl, ?_⟩
      unfold pipeStatementsAmid
      cases hfailure : failure with
      | none => exact .flushed trivial rfl rfl
      | some cause => exact .unread trivial rfl rfl
  | cons text texts ih =>
      unfold pipeStatementsAmid
      dsimp only
      by_cases hseen : (start.amid (interludes.before place)).line.cancelled destination = true
      · refine ⟨[], text :: texts, rfl, ?_⟩
        rw [if_pos hseen]
        exact .cancelled trivial rfl hseen
      · have hunseen : (start.amid (interludes.before place)).line.cancelled destination =
            false := by simpa using hseen
        rw [if_neg hseen]
        rcases hdone : ((start.amid (interludes.before place)).amid
          (interludes.behind place)).exec destination text with ⟨_ | _, engine⟩
        · refine ⟨[text], texts, rfl, ?_⟩
          have hengine : engine = start.run destination (interludes.calls place ([] ++ [text])) :=
            (congrArg Prod.snd hdone).symm
          have hnone : Passes destination interludes place start [] := trivial
          rw [hengine]
          exact .failed hnone rfl hunseen (congrArg Prod.fst hdone)
        · obtain ⟨routed, left, rfl, hends⟩ := ih (place + 1) engine
          refine ⟨text :: routed, left, rfl, ?_⟩
          apply Ends.cons hunseen
          · rw [hdone]
          · rw [hdone]
            exact hends

/-- The engine after a pipe has answered the calls for what was routed and for nothing else. -/
theorem Ends.exists_run
    {failure : Option Failure} {place : ℕ} {start : Engine σ} {routed left : List String}
    {ending : Outcome × Engine σ}
    (hends : Ends destination interludes failure place start routed left ending) :
    ∃ calls, ending.2 = start.run destination calls ∧
      calls.filterMap Engine.askedBy? = routed := by
  have hasked (change : σ → σ) (others : List (Call σ))
      (hothers : others.filterMap Engine.askedBy? = []) :
      (interludes.calls place routed ++ .meanwhile change :: others).filterMap
        Engine.askedBy? = routed := by
    rw [List.filterMap_append, interludes.askedBy?_calls, List.filterMap_cons_none rfl, hothers,
      List.append_nil]
  cases hends with
  | cancelled hpasses hengine hseen =>
      refine ⟨_, ?_, hasked (interludes.before (place + routed.length)) [] rfl⟩
      rw [hengine, Engine.run_append]
      rfl
  | failed hpasses hengine hunseen hcause =>
      exact ⟨_, rfl, interludes.askedBy?_calls place _⟩
  | unread hpasses hengine hcause =>
      refine ⟨_, ?_, hasked (interludes.before (place + routed.length)) [] rfl⟩
      rw [hengine, Engine.run_append]
      rfl
  | flushed hpasses hengine hread =>
      refine ⟨_, ?_, hasked (interludes.before (place + routed.length)) [.flush] rfl⟩
      rw [hengine, Engine.run_append]
      rfl

/-- Failure and cancellation cut the stream.  Whatever happens meanwhile (the plain pipe is the one
in which nothing does), a pipe routes an initial segment of its script, and ends with the first
failure or cancellation that it meets or with the result of the last flush.  When the source and the
sink have been closed, every statement that was ever sent is one of those that were routed, and for
each target the rows that were sent are rows of routed statements, in their order. -/
theorem pipe_cuts_stream
    (destination : Destination σ) (interludes : Interludes σ) (last : σ → σ) (batchCap : ℕ)
    (world : σ) (description : String) (stream : List Script.Delivery) :
    let start := Engine.fresh batchCap world
    let piped := pipeAmid destination interludes (.script description (some stream)) start
    let closed := ((piped.2.2.amid last).close destination).2
    let journal := closed.line.journal
    (∀ source engine, pipe destination source engine =
        source.pipeAmid destination .still engine) ∧
      piped.2.1.close = .script description none ∧
      ∃ routed left,
        routed ++ left = Script.statements destination.dialect (Script.delivered stream) ∧
        Ends destination interludes (Script.failuresBeforeEnd stream).head? 0 start routed left
          (piped.1, piped.2.2) ∧
        journal.StatesOnly routed ∧
        ∀ target, (journal.sentRows target).Sublist
          (rowsFor target (routed.flatMap destination.arrival)) := by
  intro start piped closed journal
  refine ⟨pipe_eq_pipeAmid destination, rfl, ?_⟩
  obtain ⟨-, hinitial, hcomplete, hfailure⟩ :=
    Script.foresees_readAll destination.dialect stream
  obtain ⟨unread, hscript⟩ := hinitial
  obtain ⟨routed, left, htexts, hends⟩ :=
    exists_ends destination interludes (Script.readAll (.empty destination.dialect) stream).2 0
      start (Script.readAll (.empty destination.dialect) stream).1
  have hpiped : (piped.1, piped.2.2) =
      pipeStatementsAmid destination interludes
        (Script.readAll (.empty destination.dialect) stream).2 0 start
        (Script.readAll (.empty destination.dialect) stream).1 := rfl
  rw [← hpiped] at hends
  -- the pipe with its closing is one run of the engine, so what holds of runs holds of it
  obtain ⟨calls, hrun, hcalls⟩ := hends.exists_run
  have hclosed : closed = start.run destination (calls ++ [.meanwhile last, .close]) := by
    rw [Engine.run_append, ← hrun]
    rfl
  have hasked : (calls ++ [Call.meanwhile last, .close]).filterMap Engine.askedBy? = routed := by
    rw [List.filterMap_append, hcalls]
    exact List.append_nil routed
  refine ⟨routed, left ++ unread, ?_, ?_, ?_, ?_⟩
  · rw [← List.append_assoc, htexts]
    exact hscript
  · -- without a failed read nothing is left unread
    rw [hfailure] at hends hcomplete
    apply hends.append
    intro hnone
    have hall := hcomplete hnone
    rw [hall] at hscript
    exact List.append_right_eq_self.mp hscript
  · have horiginates : (start.run destination (calls ++ [.meanwhile last, .close])).Originates
        ([] ++ (calls ++ [Call.meanwhile last, .close]).filterMap Engine.askedBy?) :=
      (Engine.originates_fresh batchCap world).run _
    rw [← hclosed, List.nil_append, hasked] at horiginates
    exact horiginates.sent
  · intro target
    have hconsistent : closed.Consistent destination (routed.flatMap destination.arrival) := by
      rw [hclosed, ← hasked, ← Engine.arrivedBy_eq]
      exact Engine.consistent_run_fresh batchCap world _
    obtain ⟨outgoing, turn, htold⟩ := hconsistent.told
    have hsublist := (hconsistent.orderly.dispatches_sublist_arrivals target).map Prod.fst
    rw [Journal.map_fst_dispatches, Journal.map_fst_arrivals, htold] at hsublist
    exact hsublist

end Source

end SqlPipe
