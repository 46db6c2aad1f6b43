import SqlPipe.Proofs.Engine.Settled

/-!
# Work without rows

Statements move no rows: nothing that is done for them puts rows into a buffer, takes rows out or
sends a batch.  What is known of the rows at one place in a journal is still true when nothing but
statements was run since, whatever has failed.
-/

namespace SqlPipe

/-- The action leaves all rows where they are. -/
def Action.Quiet : Action → Prop
  | .buffered _ | .emptied | .sent _ (.batch _) => False
  | .sent _ (.statement _) | .acquired _ | .started _ | .released _ | .bound _ | .unbound
  | .closed | .reported _ => True

namespace Journal

variable {earlier journal later : Journal}

/-- Only quiet actions stand behind an earlier journal. -/
inductive QuietSince (earlier : Journal) : Journal → Prop
  | here : QuietSince earlier earlier
  | note {journal : Journal} {action : Action} (hquiet : QuietSince earlier journal)
      (haction : action.Quiet) : QuietSince earlier (action :: journal)

theorem QuietSince.trans
    (hquiet : QuietSince earlier journal) (hlater : QuietSince journal later) :
    QuietSince earlier later := by
  induction hlater with
  | here => exact hquiet
  | note _ haction ih => exact ih.note haction

end Journal

namespace Line

variable {σ : Type} {destination : Destination σ}

/-- Nothing but quiet actions was done between two states of a line. -/
def QuietTo (line later : Line σ) : Prop :=
  line.journal.QuietSince later.journal

theorem QuietTo.refl (line : Line σ) : line.QuietTo line :=
  .here

theorem QuietTo.trans
    {line middle later : Line σ} (hquiet : line.QuietTo middle) (hlater : middle.QuietTo later) :
    line.QuietTo later :=
  Journal.QuietSince.trans hquiet hlater

theorem quietTo_note (line : Line σ) {action : Action} (haction : action.Quiet) :
    line.QuietTo (line.note action) :=
  .note .here haction

/-! ## Single actions -/

theorem quietTo_report (line : Line σ) (level : Level) (message : String) :
    line.QuietTo (line.report level message) :=
  line.quietTo_note trivial

theorem quietTo_start (line : Line σ) (connection : Connection) :
    line.QuietTo (line.start connection) :=
  line.quietTo_note trivial

theorem quietTo_release (destination : Destination σ) (line : Line σ) (connection : Connection) :
    line.QuietTo (line.release destination connection) :=
  .note .here trivial

theorem quietTo_acquire (destination : Destination σ) (line : Line σ) :
    line.QuietTo (line.acquire destination).2 := by
  unfold acquire
  split
  · exact .note .here trivial
  · exact .here

theorem quietTo_judge
    (dialect : Dialect) (text : String) (line : Line σ) (outcome : Outcome) :
    line.QuietTo (judge dialect text line outcome).2 := by
  unfold judge
  split
  · exact line.quietTo_report _ _
  · split
    · exact line.quietTo_report _ _
    · exact .refl line

/-! ## Statements -/

theorem quietTo_finish
    (destination : Destination σ) (line : Line σ) (connection : Connection) (text : String) :
    line.QuietTo (line.finish destination connection (.statement text)).2 := by
  have hsent : line.QuietTo ({ line with
      world := (destination.execute connection text line.world).2 }.note
        (.sent connection (.statement text))) := .note .here trivial
  exact hsent.trans (quietTo_judge _ _ _ _)

theorem quietTo_run
    (destination : Destination σ) (line : Line σ) (connection : Connection) (text : String) :
    line.QuietTo (line.run destination connection (.statement text)).2 :=
  (line.quietTo_start connection).trans (quietTo_finish destination _ connection text)

theorem quietTo_runAll
    (destination : Destination σ) (line : Line σ) (connection : Connection)
    (texts : List String) :
    line.QuietTo (line.runAll destination connection texts).2 := by
  induction texts generalizing line with
  | nil => exact .refl line
  | cons text others ih =>
      have hfirst := quietTo_run destination line connection text
      simp only [runAll]
      apply andThen_snd line.QuietTo hfirst
      intro later hlater
      rw [hlater] at hfirst
      exact hfirst.trans (ih later)

theorem quietTo_runOnce (destination : Destination σ) (line : Line σ) (text : String) :
    line.QuietTo (line.runOnce destination (.statement text)).2 := by
  have hacquired := quietTo_acquire destination line
  unfold runOnce
  split
  next failure later hacquire =>
    rw [hacquire] at hacquired
    exact hacquired
  next connection later hacquire =>
    rw [hacquire] at hacquired
    exact (hacquired.trans (quietTo_run destination later connection text)).trans
      (quietTo_release destination _ connection)

/-! ## Statements on several connections -/

theorem quietTo_releaseAll
    (destination : Destination σ) (line : Line σ) (connections : List Connection) :
    line.QuietTo (line.releaseAll destination connections) := by
  induction connections generalizing line with
  | nil => exact .refl line
  | cons connection others ih =>
      exact (quietTo_release destination line connection).trans (ih _)

theorem quietTo_startEach (line : Line σ) (connections : List Connection) :
    line.QuietTo (connections.foldl start line) := by
  induction connections generalizing line with
  | nil => exact .refl line
  | cons connection others ih => exact (line.quietTo_start connection).trans (ih _)

theorem quietTo_acquireMany
    (destination : Destination σ) (held : List Connection) (line : Line σ) (wanted : ℕ) :
    line.QuietTo (acquireMany destination held line wanted).2 := by
  induction wanted generalizing held line with
  | zero => exact .refl line
  | succ wanted ih =>
      have hacquired := quietTo_acquire destination line
      unfold acquireMany
      split
      next connection later hacquire =>
        rw [hacquire] at hacquired
        exact hacquired.trans (ih _ later)
      next failure later hacquire =>
        rw [hacquire] at hacquired
        exact hacquired.trans (quietTo_releaseAll destination later held)

theorem quietTo_runInTurn
    (destination : Destination σ) (texts : List String) (line : Line σ)
    (connections : List Connection) :
    line.QuietTo (runInTurn destination texts line connections).2 := by
  induction connections generalizing line with
  | nil => exact .refl line
  | cons connection others ih =>
      simp only [runInTurn]
      exact (quietTo_runAll destination line connection texts).trans (ih _)

theorem quietTo_finishEach
    (destination : Destination σ) (text : String) (more : Bool) (line : Line σ)
    (lanes : List Lane) : line.QuietTo (finishEach destination text more line lanes).2 := by
  induction lanes generalizing line with
  | nil => exact .refl line
  | cons lane others ih =>
      simp only [finishEach]
      cases lane.outcome with
      | error failure => exact ih line
      | ok =>
          refine (quietTo_finish destination line lane.connection text).trans
            (QuietTo.trans ?_ (ih _))
          split
          · exact quietTo_start _ lane.connection
          · exact .refl _

theorem quietTo_runInStep
    (destination : Destination σ) (texts : List String) (lanes : List Lane) (line : Line σ) :
    line.QuietTo (runInStep destination lanes line texts).2 := by
  induction texts generalizing lanes line with
  | nil => exact .refl line
  | cons text others ih => exact (quietTo_finishEach destination text _ line lanes).trans (ih _ _)

theorem quietTo_runOnHeld
    (destination : Destination σ) (texts : List String) (line : Line σ)
    (connections : List Connection) :
    line.QuietTo (runOnHeld destination texts line connections).2 := by
  unfold runOnHeld
  split
  · exact (line.quietTo_startEach connections).trans (quietTo_runInStep destination texts _ _)
  · exact quietTo_runInTurn destination texts line connections

theorem quietTo_runOnMany
    (destination : Destination σ) (line : Line σ) (texts : List String) (wanted : ℕ) :
    line.QuietTo (line.runOnMany destination texts wanted).2 := by
  have hacquired := quietTo_acquireMany destination [] line wanted
  unfold runOnMany
  split
  next failure later hacquire =>
    rw [hacquire] at hacquired
    exact hacquired
  next connections later hacquire =>
    rw [hacquire] at hacquired
    exact (hacquired.trans (quietTo_runOnHeld destination texts later connections)).trans
      (quietTo_releaseAll destination _ connections)

end Line

namespace Engine

variable {σ : Type} {destination : Destination σ}

/-! ## Statements of an engine -/

theorem quietTo_counted
    {line : Line σ} {done : Outcome × Engine σ} (hdone : line.QuietTo done.2.line) :
    line.QuietTo (counted done).2.line := by
  apply andThen_snd (fun later : Engine σ => line.QuietTo later.line) hdone
  intro later hlater
  rw [hlater] at hdone
  exact hdone

theorem quietTo_report (engine : Engine σ) (level : Level) (message : String) :
    engine.line.QuietTo (engine.report level message).line :=
  engine.line.quietTo_report level message

theorem quietTo_reportAll (engine : Engine σ) (events : List Event) :
    engine.line.QuietTo (engine.reportAll events).line := by
  induction events generalizing engine with
  | nil => exact .refl _
  | cons event others ih => exact (engine.quietTo_report event.level event.message).trans (ih _)

theorem quietTo_runOnce (destination : Destination σ) (engine : Engine σ) (text : String) :
    engine.line.QuietTo (engine.runOnce destination text).2.line := by
  apply quietTo_counted
  split
  · exact Line.quietTo_run destination engine.line _ text
  · exact Line.quietTo_runOnce destination engine.line text

theorem quietTo_beginOn
    (destination : Destination σ) (engine : Engine σ) (sentry : Sentry) (text : String) :
    engine.line.QuietTo (engine.beginOn destination sentry text).2.line := by
  have hrun : engine.line.QuietTo
      (engine.runOn destination sentry.connection (.statement text)).2.line :=
    Line.quietTo_run destination engine.line _ text
  unfold beginOn
  split
  next later hlater =>
    rw [hlater] at hrun
    exact hrun
  next failure later hlater =>
    rw [hlater] at hrun
    split
    · have hunbound : later.line.QuietTo later.unbind.line := later.line.quietTo_note trivial
      exact (hrun.trans hunbound).trans (Line.quietTo_release destination _ _)
    · exact hrun

theorem quietTo_begin (destination : Destination σ) (engine : Engine σ) (text : String) :
    engine.line.QuietTo (engine.begin destination text).2.line := by
  have hacquired := Line.quietTo_acquire destination engine.line
  unfold begin
  split
  next sentry hsentry => exact quietTo_beginOn destination engine sentry text
  next hsentry =>
    split
    next connection line hacquire =>
      rw [hacquire] at hacquired
      have hbound : line.QuietTo (bindTo { engine with line } connection).line :=
        line.quietTo_note trivial
      exact (hacquired.trans hbound).trans (quietTo_beginOn destination _ _ text)
    next failure line hacquire =>
      rw [hacquire] at hacquired
      exact hacquired

theorem quietTo_replay
    (destination : Destination σ) (engine : Engine σ) (deferred : List String) :
    engine.line.QuietTo (engine.replay destination deferred).2.line := by
  unfold replay
  split
  · exact .refl _
  · exact (engine.quietTo_report _ _).trans (Line.quietTo_runOnMany destination _ deferred _)

theorem quietTo_endOn
    (destination : Destination σ) (engine : Engine σ) (sentry : Sentry) (text : String) :
    engine.line.QuietTo (engine.endOn destination sentry text).2.line := by
  have hrun : engine.line.QuietTo
      (engine.runOn destination sentry.connection (.statement text)).2.line :=
    Line.quietTo_run destination engine.line _ text
  unfold endOn
  cases hdone : engine.runOn destination sentry.connection (.statement text) with
  | mk outcome next =>
      rw [hdone] at hrun
      dsimp only
      split
      · exact quietTo_counted hrun
      · have hcounted : engine.line.QuietTo (Engine.counted (outcome,
            Engine.unbind { next with sink.deferred := [] })).2.line :=
          quietTo_counted (hrun.trans (next.line.quietTo_note trivial))
        refine Line.QuietTo.trans ?_ (Line.quietTo_release destination _ _)
        apply andThen_snd (fun later : Engine σ => engine.line.QuietTo later.line) hcounted
        intro later hlater
        rw [hlater] at hcounted
        exact hcounted.trans (quietTo_replay destination later _)

theorem quietTo_finish (destination : Destination σ) (engine : Engine σ) (text : String) :
    engine.line.QuietTo (engine.finish destination text).2.line := by
  unfold finish
  split
  next sentry hsentry => exact quietTo_endOn destination engine sentry text
  next hsentry =>
    exact (engine.quietTo_report _ _).trans (quietTo_runOnce destination _ text)

theorem quietTo_broadcast (destination : Destination σ) (engine : Engine σ) (text : String) :
    engine.line.QuietTo (engine.broadcast destination text).2.line := by
  apply quietTo_counted
  split
  next sentry hsentry =>
    have hrun : engine.line.QuietTo
        (engine.runOn destination sentry.connection (.statement text)).2.line :=
      Line.quietTo_run destination engine.line _ text
    apply andThen_snd (fun later : Engine σ => engine.line.QuietTo later.line) hrun
    intro later hlater
    rw [hlater] at hrun
    exact hrun
  next hsentry => exact Line.quietTo_runOnMany destination engine.line [text] _

theorem quietTo_runPinned (destination : Destination σ) (engine : Engine σ) (text : String) :
    engine.line.QuietTo (engine.runPinned destination text).2.line := by
  have hacquired := Line.quietTo_acquire destination engine.line
  unfold runPinned
  split
  next connection hpinned =>
    exact quietTo_counted (Line.quietTo_run destination engine.line connection text)
  next hpinned =>
    split
    next connection line hacquire =>
      rw [hacquire] at hacquired
      exact quietTo_counted
        (hacquired.trans (Line.quietTo_run destination line connection text))
    next failure line hacquire =>
      rw [hacquire] at hacquired
      exact hacquired

theorem quietTo_deliver
    (destination : Destination σ) (engine : Engine σ) (statementClass : StatementClass)
    (text : String) :
    engine.line.QuietTo (engine.deliver destination statementClass text).2.line := by
  unfold deliver
  split
  · exact .refl _
  · exact quietTo_begin destination engine text
  · exact quietTo_finish destination engine text
  · exact quietTo_broadcast destination engine text
  all_goals exact quietTo_runOnce destination engine text

theorem quietTo_abandonTransaction (destination : Destination σ) (engine : Engine σ) :
    engine.line.QuietTo (engine.abandonTransaction destination).line := by
  unfold abandonTransaction
  split
  · exact .refl _
  · have hunbound : engine.line.QuietTo engine.unbind.line := engine.line.quietTo_note trivial
    exact (hunbound.trans (Line.quietTo_report _ _ _)).trans
      (Line.quietTo_release destination _ _)

theorem quietTo_unpin (destination : Destination σ) (engine : Engine σ) :
    engine.line.QuietTo (engine.unpin destination).line := by
  unfold unpin
  split
  · exact .refl _
  · exact Line.quietTo_release destination engine.line _

end Engine

end SqlPipe
