import SqlPipe.Proofs.Engine.Barriers

/-!
# Where statements come from

An engine sends no statement that it was not asked to take.  Session statements make this a matter
of more than one request: a deferred one is sent again when its transaction has ended, so that the
invariant has to hold of the deferred statements as well.  It holds whatever fails.
-/

namespace SqlPipe

namespace Journal

/-- Every statement that was sent is one of the texts. -/
def StatesOnly (texts : List String) (journal : Journal) : Prop :=
  ∀ text ∈ journal.statements, text ∈ texts

variable {texts : List String} {journal later : Journal}

theorem StatesOnly.of_messages
    (honly : journal.StatesOnly texts) (hmessages : later.messages = journal.messages) :
    later.StatesOnly texts := by
  intro text hmem
  apply honly
  rwa [statements, hmessages] at hmem

theorem StatesOnly.of_sent
    (honly : journal.StatesOnly texts) {connection : Connection} {message : Message}
    (hmessages : later.messages = journal.messages ++ [(connection, message)])
    (hmessage : ∀ text, message = .statement text → text ∈ texts) : later.StatesOnly texts := by
  intro text hmem
  rw [statements, hmessages, List.filterMap_append, List.mem_append] at hmem
  rcases hmem with hold | hnew
  · exact honly text hold
  · cases message with
    | statement sent =>
        have htext : text = sent := by simpa [Message.statement?] using hnew
        rw [htext]
        exact hmessage sent rfl
    | batch insert => simp [Message.statement?] at hnew

end Journal

namespace Line

variable {σ : Type} {destination : Destination σ} {line : Line σ} {texts : List String}

/-! ## Statements on a line -/

theorem statesOnly_acquire
    (honly : line.journal.StatesOnly texts) :
    (line.acquire destination).2.journal.StatesOnly texts :=
  honly.of_messages (messages_acquire rfl)

theorem statesOnly_finish
    (honly : line.journal.StatesOnly texts) (connection : Connection) {message : Message}
    (hmessage : ∀ text, message = .statement text → text ∈ texts) :
    (line.finish destination connection message).2.journal.StatesOnly texts :=
  honly.of_sent (messages_finish line connection message) hmessage

theorem statesOnly_run
    (honly : line.journal.StatesOnly texts) (connection : Connection) {message : Message}
    (hmessage : ∀ text, message = .statement text → text ∈ texts) :
    (line.run destination connection message).2.journal.StatesOnly texts :=
  honly.of_sent (messages_run destination line connection message) hmessage

theorem statesOnly_runAll
    (honly : line.journal.StatesOnly texts) (connection : Connection) {asked : List String}
    (hasked : asked ⊆ texts) :
    (line.runAll destination connection asked).2.journal.StatesOnly texts := by
  induction asked generalizing line with
  | nil => exact honly
  | cons text others ih =>
      obtain ⟨htext, hothers⟩ := List.cons_subset.mp hasked
      have hfirst : (line.run destination connection
          (.statement text)).2.journal.StatesOnly texts :=
        statesOnly_run honly connection (by rintro _ ⟨⟩; exact htext)
      simp only [runAll]
      apply andThen_snd (fun later : Line σ => later.journal.StatesOnly texts) hfirst
      intro later hlater
      rw [hlater] at hfirst
      exact ih hfirst hothers

theorem statesOnly_runOnce
    (honly : line.journal.StatesOnly texts) {message : Message}
    (hmessage : ∀ text, message = .statement text → text ∈ texts) :
    (line.runOnce destination message).2.journal.StatesOnly texts := by
  have hacquired : (line.acquire destination).2.journal.StatesOnly texts :=
    statesOnly_acquire honly
  unfold runOnce
  split
  next failure later hacquire =>
    rw [hacquire] at hacquired
    exact hacquired
  next connection later hacquire =>
    rw [hacquire] at hacquired
    have hrun : (later.run destination connection message).2.journal.StatesOnly texts :=
      statesOnly_run hacquired connection hmessage
    exact hrun.of_messages (messages_release _ connection)

theorem statesOnly_runInTurn
    (honly : line.journal.StatesOnly texts) {asked : List String} (hasked : asked ⊆ texts)
    (connections : List Connection) :
    (runInTurn destination asked line connections).2.journal.StatesOnly texts := by
  induction connections generalizing line with
  | nil => exact honly
  | cons connection others ih =>
      have hfirst : (line.runAll destination connection asked).2.journal.StatesOnly texts :=
        statesOnly_runAll honly connection hasked
      simp only [runInTurn]
      exact ih hfirst

theorem statesOnly_finishEach
    (honly : line.journal.StatesOnly texts) {text : String} (htext : text ∈ texts)
    (more : Bool) (lanes : List Lane) :
    (finishEach destination text more line lanes).2.journal.StatesOnly texts := by
  induction lanes generalizing line with
  | nil => exact honly
  | cons lane others ih =>
      simp only [finishEach]
      cases lane.outcome with
      | error failure => exact ih honly
      | ok =>
          have hfirst : (line.finish destination lane.connection
              (.statement text)).2.journal.StatesOnly texts :=
            statesOnly_finish honly lane.connection (by rintro _ ⟨⟩; exact htext)
          apply ih
          split
          · exact hfirst.of_messages (messages_start _ _)
          · exact hfirst

theorem statesOnly_runInStep
    (honly : line.journal.StatesOnly texts) {asked : List String} (hasked : asked ⊆ texts)
    (lanes : List Lane) :
    (runInStep destination lanes line asked).2.journal.StatesOnly texts := by
  induction asked generalizing line lanes with
  | nil => exact honly
  | cons text others ih =>
      obtain ⟨htext, hothers⟩ := List.cons_subset.mp hasked
      have hfirst : (finishEach destination text (!others.isEmpty) line lanes).2.journal.StatesOnly
          texts := statesOnly_finishEach honly htext (!others.isEmpty) lanes
      exact ih hfirst hothers _

theorem statesOnly_runOnMany
    (honly : line.journal.StatesOnly texts) {asked : List String} (hasked : asked ⊆ texts)
    (wanted : ℕ) :
    (line.runOnMany destination asked wanted).2.journal.StatesOnly texts := by
  unfold runOnMany
  cases hacquire : acquireMany destination [] line wanted with
  | mk outcome middle =>
      have hmiddle := honly.of_messages (messages_acquireMany hacquire)
      cases outcome with
      | error failure => exact hmiddle
      | ok connections =>
          have hrun : (runOnHeld destination asked middle connections).2.journal.StatesOnly
              texts := by
            unfold runOnHeld
            split
            · have hstarted := hmiddle.of_messages (messages_startEach middle connections)
              exact statesOnly_runInStep hstarted hasked _
            · exact statesOnly_runInTurn hmiddle hasked connections
          exact hrun.of_messages (messages_releaseAll _ connections)

/-! ## Batches state nothing -/

theorem statesOnly_runEach
    (honly : line.journal.StatesOnly texts) (batches : List Insert) :
    (line.runEach destination batches).2.journal.StatesOnly texts := by
  induction batches generalizing line with
  | nil => exact honly
  | cons batch others ih =>
      have hfirst : (line.runOnce destination (.batch batch)).2.journal.StatesOnly texts :=
        statesOnly_runOnce honly (by rintro _ ⟨⟩)
      simp only [runEach]
      exact ih hfirst

theorem statesOnly_startBatches
    (honly : line.journal.StatesOnly texts) (batches : List Insert) :
    (line.startBatches destination batches).2.2.journal.StatesOnly texts := by
  induction batches generalizing line with
  | nil => exact honly
  | cons batch others ih =>
      have hacquired : (line.acquire destination).2.journal.StatesOnly texts :=
        statesOnly_acquire honly
      unfold startBatches
      split
      next connection later hacquire =>
        rw [hacquire] at hacquired
        exact ih (hacquired.of_messages (messages_start later connection))
      next failure later hacquire =>
        rw [hacquire] at hacquired
        exact ih hacquired

theorem statesOnly_finishBatches
    (honly : line.journal.StatesOnly texts) (started : List (Connection × Insert)) :
    (line.finishBatches destination started).2.journal.StatesOnly texts := by
  induction started generalizing line with
  | nil => exact honly
  | cons first others ih =>
      obtain ⟨connection, batch⟩ := first
      have hfirst : (line.finish destination connection
          (.batch batch)).2.journal.StatesOnly texts :=
        statesOnly_finish honly connection (by rintro _ ⟨⟩)
      simp only [finishBatches]
      exact ih (hfirst.of_messages (messages_release _ connection))

theorem statesOnly_runBatches
    (honly : line.journal.StatesOnly texts) (batches : List Insert) :
    (line.runBatches destination batches).2.journal.StatesOnly texts := by
  have hout : (line.batchOutcomes destination batches).2.journal.StatesOnly texts := by
    unfold batchOutcomes
    split
    · exact statesOnly_finishBatches (statesOnly_startBatches honly batches) _
    · exact statesOnly_runEach honly batches
  unfold runBatches
  split
  · exact honly
  · dsimp only
    split
    · exact hout
    · split <;> exact hout

end Line

namespace Engine

variable {σ : Type} {destination : Destination σ} {texts : List String} {engine : Engine σ}

/-! ## Statements of an engine -/

/-- Every statement that the engine has sent, or will send when a transaction has ended, is one of
the texts. -/
structure Originates (texts : List String) (engine : Engine σ) : Prop where
  sent : engine.line.journal.StatesOnly texts
  deferred : engine.sink.deferred ⊆ texts

theorem originates_fresh (batchCap : ℕ) (world : σ) : (fresh batchCap world).Originates [] where
  sent := by
    intro text hmem
    simp [fresh, Journal.statements, Journal.messages] at hmem
  deferred := List.Subset.refl _

theorem Originates.mono
    {more : List String} (horiginates : engine.Originates texts) (hmore : texts ⊆ more) :
    engine.Originates more :=
  ⟨fun text hmem => hmore (horiginates.sent text hmem),
    List.Subset.trans horiginates.deferred hmore⟩

theorem Originates.report
    (horiginates : engine.Originates texts) (level : Level) (message : String) :
    (engine.report level message).Originates texts :=
  ⟨horiginates.sent.of_messages (messages_report engine level message), horiginates.deferred⟩

theorem Originates.reportAll
    (horiginates : engine.Originates texts) (events : List Event) :
    (engine.reportAll events).Originates texts := by
  refine ⟨horiginates.sent.of_messages (messages_reportAll engine events), ?_⟩
  rw [sink_reportAll]
  exact horiginates.deferred

theorem Originates.release
    (horiginates : engine.Originates texts) (connection : Connection) :
    (engine.release destination connection).Originates texts :=
  ⟨horiginates.sent.of_messages (messages_release destination engine connection),
    horiginates.deferred⟩

theorem Originates.unbind (horiginates : engine.Originates texts) :
    engine.unbind.Originates texts :=
  ⟨horiginates.sent.of_messages (messages_unbind engine), horiginates.deferred⟩

theorem Originates.counted
    {done : Outcome × Engine σ} (hdone : done.2.Originates texts) :
    (counted done).2.Originates texts := by
  apply andThen_snd (Originates texts) hdone
  intro state hstate
  rw [hstate] at hdone
  exact ⟨hdone.sent, hdone.deferred⟩

theorem Originates.runOn
    (horiginates : engine.Originates texts) (connection : Connection) {message : Message}
    (hmessage : ∀ text, message = .statement text → text ∈ texts) :
    (engine.runOn destination connection message).2.Originates texts :=
  ⟨Line.statesOnly_run horiginates.sent connection hmessage, horiginates.deferred⟩

theorem Originates.flushOnSentry
    (horiginates : engine.Originates texts) (connection : Connection) (batches : List Insert) :
    (engine.flushOnSentry destination connection batches).2.Originates texts := by
  induction batches generalizing engine with
  | nil => exact horiginates
  | cons batch others ih =>
      have hfirst : (engine.runOn destination connection (.batch batch)).2.Originates texts :=
        horiginates.runOn connection (by rintro _ ⟨⟩)
      simp only [Engine.flushOnSentry]
      apply andThen_snd (Originates texts) hfirst
      intro state hstate
      rw [hstate] at hfirst
      exact ih ⟨hfirst.sent, hfirst.deferred⟩

theorem Originates.flush (horiginates : engine.Originates texts) :
    (engine.flush destination).2.Originates texts := by
  have hemptied : engine.emptied.Originates texts :=
    ⟨horiginates.sent.of_messages (messages_emptied engine), horiginates.deferred⟩
  unfold Engine.flush
  dsimp only
  split
  · exact horiginates
  · split
    next sentry hsentry => exact hemptied.flushOnSentry _ _
    next hsentry =>
      have hsent : (engine.emptied.after (engine.emptied.line.runBatches destination
          engine.sink.buffers)).2.Originates texts :=
        ⟨Line.statesOnly_runBatches hemptied.sent _, hemptied.deferred⟩
      apply andThen_snd (Originates texts) hsent
      intro state hstate
      rw [hstate] at hsent
      exact ⟨hsent.sent, hsent.deferred⟩

theorem Originates.buffer (horiginates : engine.Originates texts) (insert : Insert) :
    (engine.buffer destination insert).2.Originates texts := by
  have hadded : (note { engine with sink := engine.sink.addInsert insert }
      (.buffered insert)).Originates texts :=
    ⟨horiginates.sent.of_messages (messages_note_buffered _ insert), horiginates.deferred⟩
  unfold Engine.buffer
  dsimp only
  split
  · exact hadded.flush
  · exact hadded

theorem Originates.runOnce
    (horiginates : engine.Originates texts) {text : String} (htext : text ∈ texts) :
    (engine.runOnce destination text).2.Originates texts := by
  have hmessage : ∀ other, Message.statement text = .statement other → other ∈ texts := by
    rintro _ ⟨⟩
    exact htext
  apply Originates.counted
  split
  next sentry hsentry => exact horiginates.runOn sentry.connection hmessage
  next hsentry => exact ⟨Line.statesOnly_runOnce horiginates.sent hmessage, horiginates.deferred⟩

theorem Originates.beginOn
    (horiginates : engine.Originates texts) (sentry : Sentry) {text : String}
    (htext : text ∈ texts) : (engine.beginOn destination sentry text).2.Originates texts := by
  have hrun : (engine.runOn destination sentry.connection
      (.statement text)).2.Originates texts :=
    horiginates.runOn sentry.connection (by rintro _ ⟨⟩; exact htext)
  unfold Engine.beginOn
  split
  next next hdone =>
    rw [hdone] at hrun
    exact ⟨hrun.sent, hrun.deferred⟩
  next failure next hdone =>
    rw [hdone] at hrun
    split
    · exact hrun.unbind.release sentry.connection
    · exact hrun

theorem Originates.begin
    (horiginates : engine.Originates texts) {text : String} (htext : text ∈ texts) :
    (engine.begin destination text).2.Originates texts := by
  have hacquired : (engine.line.acquire destination).2.journal.StatesOnly texts :=
    Line.statesOnly_acquire horiginates.sent
  unfold Engine.begin
  split
  next sentry hsentry => exact horiginates.beginOn sentry htext
  next hsentry =>
    split
    next connection line hacquire =>
      rw [hacquire] at hacquired
      have hbound : (bindTo { engine with line } connection).Originates texts :=
        ⟨hacquired.of_messages (messages_bindTo _ connection), horiginates.deferred⟩
      exact hbound.beginOn _ htext
    next failure line hacquire =>
      rw [hacquire] at hacquired
      exact ⟨hacquired, horiginates.deferred⟩

theorem Originates.replay
    (horiginates : engine.Originates texts) {deferred : List String}
    (hdeferred : deferred ⊆ texts) :
    (engine.replay destination deferred).2.Originates texts := by
  unfold Engine.replay
  split
  · exact horiginates
  · have hreported := horiginates.report .debug ("Replaying " ++ toString deferred.length ++
      " session statements after transaction end")
    exact ⟨Line.statesOnly_runOnMany hreported.sent hdeferred _, hreported.deferred⟩

theorem Originates.endOn
    (horiginates : engine.Originates texts) (sentry : Sentry) {text : String}
    (htext : text ∈ texts) : (engine.endOn destination sentry text).2.Originates texts := by
  have hrun : (engine.runOn destination sentry.connection
      (.statement text)).2.Originates texts :=
    horiginates.runOn sentry.connection (by rintro _ ⟨⟩; exact htext)
  unfold Engine.endOn
  cases hdone : engine.runOn destination sentry.connection (.statement text) with
  | mk outcome next =>
      rw [hdone] at hrun
      dsimp only
      split
      · exact Originates.counted ⟨hrun.sent, hrun.deferred⟩
      · have hcleared : Originates texts { next with sink.deferred := [] } :=
          ⟨hrun.sent, List.nil_subset _⟩
        have hcounted : (Engine.counted (outcome,
            Engine.unbind { next with sink.deferred := [] })).2.Originates texts :=
          hcleared.unbind.counted
        apply Originates.release
        apply andThen_snd (Originates texts) hcounted
        intro state hstate
        rw [hstate] at hcounted
        exact hcounted.replay hrun.deferred

theorem Originates.finish
    (horiginates : engine.Originates texts) {text : String} (htext : text ∈ texts) :
    (engine.finish destination text).2.Originates texts := by
  unfold Engine.finish
  split
  next sentry hsentry => exact horiginates.endOn sentry htext
  next hsentry => exact (horiginates.report _ _).runOnce htext

theorem Originates.broadcast
    (horiginates : engine.Originates texts) {text : String} (htext : text ∈ texts) :
    (engine.broadcast destination text).2.Originates texts := by
  apply Originates.counted
  split
  next sentry hsentry =>
    have hrun : (engine.runOn destination sentry.connection
        (.statement text)).2.Originates texts :=
      horiginates.runOn sentry.connection (by rintro _ ⟨⟩; exact htext)
    apply andThen_snd (Originates texts) hrun
    intro state hstate
    rw [hstate] at hrun
    refine ⟨hrun.sent, ?_⟩
    exact List.append_subset.mpr ⟨hrun.deferred, List.cons_subset.mpr ⟨htext, List.nil_subset _⟩⟩
  next hsentry =>
    have hasked : [text] ⊆ texts := List.cons_subset.mpr ⟨htext, List.nil_subset _⟩
    exact ⟨Line.statesOnly_runOnMany horiginates.sent hasked _, horiginates.deferred⟩

theorem Originates.runPinned
    (horiginates : engine.Originates texts) {text : String} (htext : text ∈ texts) :
    (engine.runPinned destination text).2.Originates texts := by
  have hmessage : ∀ other, Message.statement text = .statement other → other ∈ texts := by
    rintro _ ⟨⟩
    exact htext
  have hacquired : (engine.line.acquire destination).2.journal.StatesOnly texts :=
    Line.statesOnly_acquire horiginates.sent
  unfold Engine.runPinned
  split
  next connection hpinned => exact (horiginates.runOn connection hmessage).counted
  next hpinned =>
    split
    next connection line hacquire =>
      rw [hacquire] at hacquired
      have hheld : Originates texts { engine with line, sink.pinned := some connection } :=
        ⟨hacquired, horiginates.deferred⟩
      exact (hheld.runOn connection hmessage).counted
    next failure line hacquire =>
      rw [hacquire] at hacquired
      exact ⟨hacquired, horiginates.deferred⟩

theorem Originates.deliver
    (horiginates : engine.Originates texts) (statementClass : StatementClass) {text : String}
    (htext : text ∈ texts) :
    (engine.deliver destination statementClass text).2.Originates texts := by
  unfold Engine.deliver
  split
  · exact horiginates
  · exact horiginates.begin htext
  · exact horiginates.finish htext
  · exact horiginates.broadcast htext
  all_goals exact horiginates.runOnce htext

theorem Originates.exec
    (horiginates : engine.Originates texts) {text : String} (htext : text ∈ texts) :
    (engine.exec destination text).2.Originates texts := by
  have hreported := horiginates.reportAll (Classify.parse destination.dialect text).2
  rw [exec_eq]
  cases Classify.roleOf destination.dialect text with
  | refused failure => exact hreported
  | skipped =>
      have hskipped := hreported.report .trace ("Skipped statement: " ++ excerpt text)
      exact ⟨hskipped.sent, hskipped.deferred⟩
  | rows insert =>
      dsimp only
      split
      · exact hreported.runPinned htext
      · exact hreported.buffer insert
  | barrier statementClass =>
      dsimp only
      split
      · exact hreported.runPinned htext
      · have hflushed : (Engine.flush destination
            (engine.reportAll (Classify.parse destination.dialect text).2)).2.Originates texts :=
          hreported.flush
        apply andThen_snd (Originates texts) hflushed
        intro state hstate
        rw [hstate] at hflushed
        exact hflushed.deliver statementClass htext

theorem Originates.close (horiginates : engine.Originates texts) :
    (engine.close destination).2.Originates texts := by
  have hflushed : (engine.flush destination).2.Originates texts := horiginates.flush
  unfold Engine.close
  cases hdone : engine.flush destination with
  | mk outcome flushed =>
      rw [hdone] at hflushed
      obtain ⟨habandoned, -⟩ := abandonTransaction_keeps destination flushed
      obtain ⟨hunpinned, -⟩ := unpin_keeps destination
        { flushed.abandonTransaction destination with sink.deferred := [] }
      have hbare := (hflushed.sent.of_messages habandoned).of_messages hunpinned
      refine ⟨hbare.of_messages ?_, ?_⟩
      · simp [Line.close, Line.note, Journal.messages_cons, Journal.sentBy?]
      · have hdeferred (engine : Engine σ) :
            (engine.unpin destination).sink.deferred = engine.sink.deferred := by
          unfold Engine.unpin
          split <;> rfl
        dsimp only
        rw [hdeferred]
        exact List.nil_subset _

/-! ## Statements of a run -/

def askedBy? : Call σ → Option String
  | .exec text => some text
  | .flush | .close | .meanwhile _ => none

theorem arrivedBy_eq (destination : Destination σ) (calls : List (Call σ)) :
    arrivedBy destination calls = (calls.filterMap askedBy?).flatMap destination.arrival := by
  induction calls with
  | nil => rfl
  | cons call calls ih =>
      rw [arrivedBy, List.flatMap_cons, ← arrivedBy, ih]
      cases call <;> simp [arrivalOf, List.filterMap_cons, askedBy?]

theorem Originates.answer
    (horiginates : engine.Originates texts) (call : Call σ) :
    (engine.answer destination call).2.Originates (texts ++ (askedBy? call).toList) := by
  have hmore := horiginates.mono (List.subset_append_left texts (askedBy? call).toList)
  cases call with
  | exec text => exact hmore.exec (List.mem_append_right _ (List.mem_singleton_self text))
  | flush => exact hmore.flush
  | close => exact hmore.close
  | meanwhile change => exact ⟨hmore.sent, hmore.deferred⟩

/-- Whatever fails in a run, every statement that was sent in it is one that it was asked for. -/
theorem Originates.run
    (horiginates : engine.Originates texts) (calls : List (Call σ)) :
    (engine.run destination calls).Originates (texts ++ calls.filterMap askedBy?) := by
  induction calls generalizing engine texts with
  | nil => simpa using horiginates
  | cons call calls ih =>
      have hanswer : (engine.answer destination call).2.Originates
          (texts ++ (askedBy? call).toList) := horiginates.answer call
      have hrest := ih hanswer
      rw [List.append_assoc] at hrest
      have hasked : (call :: calls).filterMap askedBy? =
          (askedBy? call).toList ++ calls.filterMap askedBy? := by
        cases hcall : askedBy? call <;> simp [hcall]
      rw [hasked]
      exact hrest

end Engine

end SqlPipe
