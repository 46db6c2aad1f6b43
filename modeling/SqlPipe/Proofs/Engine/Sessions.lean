import SqlPipe.Proofs.Engine.Runs
import SqlPipe.Proofs.Engine.Success
import SqlPipe.Proofs.Line.Sessions

/-!
# Uniform sessions

On a destination that keeps its connections, session statements reach every connection alike.  As
long as no call fails, all connections have run the same session statements whenever no transaction
is open, and those are all that came, in order.  During a transaction its connection has run all of
them, and the others have run all but the deferred ones.
-/

namespace SqlPipe

def Call.session? {σ : Type} (dialect : Dialect) : Call σ → Option String
  | .exec text => if Classify.isSession dialect text then some text else none
  | .flush | .close | .meanwhile _ => none

def sessionsIn {σ : Type} (dialect : Dialect) (calls : List (Call σ)) : List String :=
  calls.filterMap (Call.session? dialect)

/-- The call takes a statement or flushes. -/
def Call.IsRequest {σ : Type} : Call σ → Prop
  | .exec _ | .flush => True
  | .close | .meanwhile _ => False

namespace Engine

variable {σ : Type} {destination : Destination σ} {arrived : List Insert}
variable {inventory : Inventory destination} {applied : List String} {engine later : Engine σ}

/-- All connections have run the applied statements, that of a transaction the deferred ones too. -/
def SessionsUniform (inventory : Inventory destination) (applied : List String)
    (engine : Engine σ) : Prop :=
  Uniform inventory applied engine.sink.deferred (engine.sink.sentry.map Sentry.connection)
    engine.line

/-- The sessions stay uniform, and some statements have come. -/
def SessionsGrow (inventory : Inventory destination) (before came : List String)
    (later : Engine σ) : Prop :=
  ∃ applied, later.SessionsUniform inventory applied ∧
    applied ++ later.sink.deferred = before ++ came

/-- Where the sink holds what it held and no session statement was sent, none has come. -/
theorem SessionsUniform.keep
    (huniform : engine.SessionsUniform inventory applied) (hmany : 2 ≤ destination.maxOpen)
    (hsteps : Relation.ReflTransGen (Line.Step destination) engine.line later.line)
    (hsentry : later.sink.sentry.map Sentry.connection =
      engine.sink.sentry.map Sentry.connection)
    (hdeferred : later.sink.deferred = engine.sink.deferred)
    {sent : List (Connection × Message)} (hmessages : later.messages = engine.messages ++ sent)
    (hnone : ∀ connection, sessionsOn destination.dialect connection sent = []) :
    later.SessionsUniform inventory applied := by
  unfold SessionsUniform
  rw [hsentry, hdeferred]
  apply Uniform.keep huniform (by omega) hsteps
  intro connection
  change sessionsOn _ _ later.messages = _
  rw [hmessages, sessionsOn_append, hnone, List.append_nil]
  rfl

theorem SessionsUniform.grow
    (huniform : later.SessionsUniform inventory applied)
    (hdeferred : later.sink.deferred = engine.sink.deferred) :
    later.SessionsGrow inventory (applied ++ engine.sink.deferred) [] :=
  ⟨applied, huniform, by rw [hdeferred, List.append_nil]⟩

/-! ## Statements of other classes -/

theorem SessionsUniform.sentOnce
    (huniform : engine.SessionsUniform inventory applied) (hmany : 2 ≤ destination.maxOpen)
    (hsteps : Relation.ReflTransGen (Line.Step destination) engine.line later.line) {text : String}
    (hsession : Classify.isSession destination.dialect text = false)
    (honce : engine.SentOnce later text) (hsame : engine.SameHold later) :
    later.SessionsUniform inventory applied := by
  obtain ⟨connection, hmessages, -⟩ := honce
  exact huniform.keep hmany hsteps (by rw [hsame.sentry]) hsame.deferred hmessages
    fun _ => sessionsOn_of_not hsession

/-- The connection of a new transaction has run what all others have. -/
theorem SessionsUniform.begin
    (huniform : engine.SessionsUniform inventory applied)
    (hsettled : engine.Settled destination engine.line arrived) (hmany : 2 ≤ destination.maxOpen)
    (hempty : engine.sink.buffers = []) {text : String}
    (hsession : Classify.isSession destination.dialect text = false)
    (hbegin : engine.begin destination text = (.ok (), later)) :
    later.SessionsUniform inventory applied ∧ later.sink.deferred = engine.sink.deferred := by
  have hlater := hsettled.begin hmany hempty text
  rw [hbegin] at hlater
  obtain ⟨connection, depth, hmessages, hserves, hsentry, hdeferred, -⟩ := begin_eq_ok hbegin
  refine ⟨?_, hdeferred⟩
  cases hbefore : engine.sink.sentry with
  | some sentry =>
      obtain rfl := hserves sentry hbefore
      apply huniform.keep hmany hlater.steps _ hdeferred hmessages
      · exact fun _ => sessionsOn_of_not hsession
      · rw [hsentry, hbefore]
        rfl
  | none =>
      have hnone := hsettled.sound.deferred hbefore
      have hkept : Uniform inventory applied [] none later.line := by
        unfold SessionsUniform at huniform
        rw [hbefore, hnone] at huniform
        apply Uniform.keep huniform (by omega) hlater.steps
        intro other
        change sessionsOn _ _ later.messages = _
        rw [hmessages, sessionsOn_append, sessionsOn_of_not hsession, List.append_nil]
        rfl
      have hexists : connection ∈ inventory.existing later.line.world := by
        apply hkept.kept.known (connection, .statement text)
        change _ ∈ later.messages
        simp [hmessages]
      unfold SessionsUniform
      rw [hsentry, hdeferred, hnone]
      exact hkept.hold hexists

/-- The end of a transaction lets all connections run what was deferred. -/
theorem SessionsUniform.endOn
    (huniform : engine.SessionsUniform inventory applied)
    (hsettled : engine.Settled destination engine.line arrived) {sentry : Sentry}
    (hsentry : engine.sink.sentry = some sentry) (hmany : 2 ≤ destination.maxOpen)
    (hempty : engine.sink.buffers = []) {text : String}
    (hsession : Classify.isSession destination.dialect text = false)
    (hend : engine.endOn destination sentry text = (.ok (), later)) :
    later.SessionsGrow inventory (applied ++ engine.sink.deferred) [] := by
  have hlater := hsettled.endOn hsentry hmany hempty text
  rw [hend] at hlater
  obtain ⟨-, ⟨-, hmessages, hkept, hdeferred⟩ | ⟨hfree, hdeferred, sent, hmessages, hcovers⟩⟩ :=
    endOn_eq_ok hsettled hsentry hmany hempty hend
  · refine SessionsUniform.grow ?_ hdeferred
    apply huniform.keep hmany hlater.steps _ hdeferred hmessages
    · exact fun _ => sessionsOn_of_not hsession
    · rw [hkept, hsentry]
      rfl
  · refine ⟨applied ++ engine.sink.deferred, ?_, by rw [hdeferred]⟩
    have hall := huniform
    unfold SessionsUniform at hall ⊢
    rw [hfree, hdeferred]
    rw [hsentry] at hall
    refine Uniform.cover hall (by omega) hlater.steps hcovers ?_ huniform.sessions (fun _ _ => rfl)
    intro connection
    change sessionsOn _ _ later.messages = _
    rw [hmessages, sessionsOn_append, sessionsOn_cons, sessionsOn_of_not hsession,
      List.nil_append]
    rfl

theorem SessionsUniform.finish
    (huniform : engine.SessionsUniform inventory applied)
    (hsettled : engine.Settled destination engine.line arrived) (hmany : 2 ≤ destination.maxOpen)
    (hempty : engine.sink.buffers = []) {text : String}
    (hsession : Classify.isSession destination.dialect text = false)
    (hfinish : engine.finish destination text = (.ok (), later)) :
    later.SessionsGrow inventory (applied ++ engine.sink.deferred) [] := by
  have hlater := hsettled.finish hmany hempty text
  rw [hfinish] at hlater
  rcases finish_eq_ok hfinish with ⟨sentry, hsentry, hend⟩ | ⟨-, honce, hsame⟩
  · exact huniform.endOn hsettled hsentry hmany hempty hsession hend
  · exact SessionsUniform.grow (huniform.sentOnce hmany hlater.steps hsession honce hsame)
      hsame.deferred

/-! ## Session statements -/

theorem SessionsUniform.broadcast
    (huniform : engine.SessionsUniform inventory applied)
    (hsettled : engine.Settled destination engine.line arrived) (hmany : 2 ≤ destination.maxOpen)
    (hempty : engine.sink.buffers = []) {text : String}
    (hsession : Classify.isSession destination.dialect text = true)
    (hbroadcast : engine.broadcast destination text = (.ok (), later)) :
    later.SessionsGrow inventory (applied ++ engine.sink.deferred) [text] := by
  have hlater := hsettled.broadcast hmany hempty text
  rw [hbroadcast] at hlater
  have hall := huniform
  unfold SessionsUniform at hall
  obtain ⟨-, hkept, ⟨sentry, hsentry, hmessages, hdeferred⟩ |
      ⟨hfree, hdeferred, sent, hmessages, hcovers⟩⟩ :=
    broadcast_eq_ok hsettled hmany hempty hbroadcast
  · refine ⟨applied, ?_, by rw [hdeferred, List.append_assoc]⟩
    unfold SessionsUniform
    rw [hkept, hdeferred, hsentry]
    rw [hsentry] at hall
    exact Uniform.defer hall (by omega) hlater.steps hsession hmessages
  · have hnone := hsettled.sound.deferred hfree
    refine ⟨applied ++ [text], ?_, by rw [hdeferred, hnone]; simp⟩
    unfold SessionsUniform
    rw [hkept, hdeferred, hfree, hnone]
    rw [hfree, hnone] at hall
    refine Uniform.cover hall (by omega) hlater.steps hcovers ?_ ?_ (by simp)
    · intro connection
      change sessionsOn _ _ later.messages = _
      rw [hmessages, sessionsOn_append]
      rfl
    · intro other hother
      rwa [List.mem_singleton.mp hother]

/-! ## Runs -/

theorem SessionsUniform.flushed
    (huniform : engine.SessionsUniform inventory applied) (hmany : 2 ≤ destination.maxOpen)
    (hsteps : Relation.ReflTransGen (Line.Step destination) engine.line later.line)
    {batches : List Insert} (hsent : Line.SentBatches engine.line later.line batches)
    (hsentry : later.sink.sentry = engine.sink.sentry)
    (hdeferred : later.sink.deferred = engine.sink.deferred) :
    later.SessionsUniform inventory applied := by
  obtain ⟨sent, hmessages, hbatches⟩ := hsent
  exact huniform.keep hmany hsteps (by rw [hsentry]) hdeferred hmessages
    fun _ => sessionsOn_batches hbatches

/-- A delivery that succeeds brings its statement if it is one of the session. -/
theorem SessionsUniform.deliver
    (huniform : engine.SessionsUniform inventory applied)
    (hsettled : engine.Settled destination engine.line arrived) (hmany : 2 ≤ destination.maxOpen)
    (hempty : engine.sink.buffers = []) {text : String} {statementClass : StatementClass}
    (hrole : Classify.roleOf destination.dialect text = .barrier statementClass)
    (hdeliver : engine.deliver destination statementClass text = (.ok (), later)) :
    later.SessionsGrow inventory (applied ++ engine.sink.deferred)
      (if Classify.isSession destination.dialect text then [text] else []) := by
  have hlater := hsettled.deliver hmany hempty statementClass text
  rw [hdeliver] at hlater
  have hknown := Classify.ne_unknown_of_roleOf hrole
  have hsession : Classify.isSession destination.dialect text =
      (Role.barrier statementClass).isSession := by
    rw [Classify.isSession, hrole]
  unfold Engine.deliver at hdeliver
  split at hdeliver
  · exact absurd rfl hknown
  · rw [hsession]
    obtain ⟨hall, hdeferred⟩ := huniform.begin hsettled hmany hempty hsession hdeliver
    exact hall.grow hdeferred
  · rw [hsession]
    exact huniform.finish hsettled hmany hempty hsession hdeliver
  · rw [hsession]
    exact huniform.broadcast hsettled hmany hempty hsession hdeliver
  all_goals
    rw [hsession]
    obtain ⟨honce, hsame⟩ := runOnce_eq_ok hdeliver
    exact (huniform.sentOnce hmany hlater.steps hsession honce hsame).grow hsame.deferred

theorem SessionsUniform.exec
    (huniform : engine.SessionsUniform inventory applied)
    (hsettled : engine.Settled destination engine.line arrived) (hmany : 2 ≤ destination.maxOpen)
    {text : String} (hexec : engine.exec destination text = (.ok (), later)) :
    later.SessionsGrow inventory (applied ++ engine.sink.deferred)
      (if Classify.isSession destination.dialect text then [text] else []) := by
  have hlater := hsettled.exec text
  rw [hexec] at hlater
  cases hrole : Classify.roleOf destination.dialect text with
  | refused failure =>
      have hfailed := exec_refused engine hrole
      rw [hexec] at hfailed
      exact absurd rfl hfailed
  | skipped =>
      obtain ⟨hmessages, hsame⟩ := exec_skipped_eq_ok hrole hexec
      have hsession : Classify.isSession destination.dialect text = false := by
        rw [Classify.isSession, hrole, Role.isSession]
        simp
      rw [hsession]
      have hnothing : later.messages = engine.messages ++ [] := by rw [hmessages, List.append_nil]
      exact SessionsUniform.grow (huniform.keep hmany hlater.steps (by rw [hsame.sentry])
        hsame.deferred hnothing fun _ => rfl) hsame.deferred
  | rows insert =>
      have hsession : Classify.isSession destination.dialect text = false := by
        rw [Classify.isSession, hrole, Role.isSession]
        simp
      rw [hsession]
      obtain ⟨hsentry, hdeferred, ⟨hmessages, -⟩ | ⟨hsent, -⟩⟩ :=
        exec_rows_eq_ok hmany hrole hexec
      · have hnothing : later.messages = engine.messages ++ [] := by
          rw [hmessages, List.append_nil]
        exact SessionsUniform.grow (huniform.keep hmany hlater.steps (by rw [hsentry])
          hdeferred hnothing fun _ => rfl) hdeferred
      · exact SessionsUniform.grow
          (huniform.flushed hmany hlater.steps hsent hsentry hdeferred) hdeferred
  | barrier statementClass =>
      obtain ⟨flushed, hflushed, hsent, hkept, hdeliver⟩ :=
        exec_barrier_eq_ok hsettled hmany hrole hexec
      have hall := huniform.flushed hmany hflushed.steps hsent hkept.sentry hkept.deferred
      have hgrow := hall.deliver hflushed.here hmany hkept.buffers hrole hdeliver
      rwa [hkept.deferred] at hgrow

theorem SessionsUniform.answer
    (huniform : engine.SessionsUniform inventory applied)
    (hconsistent : engine.Consistent destination arrived) (hmany : 2 ≤ destination.maxOpen)
    {call : Call σ} (hrequest : call.IsRequest)
    (hanswer : engine.answer destination call = (.ok (), later)) :
    later.SessionsGrow inventory (applied ++ engine.sink.deferred)
      (call.session? destination.dialect).toList := by
  cases call with
  | exec text =>
      have hgrow := huniform.exec hconsistent.settled hmany hanswer
      simp only [Call.session?]
      split at hgrow
      next hsession => rwa [if_pos hsession]
      next hsession => rwa [if_neg hsession]
  | flush =>
      have hflush : engine.flush destination = (.ok (), later) := hanswer
      have hlater := hconsistent.settled.flush
      have hflushed := flushedFrom_flush destination engine
      rw [hflush] at hlater hflushed
      exact SessionsUniform.grow (huniform.flushed hmany hlater.steps (sentBatches_flush hflush)
        hflushed.sentry hflushed.deferred) hflushed.deferred
  | close => cases hrequest
  | meanwhile change => cases hrequest

/-- The sessions stay uniform in every run of requests that all succeed. -/
theorem SessionsUniform.run
    (huniform : engine.SessionsUniform inventory applied)
    (hconsistent : engine.Consistent destination arrived) (hmany : 2 ≤ destination.maxOpen)
    {calls : List (Call σ)} (hrequests : ∀ call ∈ calls, call.IsRequest)
    (hsucceeds : engine.Succeeds destination calls) :
    (engine.run destination calls).SessionsGrow inventory (applied ++ engine.sink.deferred)
      (sessionsIn destination.dialect calls) := by
  induction calls generalizing engine applied arrived with
  | nil => exact SessionsUniform.grow huniform rfl
  | cons call calls ih =>
      obtain ⟨hfirst, hothers⟩ := hsucceeds
      obtain ⟨next, hnext, hcame⟩ := huniform.answer hconsistent hmany
        (hrequests call (by simp)) (Prod.ext hfirst rfl)
      obtain ⟨last, hlast, hall⟩ := ih hnext (hconsistent.answer call)
        (fun other hother => hrequests other (by simp [hother])) hothers
      refine ⟨last, hlast, hall.trans ?_⟩
      rw [hcame, List.append_assoc, sessionsIn, sessionsIn, List.filterMap_cons]
      cases call.session? destination.dialect <;> rfl

/-- On a fresh destination that keeps its connections, as long as no request fails: all connections
that exist have run the same session statements, but for the connection of an open transaction.
That one has run all that came, and the others lack the deferred ones.  No statement is deferred
while no transaction is open.  Once the others have run any, all connections exist. -/
theorem run_keeps_sessions_uniform
    (inventory : Inventory destination) (batchCap : ℕ) {world : σ} {calls : List (Call σ)}
    (hmany : 2 ≤ destination.maxOpen)
    (hidle : inventory.idle world = 0) (hexisting : inventory.existing world = ∅)
    (hrequests : ∀ call ∈ calls, call.IsRequest)
    (hsucceeds : (fresh batchCap world).Succeeds destination calls) :
    let engine := (fresh batchCap world).run destination calls
    let existing := inventory.existing engine.line.world
    ∃ applied,
      applied ++ engine.sink.deferred = sessionsIn destination.dialect calls ∧
      (engine.sink.sentry = none → engine.sink.deferred = []) ∧
      (∀ connection ∈ existing,
        (∀ sentry, engine.sink.sentry = some sentry → connection ≠ sentry.connection) →
        sessionsOn destination.dialect connection engine.messages = applied) ∧
      (∀ sentry, engine.sink.sentry = some sentry →
        sessionsOn destination.dialect sentry.connection engine.messages =
          sessionsIn destination.dialect calls) ∧
      (applied ≠ [] → existing.card = destination.maxOpen) := by
  intro engine existing
  have hfresh : (fresh batchCap world).SessionsUniform inventory [] :=
    ⟨Inventory.kept_fresh hidle hexisting, fun _ _ _ => rfl, by simp [fresh, Sink.fresh],
      by simp, by simp [fresh, Sink.fresh]⟩
  obtain ⟨applied, huniform, hall⟩ := hfresh.run
    (consistent_fresh destination batchCap world) hmany hrequests hsucceeds
  have hconsistent : engine.Consistent destination (arrivedBy destination calls) :=
    consistent_run_fresh batchCap world calls
  refine ⟨applied, hall, hconsistent.sound.deferred, ?_, ?_, huniform.full⟩
  · intro connection hexists hother
    apply huniform.others connection hexists
    intro hholder
    obtain ⟨sentry, hsentry, heq⟩ := Option.map_eq_some_iff.mp hholder
    exact hother sentry hsentry heq.symm
  · intro sentry hsentry
    have hholder := huniform.holder sentry.connection (by rw [hsentry]; rfl)
    exact hholder.trans hall

/-- One statement that every connection runs, and one that is deferred. -/
theorem run_keeps_sessions_uniform_in_transaction :
    let destination := Rehearsal.destination .mysql 2 true
    let inventory := Rehearsal.inventory .mysql 2 true
    let start : Engine Rehearsal := fresh 8 (Rehearsal.fresh [] [] [])
    let calls : List (Call Rehearsal) := [.exec "SET a = 1", .exec "BEGIN", .exec "SET b = 2"]
    let engine := start.run destination calls
    start.Succeeds destination calls ∧
      ∃ applied,
        applied ++ engine.sink.deferred = ["SET a = 1", "SET b = 2"] ∧
        (∀ connection ∈ inventory.existing engine.line.world,
          (∀ sentry, engine.sink.sentry = some sentry → connection ≠ sentry.connection) →
          sessionsOn .mysql connection engine.messages = applied) ∧
        (applied ≠ [] → (inventory.existing engine.line.world).card = 2) := by
  intro destination inventory start calls engine
  have hsucceeds : start.Succeeds destination calls := by decide +kernel
  have hrequests : ∀ call ∈ calls, call.IsRequest := by
    simp [calls, Call.IsRequest]
  obtain ⟨applied, hall, -, hothers, -, hfull⟩ :=
    run_keeps_sessions_uniform inventory 8 (by decide) rfl rfl hrequests hsucceeds
  have hcame : sessionsIn destination.dialect calls = ["SET a = 1", "SET b = 2"] := by
    decide +kernel
  exact ⟨hsucceeds, applied, hall.trans hcame, hothers, hfull⟩

end Engine

end SqlPipe
