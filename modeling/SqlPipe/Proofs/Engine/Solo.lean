import SqlPipe.Engine.Rehearsal
import SqlPipe.Proofs.Engine.Runs
import SqlPipe.Proofs.Engine.Success

/-!
# A single connection

A destination of one connection gets a script statement by statement.  What that means is said by
`Solo`, which knows nothing of buffers, transactions and sessions: every statement of a known class
is executed as it stands, on the connection that the first of them checks out.  The engine keeps in
step with it whatever the destination answers, also where checkouts are refused and statements fail.
-/

namespace SqlPipe

def Classify.isKnown (dialect : Dialect) (text : String) : Bool :=
  match (parse dialect text).1 with
  | .ok parsed => parsed.statementClass ≠ .unknown
  | .error _ => false

/-- What the end of an execution means to whoever asked for it. -/
def Dialect.verdict (dialect : Dialect) (text : String) : Outcome → Outcome
  | .ok () => .ok ()
  | .error failure =>
      if dialect.isHarmless failure.message then .ok () else .error (.ofExecution text failure)

/-- A script on its way to a single connection. -/
structure Solo (σ : Type) where
  world : σ
  connection : Option Connection
  /-- The statements that were executed, in order. -/
  sent : List (Connection × String)
  /-- How many of them have succeeded. -/
  succeeded : ℕ

namespace Solo

variable {σ : Type} (destination : Destination σ)

def fresh (world : σ) : Solo σ := ⟨world, none, [], 0⟩

def execute (solo : Solo σ) (connection : Connection) (text : String) : Outcome × Solo σ :=
  let done := destination.execute connection text solo.world
  let outcome := destination.dialect.verdict text done.1
  (outcome, { solo with
    world := done.2
    sent := solo.sent ++ [(connection, text)]
    succeeded := solo.succeeded + if outcome = .ok () then 1 else 0 })

/-- Executes a statement on the connection at hand, or else on one that is checked out for good. -/
def deliver (solo : Solo σ) (text : String) : Outcome × Solo σ :=
  match solo.connection with
  | some connection => solo.execute destination connection text
  | none =>
      match destination.acquire solo.world with
      | (.ok connection, world) =>
          execute destination { solo with world, connection := some connection } connection text
      | (.error failure, world) => (.error failure, { solo with world })

def unpin (solo : Solo σ) : Solo σ :=
  match solo.connection with
  | none => solo
  | some connection =>
      { solo with world := destination.release connection solo.world, connection := none }

def close (solo : Solo σ) : Solo σ :=
  { solo.unpin destination with world := destination.close (solo.unpin destination).world }

def exec (solo : Solo σ) (text : String) : Outcome × Solo σ :=
  match (Classify.parse destination.dialect text).1 with
  | .error failure => (.error failure, solo)
  | .ok parsed =>
      if parsed.statementClass = .unknown then (.ok (), solo) else solo.deliver destination text

def answer (solo : Solo σ) : Call σ → Outcome × Solo σ
  | .exec text => solo.exec destination text
  | .flush => (.ok (), solo)
  | .close => (.ok (), solo.close destination)
  | .meanwhile change => (.ok (), { solo with world := change solo.world })

def run (solo : Solo σ) (calls : List (Call σ)) : Solo σ :=
  calls.foldl (fun solo call => (solo.answer destination call).2) solo

/-! ## Which statements are served -/

def hasConnection (solo : Solo σ) : Bool :=
  solo.connection.isSome || (destination.acquire solo.world).1.isOk

/-- The statement of a call, if its class is known and there is a connection for it. -/
def served? (solo : Solo σ) : Call σ → Option String
  | .exec text =>
      if Classify.isKnown destination.dialect text && solo.hasConnection destination then some text
      else none
  | .flush | .close | .meanwhile _ => none

/-- The statements of known class for which there was a connection when they came, in order. -/
def served (solo : Solo σ) : List (Call σ) → List String
  | [] => []
  | call :: calls =>
      (solo.served? destination call).toList ++ served (solo.answer destination call).2 calls

variable {destination}

theorem exec_of_isKnown
    (solo : Solo σ) {text : String} (hknown : Classify.isKnown destination.dialect text = true) :
    solo.exec destination text = solo.deliver destination text := by
  unfold Classify.isKnown at hknown
  unfold exec
  split at hknown
  next parsed hparse =>
    rw [hparse]
    exact if_neg (of_decide_eq_true hknown)
  next => cases hknown

theorem exec_of_not_isKnown
    (solo : Solo σ) {text : String} (hknown : ¬Classify.isKnown destination.dialect text = true) :
    (solo.exec destination text).2 = solo := by
  unfold Classify.isKnown at hknown
  unfold exec
  split
  next => rfl
  next parsed hparse =>
    rw [hparse] at hknown
    rw [if_pos (by simpa using hknown)]

theorem sent_deliver (solo : Solo σ) (text : String) :
    (solo.deliver destination text).2.sent.map Prod.snd =
      solo.sent.map Prod.snd ++ if solo.hasConnection destination then [text] else [] := by
  unfold deliver hasConnection
  cases hconnection : solo.connection with
  | some connection => simp [execute]
  | none =>
      cases hacquire : destination.acquire solo.world with
      | mk answer world => cases answer <;> simp [execute, Except.isOk, Except.toBool]

@[simp] theorem sent_close (solo : Solo σ) : (solo.close destination).sent = solo.sent := by
  unfold close unpin
  split <;> rfl

theorem sent_answer (solo : Solo σ) (call : Call σ) :
    (solo.answer destination call).2.sent.map Prod.snd =
      solo.sent.map Prod.snd ++ (solo.served? destination call).toList := by
  cases call with
  | exec text =>
      dsimp only [answer, served?]
      by_cases hknown : Classify.isKnown destination.dialect text = true
      · rw [exec_of_isKnown solo hknown, sent_deliver, hknown, Bool.true_and]
        split <;> rfl
      · rw [exec_of_not_isKnown solo hknown, eq_false_of_ne_true hknown]
        simp
  | flush | close | meanwhile => simp [answer, served?]

theorem sent_run (solo : Solo σ) (calls : List (Call σ)) :
    (solo.run destination calls).sent.map Prod.snd =
      solo.sent.map Prod.snd ++ solo.served destination calls := by
  induction calls generalizing solo with
  | nil => simp [run, served]
  | cons call calls ih =>
      have hcalls := ih (solo.answer destination call).2
      rw [sent_answer, List.append_assoc] at hcalls
      exact hcalls

/-! ## One connection for all statements -/

/-- Whatever was executed was executed on the connection at hand. -/
def Faithful (solo : Solo σ) : Prop :=
  ∀ entry ∈ solo.sent, solo.connection = some entry.1

theorem faithful_fresh (world : σ) : (fresh world).Faithful :=
  fun _ hentry => absurd hentry List.not_mem_nil

theorem Faithful.execute
    {solo : Solo σ} (hfaithful : solo.Faithful) {connection : Connection}
    (hconnection : solo.connection = some connection) (text : String) :
    (solo.execute destination connection text).2.Faithful := by
  intro entry hentry
  rcases List.mem_append.mp hentry with hbefore | hnow
  · exact hfaithful entry hbefore
  · rw [List.mem_singleton.mp hnow]
    exact hconnection

theorem Faithful.deliver {solo : Solo σ} (hfaithful : solo.Faithful) (text : String) :
    (solo.deliver destination text).2.Faithful := by
  unfold Solo.deliver
  split
  next connection hconnection => exact hfaithful.execute hconnection text
  next hnone =>
    -- Nothing can have been executed before there was a connection.
    have hnothing (entry) : entry ∉ solo.sent := by
      intro hentry
      rw [hfaithful entry hentry] at hnone
      cases hnone
    split
    next connection world hacquire =>
      have hbound : Faithful { solo with world, connection := some connection } :=
        fun entry hentry => absurd hentry (hnothing entry)
      exact hbound.execute rfl text
    next => exact fun entry hentry => absurd hentry (hnothing entry)

theorem Faithful.answer
    {solo : Solo σ} (hfaithful : solo.Faithful) {call : Call σ} (hopen : call ≠ .close) :
    (solo.answer destination call).2.Faithful := by
  cases call with
  | exec text =>
      dsimp only [Solo.answer]
      by_cases hknown : Classify.isKnown destination.dialect text = true
      · rw [exec_of_isKnown solo hknown]
        exact hfaithful.deliver text
      · rw [exec_of_not_isKnown solo hknown]
        exact hfaithful
  | close => exact absurd rfl hopen
  | flush | meanwhile => exact hfaithful

theorem Faithful.run
    {solo : Solo σ} (hfaithful : solo.Faithful) {calls : List (Call σ)}
    (hopen : .close ∉ calls) : (solo.run destination calls).Faithful := by
  induction calls generalizing solo with
  | nil => exact hfaithful
  | cons call calls ih =>
      have hcall : call ≠ .close := fun hsame => hopen (hsame ▸ List.mem_cons_self)
      exact ih (hfaithful.answer hcall) fun hmem => hopen (List.mem_cons_of_mem call hmem)

end Solo

/-! ## The engine in step -/

namespace Line

variable {σ : Type} {destination : Destination σ}

theorem outcome_judge (dialect : Dialect) (text : String) (line : Line σ) (outcome : Outcome) :
    (judge dialect text line outcome).1 = dialect.verdict text outcome := by
  cases outcome with
  | ok => rfl
  | error failure =>
      unfold judge Dialect.verdict
      dsimp only
      split <;> rfl

theorem outcome_run
    (destination : Destination σ) (line : Line σ) (connection : Connection) (message : Message) :
    (line.run destination connection message).1 =
      destination.dialect.verdict message.text
        (destination.execute connection message.text line.world).1 :=
  outcome_judge _ _ _ _

theorem world_judge (dialect : Dialect) (text : String) (line : Line σ) (outcome : Outcome) :
    (judge dialect text line outcome).2.world = line.world := by
  unfold judge
  split
  · rfl
  · split <;> rfl

@[simp] theorem messages_close (line : Line σ) :
    (line.close destination).journal.messages = line.journal.messages := by
  simp [close, note, Journal.messages_cons, Journal.sentBy?]

end Line

namespace Engine

variable {σ : Type} {destination : Destination σ} {engine : Engine σ} {solo : Solo σ}

@[simp] theorem messages_countExecuted (n : ℕ) (engine : Engine σ) :
    (engine.countExecuted n).messages = engine.messages := rfl

theorem world_reportAll (engine : Engine σ) (events : List Event) :
    (engine.reportAll events).line.world = engine.line.world := by
  induction events generalizing engine with
  | nil => rfl
  | cons event others ih => exact ih (engine.report event.level event.message)

/-- The engine has done what a script on a single connection has done, and nothing waits. -/
structure InStep (engine : Engine σ) (solo : Solo σ) : Prop where
  world : engine.line.world = solo.world
  pinned : engine.sink.pinned = solo.connection
  messages : engine.messages = solo.sent.map fun entry => (entry.1, .statement entry.2)
  executed : engine.sink.stats.executed = solo.succeeded
  buffers : engine.sink.buffers = []
  buffered : engine.sink.buffered = 0
  sentry : engine.sink.sentry = none

theorem inStep_fresh (batchCap : ℕ) (world : σ) :
    (fresh batchCap world).InStep (.fresh world) :=
  ⟨rfl, rfl, rfl, rfl, rfl, rfl, rfl⟩

theorem InStep.flush_eq (hstep : engine.InStep solo) :
    engine.flush destination = (.ok (), engine) := by
  unfold flush
  exact if_pos (List.isEmpty_iff.mpr hstep.buffers)

theorem InStep.reportAll (hstep : engine.InStep solo) (events : List Event) :
    (engine.reportAll events).InStep solo where
  world := (world_reportAll engine events).trans hstep.world
  pinned := by rw [sink_reportAll, hstep.pinned]
  messages := by rw [messages_reportAll, hstep.messages]
  executed := by rw [sink_reportAll, hstep.executed]
  buffers := by rw [sink_reportAll, hstep.buffers]
  buffered := by rw [sink_reportAll, hstep.buffered]
  sentry := by rw [sink_reportAll, hstep.sentry]

theorem InStep.skip (hstep : engine.InStep solo) (text : String) :
    (engine.skip text).InStep solo where
  world := hstep.world
  pinned := hstep.pinned
  messages := by
    unfold Engine.skip
    rw [messages_report]
    exact hstep.messages
  executed := hstep.executed
  buffers := hstep.buffers
  buffered := hstep.buffered
  sentry := hstep.sentry

theorem outcome_runOn
    (destination : Destination σ) (engine : Engine σ) (connection : Connection)
    (message : Message) :
    (engine.runOn destination connection message).1 =
      destination.dialect.verdict message.text
        (destination.execute connection message.text engine.line.world).1 :=
  Line.outcome_run destination engine.line connection message

theorem world_runOn
    (destination : Destination σ) (engine : Engine σ) (connection : Connection) (text : String) :
    (engine.runOn destination connection (.statement text)).2.line.world =
      (destination.execute connection text engine.line.world).2 :=
  Line.world_judge _ _ _ _

theorem InStep.execute (hstep : engine.InStep solo) (connection : Connection) (text : String) :
    let done := counted (engine.runOn destination connection (.statement text))
    done.1 = (solo.execute destination connection text).1 ∧
      done.2.InStep (solo.execute destination connection text).2 := by
  have houtcome := outcome_runOn destination engine connection (.statement text)
  have hworld := world_runOn destination engine connection text
  have hmessages := messages_runOn destination engine connection (.statement text)
  have hsink : (engine.runOn destination connection (.statement text)).2.sink = engine.sink := rfl
  rw [hstep.world] at houtcome hworld
  rw [hstep.messages] at hmessages
  generalize engine.runOn destination connection (.statement text) = done at *
  obtain ⟨outcome, later⟩ := done
  dsimp only [Message.text] at houtcome hworld hmessages hsink
  have hcounted : (counted (outcome, later)).1 = outcome ∧
      (counted (outcome, later)).2 =
        later.countExecuted (if outcome = .ok () then 1 else 0) := by
    cases outcome <;> exact ⟨rfl, rfl⟩
  refine ⟨hcounted.1.trans houtcome, ?_⟩
  rw [hcounted.2]
  exact {
    world := hworld
    pinned := (congrArg Sink.pinned hsink).trans hstep.pinned
    messages := by simpa [Solo.execute] using hmessages
    executed := by
      have hexecuted := (congrArg (·.stats.executed) hsink).trans hstep.executed
      simp [Solo.execute, countExecuted, hexecuted, houtcome]
    buffers := (congrArg Sink.buffers hsink).trans hstep.buffers
    buffered := (congrArg Sink.buffered hsink).trans hstep.buffered
    sentry := (congrArg Sink.sentry hsink).trans hstep.sentry }

theorem InStep.deliver (hstep : engine.InStep solo) (text : String) :
    (engine.runPinned destination text).1 = (solo.deliver destination text).1 ∧
      (engine.runPinned destination text).2.InStep (solo.deliver destination text).2 := by
  unfold Engine.runPinned Solo.deliver
  rw [← hstep.pinned]
  cases hpinned : engine.sink.pinned with
  | some connection => exact hstep.execute connection text
  | none =>
      have hacquire := Line.acquire.eq_def destination engine.line
      rw [hstep.world] at hacquire
      cases hanswer : destination.acquire solo.world with
      | mk answer world =>
          rw [hanswer] at hacquire
          rw [hacquire]
          cases answer with
          | ok connection =>
              have hbound : InStep
                  { engine with
                    line := { engine.line with world }.note (.acquired connection)
                    sink.pinned := some connection }
                  { solo with world, connection := some connection } :=
                { hstep with
                  world := rfl
                  pinned := rfl
                  messages := (Line.messages_acquire hacquire).trans hstep.messages }
              exact hbound.execute connection text
          | error failure => exact ⟨rfl, { hstep with world := rfl, pinned := hpinned }⟩

theorem InStep.exec
    (hstep : engine.InStep solo) (hsingle : destination.maxOpen ≤ 1) (text : String) :
    (engine.exec destination text).1 = (solo.exec destination text).1 ∧
      (engine.exec destination text).2.InStep (solo.exec destination text).2 := by
  have hreported := hstep.reportAll (Classify.parse destination.dialect text).2
  unfold Engine.exec Solo.exec
  cases hparse : Classify.parse destination.dialect text with
  | mk parsed events =>
      rw [hparse] at hreported
      cases parsed with
      | error failure => exact ⟨rfl, hreported⟩
      | ok parsed =>
          dsimp only
          rw [if_pos hsingle]
          split
          next => exact ⟨rfl, hreported.skip text⟩
          next => exact hreported.deliver text

theorem InStep.unpin (hstep : engine.InStep solo) :
    (engine.unpin destination).InStep (solo.unpin destination) := by
  unfold Engine.unpin Solo.unpin
  rw [← hstep.pinned]
  cases hpinned : engine.sink.pinned with
  | none => exact hstep
  | some connection =>
      exact { hstep with
        world := congrArg (destination.release connection) hstep.world
        pinned := rfl
        messages := (Line.messages_release engine.line connection).trans hstep.messages }

theorem InStep.close (hstep : engine.InStep solo) :
    (engine.close destination).1 = .ok () ∧
      (engine.close destination).2.InStep (solo.close destination) := by
  have habandon : engine.abandonTransaction destination = engine := by
    rw [abandonTransaction, hstep.sentry]
  have hclear : InStep { engine with sink.deferred := [] } solo := { hstep with }
  have hfree : (Engine.unpin destination { engine with sink.deferred := [] }).InStep
      (solo.unpin destination) := hclear.unpin
  have hclose := Engine.close.eq_def destination engine
  rw [hstep.flush_eq] at hclose
  dsimp only at hclose
  rw [habandon] at hclose
  rw [hclose]
  exact ⟨rfl, { hfree with
    world := congrArg destination.close hfree.world
    messages := (Line.messages_close _).trans hfree.messages }⟩

theorem InStep.answer
    (hstep : engine.InStep solo) (hsingle : destination.maxOpen ≤ 1) (call : Call σ) :
    (engine.answer destination call).1 = (solo.answer destination call).1 ∧
      (engine.answer destination call).2.InStep (solo.answer destination call).2 := by
  cases call with
  | exec text => exact hstep.exec hsingle text
  | flush =>
      have hflush : engine.answer destination .flush = (.ok (), engine) := hstep.flush_eq
      rw [hflush]
      exact ⟨rfl, hstep⟩
  | close => exact hstep.close
  | meanwhile change => exact ⟨rfl, { hstep with world := congrArg change hstep.world }⟩

theorem InStep.run
    (hstep : engine.InStep solo) (hsingle : destination.maxOpen ≤ 1) (calls : List (Call σ)) :
    (engine.run destination calls).InStep (solo.run destination calls) := by
  induction calls generalizing engine solo with
  | nil => exact hstep
  | cons call calls ih => exact ih (hstep.answer hsingle call).2

/-- On a single connection an engine executes one statement after the other: those of known class
for which there was a connection, as they stand, in order and all on the same one, whatever fails on
the way.  Nothing waits, no transaction is open, a flush does nothing, and what is counted as
executed has succeeded. -/
theorem run_single_connection
    (hsingle : destination.maxOpen ≤ 1) (batchCap : ℕ) (world : σ) (calls : List (Call σ))
    (hopen : .close ∉ calls) :
    let engine := (fresh batchCap world).run destination calls
    let solo := (Solo.fresh world).run destination calls
    (∃ connection, engine.messages =
      ((Solo.fresh world).served destination calls).map fun text =>
        (connection, .statement text)) ∧
    engine.sink.stats.executed = solo.succeeded ∧
    engine.sink.buffered = 0 ∧
    engine.sink.inTransaction = false ∧
    engine.flush destination = (.ok (), engine) ∧
    ∀ call, (engine.answer destination call).1 = (solo.answer destination call).1 := by
  intro engine solo
  have hstep : engine.InStep solo := (inStep_fresh batchCap world).run hsingle calls
  have hsent : solo.sent.map Prod.snd = (Solo.fresh world).served destination calls :=
    Solo.sent_run (Solo.fresh world) calls
  have hfaithful : solo.Faithful := (Solo.faithful_fresh world).run hopen
  refine ⟨⟨solo.connection.getD 0, ?_⟩, hstep.executed, hstep.buffered, ?_, hstep.flush_eq,
    fun call => (hstep.answer hsingle call).1⟩
  · rw [hstep.messages, ← hsent, List.map_map]
    refine List.map_congr_left fun entry hentry => ?_
    rw [hfaithful entry hentry]
    rfl
  · rw [Sink.inTransaction, hstep.sentry]
    rfl

/-- A statement whose checkout is refused is never sent, and one that fails does not keep the next
one from the connection. -/
theorem run_single_connection_past_failures :
    let destination := Rehearsal.destination .mysql 1 false
    let cue : Cue := ⟨"VALUES", none, none, some (.database "no table"), false⟩
    let world := Rehearsal.fresh [1] [cue] []
    let calls : List (Call Rehearsal) := [.exec "BEGIN", .exec "START TRANSACTION",
      .exec "INSERT INTO t VALUES (1)", .flush, .exec "nothing", .meanwhile Rehearsal.cancel,
      .exec "SET NAMES utf8mb4", .exec "COMMIT"]
    let engine := (fresh 0 world).run destination calls
    (Solo.fresh world).served destination calls =
        ["START TRANSACTION", "INSERT INTO t VALUES (1)", "SET NAMES utf8mb4", "COMMIT"] ∧
      (∃ connection, engine.messages =
        ((Solo.fresh world).served destination calls).map fun text =>
          (connection, .statement text)) ∧
      engine.sink.stats.executed = 3 := by
  intro destination cue world calls engine
  have hserved : (Solo.fresh world).served destination calls =
      ["START TRANSACTION", "INSERT INTO t VALUES (1)", "SET NAMES utf8mb4", "COMMIT"] := by
    decide +kernel
  have hsucceeded : ((Solo.fresh world).run destination calls).succeeded = 3 := by
    decide +kernel
  have hsingle : destination.maxOpen ≤ 1 := by decide
  obtain ⟨hmessages, hexecuted, -⟩ :=
    run_single_connection hsingle 0 world calls (by simp [calls])
  exact ⟨hserved, hmessages, hexecuted.trans hsucceeded⟩

end Engine

end SqlPipe
