import SqlPipe.Proofs.Journal.Rows
import SqlPipe.Proofs.Line.Steps

/-!
# What succeeds is sent

Work on a line that ends well has sent everything it was asked to send.  The lemmas below say for
each operation which messages are behind those that were sent before.
-/

namespace SqlPipe

def Message.statement? : Message → Option String
  | .statement text => some text
  | .batch _ => none

theorem andThen_eq_ok
    {α : Type} {done : Outcome × α} {next : α → Outcome × α} {later : α} :
    andThen done next = (.ok (), later) ↔
      ∃ state, done = (.ok (), state) ∧ next state = (.ok (), later) := by
  obtain ⟨outcome, state⟩ := done
  cases outcome <;> simp [andThen]

theorem firstFailure_eq_ok {outcomes : List Outcome} :
    firstFailure outcomes = .ok () ↔ ∀ outcome ∈ outcomes, outcome = .ok () := by
  induction outcomes with
  | nil => simp [firstFailure]
  | cons outcome others ih => cases outcome <;> simp [firstFailure, ih]

namespace Line

variable {σ : Type} {destination : Destination σ} {line later : Line σ}

/-! ## Single actions -/

@[simp] theorem messages_report (line : Line σ) (level : Level) (message : String) :
    (line.report level message).journal.messages = line.journal.messages := by
  simp [report, note, Journal.messages_cons, Journal.sentBy?]

@[simp] theorem messages_start (line : Line σ) (connection : Connection) :
    (line.start connection).journal.messages = line.journal.messages := by
  simp [start, note, Journal.messages_cons, Journal.sentBy?]

@[simp] theorem messages_release (line : Line σ) (connection : Connection) :
    (line.release destination connection).journal.messages = line.journal.messages := by
  simp [release, note, Journal.messages_cons, Journal.sentBy?]

theorem messages_acquire
    {outcome : Except Failure Connection} (hacquire : line.acquire destination = (outcome, later)) :
    later.journal.messages = line.journal.messages := by
  unfold acquire at hacquire
  split at hacquire
  all_goals
    obtain ⟨-, rfl⟩ := Prod.mk.inj hacquire
    simp [note, Journal.messages_cons, Journal.sentBy?]

@[simp] theorem messages_judge
    (dialect : Dialect) (text : String) (line : Line σ) (outcome : Outcome) :
    (judge dialect text line outcome).2.journal.messages = line.journal.messages := by
  unfold judge
  split
  · simp
  · split <;> simp

@[simp] theorem messages_finish
    (line : Line σ) (connection : Connection) (message : Message) :
    (line.finish destination connection message).2.journal.messages =
      line.journal.messages ++ [(connection, message)] := by
  simp [finish, note, Journal.messages_cons, Journal.sentBy?]

@[simp] theorem messages_run
    (destination : Destination σ) (line : Line σ) (connection : Connection) (message : Message) :
    (line.run destination connection message).2.journal.messages =
      line.journal.messages ++ [(connection, message)] := by
  simp [run]

@[simp] theorem messages_releaseAll (line : Line σ) (connections : List Connection) :
    (line.releaseAll destination connections).journal.messages = line.journal.messages := by
  induction connections generalizing line with
  | nil => rfl
  | cons connection others ih =>
      exact (ih (line.release destination connection)).trans (messages_release line connection)

@[simp] theorem messages_startEach (line : Line σ) (connections : List Connection) :
    (connections.foldl start line).journal.messages = line.journal.messages := by
  induction connections generalizing line with
  | nil => rfl
  | cons connection others ih =>
      exact (ih (line.start connection)).trans (messages_start line connection)

/-! ## Statements -/

theorem messages_runAll
    {connection : Connection} {texts : List String}
    (hrun : line.runAll destination connection texts = (.ok (), later)) :
    later.journal.messages =
      line.journal.messages ++ texts.map fun text => (connection, .statement text) := by
  induction texts generalizing line with
  | nil =>
      obtain ⟨-, rfl⟩ := Prod.mk.inj hrun
      simp
  | cons text others ih =>
      obtain ⟨next, hfirst, hothers⟩ := andThen_eq_ok.mp hrun
      have hnext : next.journal.messages =
          line.journal.messages ++ [(connection, .statement text)] := by
        have hsent := messages_run destination line connection (.statement text)
        rwa [hfirst] at hsent
      rw [ih hothers, hnext, List.map_cons, List.append_assoc, List.singleton_append]

theorem messages_runOnce
    {message : Message} (hrun : line.runOnce destination message = (.ok (), later)) :
    ∃ connection,
      later.journal.messages = line.journal.messages ++ [(connection, message)] := by
  unfold runOnce at hrun
  split at hrun
  next => cases (Prod.mk.inj hrun).1
  next connection next hacquire =>
    obtain rfl : (next.run destination connection message).2.release destination connection =
        later := congrArg Prod.snd hrun
    refine ⟨connection, ?_⟩
    rw [messages_release, messages_run, messages_acquire hacquire]

theorem messages_acquireMany
    {held : List Connection} {wanted : ℕ} {outcome : Except Failure (List Connection)}
    (hacquire : acquireMany destination held line wanted = (outcome, later)) :
    later.journal.messages = line.journal.messages := by
  induction wanted generalizing held line with
  | zero =>
      obtain ⟨-, rfl⟩ := Prod.mk.inj hacquire
      rfl
  | succ wanted ih =>
      unfold acquireMany at hacquire
      split at hacquire
      next connection next hone => rw [ih hacquire, messages_acquire hone]
      next failure next hone =>
        obtain ⟨-, rfl⟩ := Prod.mk.inj hacquire
        rw [messages_releaseAll, messages_acquire hone]

/-- Statements on several connections, in the order in which they are sent there. -/
def spread (overlaps : Bool) (texts : List String) (connections : List Connection) :
    List (Connection × Message) :=
  if overlaps then
    texts.flatMap fun text => connections.map fun connection => (connection, .statement text)
  else
    connections.flatMap fun connection => texts.map fun text => (connection, .statement text)

theorem messages_runInTurn
    {texts : List String} {connections : List Connection}
    (hok : ∀ outcome ∈ (runInTurn destination texts line connections).1, outcome = .ok ()) :
    (runInTurn destination texts line connections).2.journal.messages =
      line.journal.messages ++ spread false texts connections := by
  induction connections generalizing line with
  | nil => simp [runInTurn, spread]
  | cons connection others ih =>
      simp only [runInTurn, List.forall_mem_cons] at hok ⊢
      rw [ih hok.2, messages_runAll (Prod.ext hok.1 rfl)]
      simp [spread]

/-- Lanes that have not failed after a statement had not failed before it and have sent it. -/
theorem messages_finishEach
    {text : String} {more : Bool} {lanes : List Lane}
    (hok : ∀ lane ∈ (finishEach destination text more line lanes).1, lane.outcome = .ok ()) :
    (∀ lane ∈ lanes, lane.outcome = .ok ()) ∧
      (finishEach destination text more line lanes).2.journal.messages =
        line.journal.messages ++ lanes.map fun lane => (lane.connection, .statement text) := by
  induction lanes generalizing line with
  | nil => simp [finishEach]
  | cons lane others ih =>
      cases hlane : lane.outcome with
      | error failure =>
          simp only [finishEach, hlane, List.forall_mem_cons] at hok
          cases hok.1
      | ok =>
          simp only [finishEach, hlane, List.forall_mem_cons] at hok ⊢
          obtain ⟨hothers, hmessages⟩ := ih hok.2
          refine ⟨⟨trivial, hothers⟩, ?_⟩
          rw [hmessages]
          split <;> simp

theorem messages_runInStep
    {texts : List String} {lanes : List Lane}
    (hok : ∀ outcome ∈ (runInStep destination lanes line texts).1, outcome = .ok ()) :
    (∀ lane ∈ lanes, lane.outcome = .ok ()) ∧
      (runInStep destination lanes line texts).2.journal.messages =
        line.journal.messages ++ spread true texts (lanes.map Lane.connection) := by
  induction texts generalizing line lanes with
  | nil => simpa [runInStep, spread] using hok
  | cons text others ih =>
      obtain ⟨hstep, hmessages⟩ := ih hok
      obtain ⟨hlanes, hfirst⟩ := messages_finishEach hstep
      refine ⟨hlanes, ?_⟩
      rw [runInStep, hmessages, hfirst, map_connection_finishEach]
      simp [spread, Function.comp_def]

theorem messages_runOnHeld
    {texts : List String} {connections : List Connection}
    (hok : ∀ outcome ∈ (runOnHeld destination texts line connections).1, outcome = .ok ()) :
    (runOnHeld destination texts line connections).2.journal.messages =
      line.journal.messages ++ spread destination.overlaps texts connections := by
  unfold runOnHeld at hok ⊢
  split at hok
  next hstep =>
    rw [if_pos hstep]
    rw [Bool.and_eq_true] at hstep
    rw [(messages_runInStep hok).2, messages_startEach, hstep.1]
    simp [Function.comp_def]
  next hturn =>
    rw [if_neg hturn, messages_runInTurn hok]
    cases hoverlaps : destination.overlaps with
    | false => rfl
    | true =>
        have htexts : texts = [] := by simpa [hoverlaps] using hturn
        simp [spread, htexts]

theorem messages_runOnMany
    {texts : List String} {wanted : ℕ}
    (hrun : line.runOnMany destination texts wanted = (.ok (), later)) :
    ∃ connections middle,
      acquireMany destination [] line wanted = (.ok connections, middle) ∧
      later = (runOnHeld destination texts middle connections).2.releaseAll destination
        connections ∧
      later.journal.messages =
        line.journal.messages ++ spread destination.overlaps texts connections := by
  unfold runOnMany at hrun
  split at hrun
  next => cases (Prod.mk.inj hrun).1
  next connections middle hacquire =>
    have houtcome : firstFailure
        (runOnHeld destination texts middle connections).1 = .ok () := congrArg Prod.fst hrun
    obtain rfl : (runOnHeld destination texts middle connections).2.releaseAll destination
        connections = later := congrArg Prod.snd hrun
    refine ⟨connections, middle, hacquire, rfl, ?_⟩
    rw [messages_releaseAll, messages_runOnHeld (firstFailure_eq_ok.mp houtcome),
      messages_acquireMany hacquire]

theorem spread_singleton (overlaps : Bool) (text : String) (connections : List Connection) :
    spread overlaps [text] connections =
      connections.map fun connection => (connection, .statement text) := by
  cases overlaps <;> simp [spread, List.map_eq_flatMap]

theorem statement_of_mem_spread
    {overlaps : Bool} {texts : List String} {connections : List Connection}
    {sent : Connection × Message} (hmem : sent ∈ spread overlaps texts connections) :
    ∃ text ∈ texts, sent.2 = .statement text := by
  unfold spread at hmem
  split at hmem
  · obtain ⟨text, htext, hmem⟩ := List.mem_flatMap.mp hmem
    obtain ⟨connection, -, rfl⟩ := List.mem_map.mp hmem
    exact ⟨text, htext, rfl⟩
  · obtain ⟨connection, -, hmem⟩ := List.mem_flatMap.mp hmem
    obtain ⟨text, htext, rfl⟩ := List.mem_map.mp hmem
    exact ⟨text, htext, rfl⟩

/-- At some moment between the two lines, exactly these connections were checked out. -/
def CheckedOut (destination : Destination σ) (origin later : Line σ) (held : Multiset Connection) :
    Prop :=
  ∃ middle,
    Relation.ReflTransGen (Step destination) origin middle ∧
      middle.journal.ledger.held = held ∧
      Relation.ReflTransGen (Step destination) middle later

/-- Statements were sent on as many connections as there may be, but for the connections that were
checked out already.  Where there was nothing to send, nothing had to be checked out. -/
def Covers (destination : Destination σ) (origin later : Line σ) (own : Multiset Connection)
    (texts : List String) (sent : List (Connection × Message)) : Prop :=
  texts = [] ∧ sent = [] ∨
    ∃ connections : List Connection,
      connections.length + own.card = destination.maxOpen ∧
        CheckedOut destination origin later (connections + own) ∧
        sent = spread destination.overlaps texts connections

theorem Covers.extend
    {origin first last later : Line σ} {own : Multiset Connection} {texts : List String}
    {sent : List (Connection × Message)}
    (hbefore : Relation.ReflTransGen (Step destination) origin first)
    (hcovers : Covers destination first last own texts sent)
    (hafter : Relation.ReflTransGen (Step destination) last later) :
    Covers destination origin later own texts sent := by
  rcases hcovers with hnone | ⟨connections, hlength, ⟨middle, hto, hheld, hfrom⟩, hsent⟩
  · exact Or.inl hnone
  · exact Or.inr ⟨connections, hlength,
      ⟨middle, hbefore.trans hto, hheld, hfrom.trans hafter⟩, hsent⟩

theorem Covers.statement_of_mem
    {origin : Line σ} {own : Multiset Connection} {texts : List String}
    {sent : List (Connection × Message)}
    (hcovers : Covers destination origin later own texts sent) :
    ∀ message ∈ sent, ∃ text, message.2 = .statement text := by
  rcases hcovers with ⟨-, rfl⟩ | ⟨connections, -, -, rfl⟩
  · intro message hmem
    cases hmem
  · intro message hmem
    obtain ⟨text, -, htext⟩ := statement_of_mem_spread hmem
    exact ⟨text, htext⟩

theorem Covers.first
    {origin : Line σ} {own : Multiset Connection} {text : String}
    {sent : List (Connection × Message)}
    (hcovers : Covers destination origin later own [text] sent)
    (hroom : own.card < destination.maxOpen) :
    ∃ connection rest, sent = (connection, .statement text) :: rest := by
  rcases hcovers with ⟨hnone, -⟩ | ⟨connections, hlength, -, rfl⟩
  · cases hnone
  · rw [spread_singleton]
    cases connections with
    | nil =>
        rw [List.length_nil, Nat.zero_add] at hlength
        exact absurd hlength hroom.ne
    | cons connection others => exact ⟨connection, _, rfl⟩

/-- Statements that have run on all further connections cover the destination. -/
theorem LeadsTo.covers
    {origin : Line σ} {ledger : Ledger} (hleads : LeadsTo destination origin ledger line)
    (hsentry : ledger.sentry = none) (hwaiting : ledger.waiting = []) {wanted : ℕ}
    (hroom : ledger.held.card + wanted = destination.maxOpen) {texts : List String}
    (hrun : line.runOnMany destination texts wanted = (.ok (), later)) :
    ∃ sent, later.journal.messages = line.journal.messages ++ sent ∧
      Covers destination line later ledger.held texts sent := by
  obtain ⟨connections, middle, hacquire, rfl, hmessages⟩ := messages_runOnMany hrun
  have hhere : LeadsTo destination line ledger line := ⟨.refl, hleads.ledger_eq⟩
  have hheld := hhere.acquireMany_nil hsentry (hroom.le.trans (Nat.le_max_right 1 _))
  rw [hacquire] at hheld
  obtain ⟨hlength, hmiddle⟩ := hheld
  have hthere : LeadsTo destination middle
      (ledger.holding (connections + ledger.held)) middle := ⟨.refl, hmiddle.ledger_eq⟩
  obtain ⟨outgoing, turn, hlast⟩ := hthere.runOnHeld_releaseAll hsentry hwaiting texts
  refine ⟨_, hmessages, Or.inr ⟨connections, by omega, ?_, rfl⟩⟩
  exact ⟨middle, hmiddle.steps, congrArg Ledger.held hmiddle.ledger_eq, hlast.steps⟩

/-! ## Batches -/

/-- The line later has sent the batches in their order, each on some connection. -/
def SentBatches (line later : Line σ) (batches : List Insert) : Prop :=
  ∃ sent, later.journal.messages = line.journal.messages ++ sent ∧
    sent.map Prod.snd = batches.map Message.batch

theorem SentBatches.cons
    {middle : Line σ} {connection : Connection} {batch : Insert} {others : List Insert}
    (hfirst : middle.journal.messages = line.journal.messages ++ [(connection, .batch batch)])
    (hothers : SentBatches middle later others) : SentBatches line later (batch :: others) := by
  obtain ⟨sent, hmessages, hbatches⟩ := hothers
  refine ⟨(connection, .batch batch) :: sent, ?_, ?_⟩
  · rw [hmessages, hfirst, List.append_assoc, List.singleton_append]
  · rw [List.map_cons, List.map_cons, hbatches]

theorem sentBatches_runEach
    {batches : List Insert}
    (hok : ∀ outcome ∈ (line.runEach destination batches).1, outcome = .ok ()) :
    SentBatches line (line.runEach destination batches).2 batches := by
  induction batches generalizing line with
  | nil => exact ⟨[], by simp [runEach], rfl⟩
  | cons batch others ih =>
      simp only [runEach, List.forall_mem_cons] at hok ⊢
      obtain ⟨connection, hfirst⟩ := messages_runOnce (Prod.ext hok.1 rfl)
      exact SentBatches.cons hfirst (ih hok.2)

theorem startBatches_all
    {batches : List Insert} (hrefusals : (line.startBatches destination batches).1 = []) :
    (line.startBatches destination batches).2.1.map Prod.snd = batches ∧
      (line.startBatches destination batches).2.2.journal.messages = line.journal.messages := by
  induction batches generalizing line with
  | nil => exact ⟨rfl, rfl⟩
  | cons batch others ih =>
      unfold startBatches at hrefusals ⊢
      split at hrefusals
      next connection next hacquire =>
        obtain ⟨hstarted, hmessages⟩ := ih hrefusals
        refine ⟨by rw [List.map_cons, hstarted], ?_⟩
        rw [hmessages, messages_start, messages_acquire hacquire]
      next => cases hrefusals

theorem sentBatches_finishBatches
    (destination : Destination σ) (line : Line σ) (started : List (Connection × Insert)) :
    SentBatches line (line.finishBatches destination started).2 (started.map Prod.snd) := by
  induction started generalizing line with
  | nil => exact ⟨[], by simp [finishBatches], rfl⟩
  | cons first others ih =>
      obtain ⟨connection, batch⟩ := first
      simp only [finishBatches, List.map_cons]
      have hfirst : ((line.finish destination connection (.batch batch)).2.release destination
          connection).journal.messages =
            line.journal.messages ++ [(connection, .batch batch)] := by
        rw [messages_release, messages_finish]
      exact SentBatches.cons hfirst (ih _)

theorem sentBatches_batchOutcomes
    {batches : List Insert}
    (hok : ∀ outcome ∈ (line.batchOutcomes destination batches).1, outcome = .ok ()) :
    SentBatches line (line.batchOutcomes destination batches).2 batches := by
  unfold batchOutcomes at hok ⊢
  split at hok
  next hoverlaps =>
    rw [if_pos hoverlaps]
    have hrefusals : (line.startBatches destination batches).1 = [] := by
      rw [List.eq_nil_iff_forall_not_mem]
      intro failure hmem
      have hfailed := hok (.error failure)
        (List.mem_append_left _ (List.mem_map_of_mem hmem))
      cases hfailed
    obtain ⟨hstarted, hmessages⟩ := startBatches_all hrefusals
    have hsent := sentBatches_finishBatches destination
      (line.startBatches destination batches).2.2 (line.startBatches destination batches).2.1
    rw [hstarted] at hsent
    obtain ⟨sent, hlater, hbatches⟩ := hsent
    exact ⟨sent, hlater.trans (by rw [hmessages]), hbatches⟩
  next hturn =>
    rw [if_neg hturn]
    exact sentBatches_runEach hok

theorem sentBatches_runBatches
    {batches : List Insert}
    (hrun : line.runBatches destination batches = (.ok (), later)) :
    SentBatches line later batches := by
  unfold runBatches at hrun
  split at hrun
  next => cases (Prod.mk.inj hrun).1
  next =>
    dsimp only at hrun
    split at hrun
    next => cases (Prod.mk.inj hrun).1
    next houtcome =>
      split at hrun
      next => cases (Prod.mk.inj hrun).1
      next =>
        obtain ⟨-, rfl⟩ := Prod.mk.inj hrun
        exact sentBatches_batchOutcomes (firstFailure_eq_ok.mp houtcome)

end Line

end SqlPipe
