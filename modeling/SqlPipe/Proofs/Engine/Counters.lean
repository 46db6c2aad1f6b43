import SqlPipe.Proofs.Engine.Pressure
import SqlPipe.Proofs.Engine.Sessions

/-!
# The counters of a sink

While no call fails, the counters of a sink agree with what came and with what was sent.  Every
statement of a known class that is no insert for the buffers counts once, whatever it takes to
deliver it.  Only a session statement is sent more than once: in the end on every connection there
may be, and what is deferred stands for the sends that are still owed.
-/

namespace SqlPipe

def Role.isSkipped : Role → Bool
  | .skipped => true
  | _ => false

def Stats.oneMore (stats : Stats) : Stats := { stats with executed := stats.executed + 1 }

def Call.brings {σ : Type} (dialect : Dialect) (kind : Role → Bool) : Call σ → Bool
  | .exec text => kind (Classify.roleOf dialect text)
  | .flush | .close | .meanwhile _ => false

/-- How many of the statements that calls take have a role of some kind. -/
def countBrought {σ : Type} (dialect : Dialect) (kind : Role → Bool) (calls : List (Call σ)) : ℕ :=
  calls.countP (Call.brings dialect kind)

theorem countBrought_exec
    {σ : Type} (dialect : Dialect) (kind : Role → Bool) (calls : List (Call σ)) (text : String) :
    countBrought dialect kind (calls ++ [.exec text]) =
      countBrought dialect kind calls +
        if kind (Classify.roleOf dialect text) then 1 else 0 := by
  rw [countBrought, List.countP_append, List.countP_singleton]
  rfl

theorem countBrought_of_not
    {σ : Type} {dialect : Dialect} {kind : Role → Bool} {calls : List (Call σ)} {text : String}
    {role : Role} (hrole : Classify.roleOf dialect text = role) (hkind : kind role = false) :
    countBrought dialect kind (calls ++ [.exec text]) = countBrought dialect kind calls := by
  rw [countBrought_exec, hrole, hkind]
  rfl

theorem countBrought_flush
    {σ : Type} (dialect : Dialect) (kind : Role → Bool) (calls : List (Call σ)) :
    countBrought dialect kind (calls ++ [.flush]) = countBrought dialect kind calls := by
  rw [countBrought, List.countP_append, List.countP_singleton]
  rfl

theorem rowCount_append (inserts others : List Insert) :
    rowCount (inserts ++ others) = rowCount inserts + rowCount others := by
  induction inserts with
  | nil => simp
  | cons insert inserts ih =>
      rw [List.cons_append, rowCount_cons, rowCount_cons, ih, Nat.add_assoc]

namespace Line

variable {σ : Type} {destination : Destination σ}

theorem length_spread (overlaps : Bool) (texts : List String) (connections : List Connection) :
    (spread overlaps texts connections).length = connections.length * texts.length := by
  cases overlaps <;> simp [spread, List.length_flatMap, Nat.mul_comm]

/-- Each statement is sent once on each connection there may be, but for those checked out. -/
theorem Covers.length_eq
    {origin later : Line σ} {own : Multiset Connection} {texts : List String}
    {sent : List (Connection × Message)}
    (hcovers : Covers destination origin later own texts sent) :
    sent.length = (destination.maxOpen - own.card) * texts.length := by
  rcases hcovers with ⟨rfl, rfl⟩ | ⟨connections, hlength, -, rfl⟩
  · simp
  · rw [length_spread, ← hlength, Nat.add_sub_cancel]

end Line

namespace Engine

variable {σ : Type} {destination : Destination σ} {arrived : List Insert}
variable {engine later : Engine σ} {calls : List (Call σ)}

theorem arrivedBy_of_no_insert
    {text : String} {role : Role} (hrole : Classify.roleOf destination.dialect text = role)
    (hnone : role.insert? = none) (calls : List (Call σ)) :
    arrivedBy destination (calls ++ [.exec text]) = arrivedBy destination calls := by
  simp [arrivedBy, arrivalOf, Destination.arrival, hrole, hnone]

theorem batches_congr (hmessages : later.messages = engine.messages) :
    later.batches = engine.batches := by
  rw [batches, hmessages, batches]

/-! ## Flushing -/

theorem batches_of_sentBatches
    {batches : List Insert} (hsent : Line.SentBatches engine.line later.line batches) :
    later.batches = engine.batches ++ batches ∧
      later.messages.length = engine.messages.length + batches.length := by
  obtain ⟨sent, hmessages, hbatches⟩ := hsent
  have hlength : sent.length = batches.length := by
    simpa using congrArg List.length hbatches
  have hnew := congrArg (List.filterMap Message.batch?) hbatches
  rw [List.filterMap_map, List.filterMap_map, show Message.batch? ∘ Message.batch = some from rfl,
    List.filterMap_some] at hnew
  refine ⟨(batches_of_messages hmessages).trans (congrArg (engine.batches ++ ·) hnew), ?_⟩
  rw [messages, hmessages, List.length_append, hlength]
  rfl

theorem sink_flushOnSentry_eq_ok
    {connection : Connection} {batches : List Insert}
    (hflush : engine.flushOnSentry destination connection batches = (.ok (), later)) :
    later.sink = (engine.countBatches batches.length).sink := by
  induction batches generalizing engine with
  | nil =>
      obtain ⟨-, rfl⟩ := Prod.mk.inj hflush
      rfl
  | cons batch others ih =>
      obtain ⟨next, hrun, hothers⟩ := andThen_eq_ok.mp hflush
      have hsink := (runOn_eq_ok hrun).2
      rw [ih hothers]
      simp [countBatches, hsink, Nat.add_comm, Nat.add_left_comm]

theorem sink_flush_eq_ok
    (hfull : engine.sink.buffers ≠ [])
    (hflush : engine.flush destination = (.ok (), later)) :
    later.sink = (engine.emptied.countBatches engine.sink.buffers.length).sink := by
  cases hsentry : engine.sink.sentry with
  | some sentry =>
      rw [flush_of_sentry hfull hsentry] at hflush
      exact sink_flushOnSentry_eq_ok hflush
  | none =>
      obtain ⟨-, -, hsink⟩ := flush_of_free_parts destination hfull hsentry
      rw [hflush, if_pos rfl] at hsink
      exact hsink

/-! ## Delivering -/

/-- The sends that are still owed: each deferred statement has to go to all connections but one. -/
def owed (destination : Destination σ) (engine : Engine σ) : ℕ :=
  (destination.maxOpen - 1) * engine.sink.deferred.length

/-- One statement more was executed, and as many session statements came. -/
structure Charged (destination : Destination σ) (sessions : ℕ) (engine later : Engine σ) :
    Prop where
  stats : later.sink.stats = engine.sink.stats.oneMore
  sent : later.messages.length + later.owed destination =
    engine.messages.length + engine.owed destination + 1 + (destination.maxOpen - 1) * sessions

theorem stats_of_counted
    {done : Outcome × Engine σ} (hcounted : counted done = (.ok (), later)) :
    later.sink.stats = done.2.sink.stats.oneMore := by
  obtain ⟨state, rfl, rfl⟩ := counted_eq_ok.mp hcounted
  rfl

theorem stats_runOnce
    {text : String} (hrun : engine.runOnce destination text = (.ok (), later)) :
    later.sink.stats = engine.sink.stats.oneMore := by
  have hcounted := stats_of_counted hrun
  split at hcounted <;> exact hcounted

theorem stats_beginOn
    {sentry : Sentry} {text : String}
    (hbegin : engine.beginOn destination sentry text = (.ok (), later)) :
    later.sink.stats = engine.sink.stats.oneMore := by
  unfold beginOn at hbegin
  split at hbegin
  next next hrun =>
    have hsink := (runOn_eq_ok hrun).2
    obtain ⟨-, rfl⟩ := Prod.mk.inj hbegin
    rw [← hsink]
    rfl
  next => split at hbegin <;> cases (Prod.mk.inj hbegin).1

theorem stats_begin
    {text : String} (hbegin : engine.begin destination text = (.ok (), later)) :
    later.sink.stats = engine.sink.stats.oneMore := by
  unfold Engine.begin at hbegin
  split at hbegin
  next => exact stats_beginOn hbegin
  next =>
    split at hbegin
    next connection line _ =>
      have hstats := stats_beginOn hbegin
      exact hstats
    next => cases (Prod.mk.inj hbegin).1

theorem stats_replay
    {deferred : List String} (hreplay : engine.replay destination deferred = (.ok (), later)) :
    later.sink.stats = engine.sink.stats := by
  unfold Engine.replay at hreplay
  split at hreplay <;> obtain ⟨-, rfl⟩ := Prod.mk.inj hreplay <;> rfl

theorem stats_endOn
    {sentry : Sentry} {text : String}
    (hend : engine.endOn destination sentry text = (.ok (), later)) :
    later.sink.stats = engine.sink.stats.oneMore := by
  unfold endOn at hend
  cases hdone : engine.runOn destination sentry.connection (.statement text) with
  | mk outcome next =>
      rw [hdone] at hend
      have hsink : next.sink = engine.sink := congrArg (fun done => done.2.sink) hdone.symm
      rw [← hsink]
      dsimp only at hend
      split at hend
      next => exact stats_of_counted hend
      next =>
        obtain ⟨houtcome, rfl⟩ := Prod.mk.inj hend
        obtain ⟨state, hcounted, hreplay⟩ := andThen_eq_ok.mp (Prod.ext houtcome rfl)
        exact (stats_replay hreplay).trans (stats_of_counted hcounted)

theorem stats_finish
    {text : String} (hfinish : engine.finish destination text = (.ok (), later)) :
    later.sink.stats = engine.sink.stats.oneMore := by
  unfold finish at hfinish
  split at hfinish
  next => exact stats_endOn hfinish
  next =>
    have hstats := stats_runOnce hfinish
    exact hstats

theorem stats_broadcast
    {text : String} (hbroadcast : engine.broadcast destination text = (.ok (), later)) :
    later.sink.stats = engine.sink.stats.oneMore := by
  obtain ⟨state, hdone, rfl⟩ := counted_eq_ok.mp hbroadcast
  have hstate : state.sink.stats = engine.sink.stats := by
    split at hdone
    next =>
      obtain ⟨next, hrun, hdefer⟩ := andThen_eq_ok.mp hdone
      obtain ⟨-, rfl⟩ := Prod.mk.inj hdefer
      have hstats := congrArg Sink.stats (runOn_eq_ok hrun).2
      exact hstats
    next =>
      obtain ⟨-, rfl⟩ := Prod.mk.inj hdone
      rfl
  rw [← hstate]
  rfl

theorem SentOnce.charged
    {text : String} (honce : engine.SentOnce later text)
    (hdeferred : later.sink.deferred = engine.sink.deferred)
    (hstats : later.sink.stats = engine.sink.stats.oneMore) :
    Charged destination 0 engine later := by
  obtain ⟨connection, hmessages, -⟩ := honce
  refine ⟨hstats, ?_⟩
  rw [hmessages, List.length_append, List.length_singleton, owed, hdeferred, owed]
  omega

theorem charged_finish
    (hsettled : engine.Settled destination engine.line arrived) (hmany : 2 ≤ destination.maxOpen)
    (hempty : engine.sink.buffers = []) {text : String}
    (hfinish : engine.finish destination text = (.ok (), later)) :
    Charged destination 0 engine later := by
  have hstats := stats_finish hfinish
  rcases finish_eq_ok hfinish with ⟨sentry, hsentry, hend⟩ | ⟨-, honce, hsame⟩
  · obtain ⟨-, ⟨-, hmessages, -, hdeferred⟩ | ⟨-, hdeferred, sent, hmessages, hcovers⟩⟩ :=
      endOn_eq_ok hsettled hsentry hmany hempty hend
    · exact (sentOnce_of_sentry hsentry hmessages).charged hdeferred hstats
    · -- the replay makes the sends that were owed
      have hlength := hcovers.length_eq
      rw [Multiset.card_singleton] at hlength
      refine ⟨hstats, ?_⟩
      rw [hmessages, List.length_append, List.length_cons, hlength, owed, hdeferred, owed,
        List.length_nil]
      omega
  · exact honce.charged hsame.deferred hstats

theorem charged_broadcast
    (hsettled : engine.Settled destination engine.line arrived) (hmany : 2 ≤ destination.maxOpen)
    (hempty : engine.sink.buffers = []) {text : String}
    (hbroadcast : engine.broadcast destination text = (.ok (), later)) :
    Charged destination 1 engine later := by
  refine ⟨stats_broadcast hbroadcast, ?_⟩
  obtain ⟨-, -, ⟨sentry, -, hmessages, hdeferred⟩ | ⟨-, hdeferred, sent, hmessages, hcovers⟩⟩ :=
    broadcast_eq_ok hsettled hmany hempty hbroadcast
  · rw [hmessages, List.length_append, List.length_singleton, owed, hdeferred, owed,
      List.length_append, List.length_singleton, Nat.mul_add]
    omega
  · have hlength := hcovers.length_eq
    rw [Multiset.card_zero, List.length_singleton] at hlength
    rw [hmessages, List.length_append, hlength, owed, hdeferred, owed]
    omega

/-- Every delivery counts once, and only those of session statements are sent more than once. -/
theorem charged_deliver
    (hsettled : engine.Settled destination engine.line arrived) (hmany : 2 ≤ destination.maxOpen)
    (hempty : engine.sink.buffers = []) {statementClass : StatementClass}
    (hknown : statementClass ≠ .unknown) {text : String}
    (hdeliver : engine.deliver destination statementClass text = (.ok (), later)) :
    Charged destination (if (Role.barrier statementClass).isSession then 1 else 0) engine
      later := by
  unfold deliver at hdeliver
  split at hdeliver
  · exact absurd rfl hknown
  · obtain ⟨connection, -, hmessages, hserves, -, hdeferred, -⟩ := begin_eq_ok hdeliver
    have honce : engine.SentOnce later text := ⟨connection, hmessages, hserves⟩
    exact honce.charged hdeferred (stats_begin hdeliver)
  · exact charged_finish hsettled hmany hempty hdeliver
  · exact charged_broadcast hsettled hmany hempty hdeliver
  all_goals
    obtain ⟨honce, hsame⟩ := runOnce_eq_ok hdeliver
    exact honce.charged hsame.deferred (stats_runOnce hdeliver)

/-! ## Runs -/

/-- The counters agree with the statements that came and with the messages that were sent. -/
structure Balanced (destination : Destination σ) (calls : List (Call σ)) (engine : Engine σ) :
    Prop where
  skipped : engine.sink.stats.skipped = countBrought destination.dialect Role.isSkipped calls
  batches : engine.sink.stats.batches = engine.batches.length
  executed : engine.sink.stats.executed =
    countBrought destination.dialect Role.isBarrier calls + engine.batches.length
  arrived : engine.sink.stats.bufferedRows = rowCount (arrivedBy destination calls)
  rows : engine.sink.stats.bufferedRows =
    rowCount engine.batches + rowCount engine.sink.buffers
  flushes : engine.sink.stats.flushes ≤ engine.sink.stats.batches
  sent : engine.messages.length + engine.owed destination =
    countBrought destination.dialect Role.isBarrier calls + engine.batches.length +
      (destination.maxOpen - 1) * countBrought destination.dialect Role.isSession calls

theorem balanced_fresh (destination : Destination σ) (batchCap : ℕ) (world : σ) :
    Balanced destination [] (fresh batchCap world) :=
  ⟨rfl, rfl, rfl, rfl, rfl, le_rfl, by simp [owed, countBrought, fresh, Sink.fresh, messages,
    Engine.batches, Journal.messages]⟩

theorem Balanced.flush
    (hbalanced : Balanced destination calls engine)
    (hflush : engine.flush destination = (.ok (), later)) : Balanced destination calls later := by
  by_cases hfull : engine.sink.buffers = []
  · have hnothing : engine.flush destination = (.ok (), engine) :=
      if_pos (List.isEmpty_iff.mpr hfull)
    obtain ⟨-, rfl⟩ := Prod.mk.inj (hnothing.symm.trans hflush)
    exact hbalanced
  · have hsink := sink_flush_eq_ok hfull hflush
    obtain ⟨hbatches, hlength⟩ := batches_of_sentBatches (sentBatches_flush hflush)
    have hsome := List.length_pos_iff.mpr hfull
    obtain ⟨hskipped, hcount, hexecuted, harrived, hrows, hflushes, hsent⟩ := hbalanced
    unfold owed at hsent
    constructor
    case skipped => simpa [hsink, countBatches, emptied, report, note] using hskipped
    case batches => simp [hsink, countBatches, emptied, report, note, hbatches, hcount]
    case executed =>
      simp [hsink, countBatches, emptied, report, note, hbatches, hexecuted, Nat.add_assoc]
    case arrived => simpa [hsink, countBatches, emptied, report, note] using harrived
    case rows =>
      simp [hsink, countBatches, emptied, report, note, hbatches, hrows, rowCount_append]
    case flushes =>
      simp only [hsink, countBatches, emptied, report, note]
      omega
    case sent =>
      rw [hlength, hbatches, List.length_append, owed, hsink]
      simp only [countBatches, emptied, report, note]
      omega

theorem Balanced.taking
    (hbalanced : Balanced destination calls engine) (hmany : 2 ≤ destination.maxOpen)
    {text : String} {insert : Insert}
    (hrole : Classify.roleOf destination.dialect text = .rows insert) :
    Balanced destination (calls ++ [.exec text]) (engine.taking insert) := by
  have hmore : ¬destination.maxOpen ≤ 1 := by omega
  have hmessages : (engine.taking insert).messages = engine.messages :=
    messages_note_buffered _ insert
  have hbatches := batches_congr hmessages
  have harrivals : arrivedBy destination (calls ++ [.exec text]) =
      arrivedBy destination calls ++ [insert] := by
    simp [arrivedBy, arrivalOf, Destination.arrival, hmore, hrole, Role.insert?]
  have hwaiting : rowCount (engine.taking insert).sink.buffers =
      rowCount engine.sink.buffers + insert.rows.length :=
    Sink.rowCount_addRows insert engine.sink.buffers
  have hcounted : (engine.taking insert).sink.stats.bufferedRows =
      engine.sink.stats.bufferedRows + insert.rows.length := rfl
  constructor
  case skipped =>
    rw [countBrought_of_not hrole rfl]
    exact hbalanced.skipped
  case batches => exact hbatches.symm ▸ hbalanced.batches
  case executed =>
    rw [countBrought_of_not hrole rfl, hbatches]
    exact hbalanced.executed
  case arrived =>
    rw [hcounted, hbalanced.arrived, harrivals, rowCount_append]
    rfl
  case rows =>
    rw [hcounted, hbalanced.rows, hbatches, hwaiting, Nat.add_assoc]
  case flushes => exact hbalanced.flushes
  case sent =>
    rw [countBrought_of_not hrole rfl, countBrought_of_not hrole rfl, hbatches, hmessages]
    exact hbalanced.sent

/-- What a delivery changes beside the messages has nothing to do with rows. -/
theorem Balanced.deliver
    (hbalanced : Balanced destination calls engine)
    (hsettled : engine.Settled destination engine.line arrived) (hmany : 2 ≤ destination.maxOpen)
    (hempty : engine.sink.buffers = []) {statementClass : StatementClass} {text : String}
    (hrole : Classify.roleOf destination.dialect text = .barrier statementClass)
    (hdeliver : engine.deliver destination statementClass text = (.ok (), later)) :
    Balanced destination (calls ++ [.exec text]) later := by
  obtain ⟨hstats, hsent⟩ := charged_deliver hsettled hmany hempty
    (Classify.ne_unknown_of_roleOf hrole) hdeliver
  have hkeeps := keepsRows_deliver destination engine statementClass text
  have hquiet := quietTo_deliver destination engine statementClass text
  rw [hdeliver] at hkeeps hquiet
  have hbatches := batches_of_quietTo hquiet
  have harrivals := arrivedBy_of_no_insert hrole rfl calls
  constructor
  case skipped =>
    rw [hstats, countBrought_exec, hrole]
    exact hbalanced.skipped
  case batches =>
    rw [hstats, hbatches]
    exact hbalanced.batches
  case executed =>
    have hexecuted := hbalanced.executed
    rw [hstats, hbatches, countBrought_exec, hrole]
    simp only [Role.isBarrier, if_true, Stats.oneMore]
    omega
  case arrived =>
    rw [hstats, harrivals]
    exact hbalanced.arrived
  case rows =>
    rw [hstats, hbatches, hkeeps.buffers]
    exact hbalanced.rows
  case flushes =>
    rw [hstats]
    exact hbalanced.flushes
  case sent =>
    have hbefore := hbalanced.sent
    rw [hsent, hbatches, countBrought_exec, countBrought_exec, hrole, Nat.mul_add]
    simp only [Role.isBarrier, if_true]
    omega

theorem Balanced.congr
    (hbalanced : Balanced destination calls engine) (hsink : later.sink = engine.sink)
    (hmessages : later.messages = engine.messages) : Balanced destination calls later := by
  have hbatches := batches_congr hmessages
  obtain ⟨hskipped, hcount, hexecuted, harrived, hrows, hflushes, hsent⟩ := hbalanced
  unfold owed at hsent
  constructor
  case sent =>
    rw [hmessages, owed, hsink, hbatches]
    exact hsent
  all_goals simpa only [hsink, hbatches]

theorem Balanced.skip
    (hbalanced : Balanced destination calls engine) {text : String}
    (hrole : Classify.roleOf destination.dialect text = .skipped) :
    Balanced destination (calls ++ [.exec text]) (engine.skip text) := by
  have hmessages : (engine.skip text).messages = engine.messages := messages_report _ _ _
  have hbatches := batches_congr hmessages
  have harrivals := arrivedBy_of_no_insert hrole rfl calls
  constructor
  case skipped =>
    rw [countBrought_exec, hrole, ← hbalanced.skipped]
    rfl
  case batches => exact hbatches.symm ▸ hbalanced.batches
  case executed =>
    rw [countBrought_of_not hrole rfl, hbatches]
    exact hbalanced.executed
  case arrived => exact harrivals.symm ▸ hbalanced.arrived
  case rows =>
    rw [hbatches]
    exact hbalanced.rows
  case flushes => exact hbalanced.flushes
  case sent =>
    rw [countBrought_of_not hrole rfl, countBrought_of_not hrole rfl, hbatches, hmessages]
    exact hbalanced.sent

theorem Balanced.exec
    (hbalanced : Balanced destination calls engine)
    (hsettled : engine.Settled destination engine.line arrived) (hmany : 2 ≤ destination.maxOpen)
    {text : String} (hexec : engine.exec destination text = (.ok (), later)) :
    Balanced destination (calls ++ [.exec text]) later := by
  have hreported : Balanced destination calls
      (engine.reportAll (Classify.parse destination.dialect text).2) :=
    hbalanced.congr (sink_reportAll engine _) (messages_reportAll engine _)
  have hmore : ¬destination.maxOpen ≤ 1 := by omega
  cases hrole : Classify.roleOf destination.dialect text with
  | refused failure =>
      have hfailed := exec_refused engine hrole
      rw [hexec] at hfailed
      exact absurd rfl hfailed
  | skipped =>
      rw [exec_eq, hrole] at hexec
      obtain ⟨-, rfl⟩ := Prod.mk.inj hexec
      exact hreported.skip hrole
  | rows insert =>
      rw [exec_eq, hrole] at hexec
      dsimp only at hexec
      rw [if_neg hmore, buffer_eq] at hexec
      have htaken := hreported.taking hmany hrole
      split at hexec
      next => exact htaken.flush hexec
      next =>
        obtain ⟨-, rfl⟩ := Prod.mk.inj hexec
        exact htaken
  | barrier statementClass =>
      have hbehind := (hsettled.reportAll (Classify.parse destination.dialect text).2).flush
      have hempty := flushedFrom_flush destination
        (engine.reportAll (Classify.parse destination.dialect text).2)
      rw [exec_eq, hrole] at hexec
      dsimp only at hexec
      rw [if_neg hmore] at hexec
      obtain ⟨flushed, hflush, hdeliver⟩ := andThen_eq_ok.mp hexec
      rw [hflush] at hbehind hempty
      exact (hreported.flush hflush).deliver hbehind.here hmany hempty.buffers hrole hdeliver

theorem Balanced.answer
    (hbalanced : Balanced destination calls engine)
    (hconsistent : engine.Consistent destination arrived) (hmany : 2 ≤ destination.maxOpen)
    {call : Call σ} (hrequest : call.IsRequest)
    (hanswer : engine.answer destination call = (.ok (), later)) :
    Balanced destination (calls ++ [call]) later := by
  cases call with
  | exec text => exact hbalanced.exec hconsistent.settled hmany hanswer
  | flush =>
      have hlater := hbalanced.flush hanswer
      obtain ⟨hskipped, hcount, hexecuted, harrived, hrows, hflushes, hsent⟩ := hlater
      rw [← countBrought_flush destination.dialect] at hskipped hexecuted
      constructor
      case arrived => simpa [arrivedBy, arrivalOf] using harrived
      case sent => simpa only [countBrought_flush] using hsent
      all_goals assumption
  | close => cases hrequest
  | meanwhile change => cases hrequest

/-- The counters keep adding up in every run of requests that all succeed. -/
theorem Balanced.run
    {others : List (Call σ)} (hbalanced : Balanced destination calls engine)
    (hconsistent : engine.Consistent destination arrived) (hmany : 2 ≤ destination.maxOpen)
    (hrequests : ∀ call ∈ others, call.IsRequest)
    (hsucceeds : engine.Succeeds destination others) :
    Balanced destination (calls ++ others) (engine.run destination others) := by
  induction others generalizing engine calls arrived with
  | nil => simpa using hbalanced
  | cons call others ih =>
      obtain ⟨hfirst, hrest⟩ := hsucceeds
      have hnext := hbalanced.answer hconsistent hmany (hrequests call (by simp))
        (Prod.ext hfirst rfl)
      have hlast := ih hnext (hconsistent.answer call)
        (fun other hother => hrequests other (by simp [hother])) hrest
      rw [List.append_assoc] at hlast
      exact hlast

/-- While no request fails, the counters add up.  Every statement of unknown class counts as
skipped.  Every other one that does not wait in the buffers counts as executed once, and so does
every batch.  The rows that came were sent in batches or wait, and no flush sends nothing.  Outside
of transactions every statement and every batch was sent once, a session statement on every
connection there may be. -/
theorem run_counts_add_up
    (destination : Destination σ) (batchCap : ℕ) (world : σ) (calls : List (Call σ))
    (hmany : 2 ≤ destination.maxOpen) (hrequests : ∀ call ∈ calls, call.IsRequest)
    (hsucceeds : (fresh batchCap world).Succeeds destination calls) :
    let engine := (fresh batchCap world).run destination calls
    let stats := engine.sink.stats
    let unknown := countBrought destination.dialect Role.isSkipped calls
    let delivered := countBrought destination.dialect Role.isBarrier calls
    let sessions := countBrought destination.dialect Role.isSession calls
    stats.skipped = unknown ∧
      stats.batches = engine.batches.length ∧
      stats.executed = delivered + engine.batches.length ∧
      stats.bufferedRows = rowCount (arrivedBy destination calls) ∧
      stats.bufferedRows = rowCount engine.batches + engine.sink.buffered ∧
      stats.flushes ≤ stats.batches ∧
      (engine.sink.inTransaction = false →
        engine.messages.length =
          delivered + engine.batches.length + (destination.maxOpen - 1) * sessions) := by
  intro engine stats unknown delivered sessions
  have hbalanced : Balanced destination calls engine :=
    (balanced_fresh destination batchCap world).run
      (consistent_fresh destination batchCap world) hmany hrequests hsucceeds
  have hconsistent : engine.Consistent destination (arrivedBy destination calls) :=
    consistent_run_fresh batchCap world calls
  have hmetered : engine.sink.Metered (fresh batchCap world).sink.batchCap :=
    metered_run (Sink.metered_of_empty rfl rfl rfl) hmany calls
  refine ⟨hbalanced.skipped, hbalanced.batches, hbalanced.executed, hbalanced.arrived, ?_,
    hbalanced.flushes, ?_⟩
  · rw [hmetered.counted]
    exact hbalanced.rows
  · intro hfree
    have hnone : engine.sink.deferred = [] :=
      hconsistent.sound.deferred (by simpa [Sink.inTransaction] using hfree)
    have hsent := hbalanced.sent
    rw [owed, hnone, List.length_nil, Nat.mul_zero, Nat.add_zero] at hsent
    exact hsent

/-- A session statement in a transaction is sent once more, on the other connection, behind the end
of the transaction; a row that came behind it still waits. -/
theorem run_counts_add_up_behind_transaction :
    let destination := Rehearsal.destination .mysql 2 true
    let start : Engine Rehearsal := fresh 8 (Rehearsal.fresh [] [] [])
    let calls : List (Call Rehearsal) :=
      [.exec "-- seed", .exec "INSERT INTO t VALUES (1), (2)", .exec "BEGIN", .exec "SET a = 1",
        .exec "INSERT INTO t VALUES (3)", .exec "COMMIT", .exec "INSERT INTO t VALUES (4)"]
    let engine := start.run destination calls
    start.Succeeds destination calls ∧ engine.sink.stats = ⟨5, 1, 4, 2, 2⟩ ∧
      engine.sink.stats.bufferedRows = rowCount engine.batches + 1 ∧
      engine.messages.length = 3 + engine.batches.length + (2 - 1) * 1 := by
  intro destination start calls engine
  have hsucceeds : start.Succeeds destination calls := by decide +kernel
  have hrequests : ∀ call ∈ calls, call.IsRequest := by
    simp [calls, Call.IsRequest]
  obtain ⟨-, -, -, -, hrows, -, hmessages⟩ := run_counts_add_up destination 8
    (Rehearsal.fresh [] [] []) calls (by decide) hrequests hsucceeds
  have hevaluated : engine.sink.stats = ⟨5, 1, 4, 2, 2⟩ ∧ engine.sink.buffered = 1 ∧
      engine.sink.inTransaction = false ∧
      countBrought destination.dialect Role.isBarrier calls = 3 ∧
      countBrought destination.dialect Role.isSession calls = 1 := by
    decide +kernel
  obtain ⟨hstats, hbuffered, hfree, hdelivered, hsessions⟩ := hevaluated
  have hsent := hmessages hfree
  rw [hbuffered] at hrows
  rw [hdelivered, hsessions] at hsent
  exact ⟨hsucceeds, hstats, hrows, hsent⟩

end Engine

end SqlPipe
