import SqlPipe.Proofs.Engine.Roles
import SqlPipe.Proofs.Line.Inventory

/-!
# Session statements on connections

Which session statements each connection of a destination has run.  The sessions are uniform when
all connections have run the same statements, but for one connection, the holder, which may have run
more of them.  A new connection has run none, so it may only be opened as long as none is needed;
and none can be opened once all that there may be exist.
-/

namespace SqlPipe

def Classify.isSession (dialect : Dialect) (text : String) : Bool :=
  (roleOf dialect text).isSession

/-- The session statement that was sent on a connection, if the message is one. -/
def sessionOn? (dialect : Dialect) (connection : Connection) (sent : Connection × Message) :
    Option String :=
  if sent.1 = connection then sent.2.statement?.filter (Classify.isSession dialect) else none

def sessionsOn (dialect : Dialect) (connection : Connection)
    (messages : List (Connection × Message)) : List String :=
  messages.filterMap (sessionOn? dialect connection)

section

variable {dialect : Dialect} {connection : Connection}

@[simp] theorem sessionsOn_nil : sessionsOn dialect connection [] = [] := rfl

@[simp] theorem sessionsOn_append (messages others : List (Connection × Message)) :
    sessionsOn dialect connection (messages ++ others) =
      sessionsOn dialect connection messages ++ sessionsOn dialect connection others :=
  List.filterMap_append

theorem sessionsOn_cons (sent : Connection × Message) (others : List (Connection × Message)) :
    sessionsOn dialect connection (sent :: others) =
      sessionsOn dialect connection [sent] ++ sessionsOn dialect connection others :=
  sessionsOn_append [sent] others

theorem sessionsOn_eq_nil
    {messages : List (Connection × Message)}
    (hunknown : ∀ sent ∈ messages, sent.1 ≠ connection) :
    sessionsOn dialect connection messages = [] := by
  rw [sessionsOn, List.filterMap_eq_nil_iff]
  intro sent hmem
  exact if_neg (hunknown sent hmem)

theorem sessionsOn_other
    {other : Connection} (hother : other ≠ connection) (message : Message) :
    sessionsOn dialect connection [(other, message)] = [] := by
  apply sessionsOn_eq_nil
  intro sent hmem
  rwa [List.mem_singleton.mp hmem]

theorem sessionsOn_self
    {text : String} (hsession : Classify.isSession dialect text = true) :
    sessionsOn dialect connection [(connection, .statement text)] = [text] := by
  have hsent : sessionOn? dialect connection (connection, .statement text) = some text := by
    simp [sessionOn?, Message.statement?, Option.filter, hsession]
  simp [sessionsOn, hsent]

theorem sessionsOn_statement
    {other : Connection} {text : String} (hsession : Classify.isSession dialect text = true) :
    sessionsOn dialect connection [(other, .statement text)] =
      if other = connection then [text] else [] := by
  split
  next heq => rw [heq, sessionsOn_self hsession]
  next hne => exact sessionsOn_other hne _

theorem sessionsOn_of_not
    {other : Connection} {text : String} (hsession : Classify.isSession dialect text = false) :
    sessionsOn dialect connection [(other, .statement text)] = [] := by
  simp [sessionsOn, sessionOn?, Message.statement?, hsession]

theorem sessionsOn_batches
    {sent : List (Connection × Message)} {batches : List Insert}
    (hbatches : sent.map Prod.snd = batches.map Message.batch) :
    sessionsOn dialect connection sent = [] := by
  rw [sessionsOn, List.filterMap_eq_nil_iff]
  intro message hmem
  have hbatch : message.2 ∈ batches.map Message.batch := by
    rw [← hbatches]
    exact List.mem_map_of_mem hmem
  obtain ⟨insert, -, hinsert⟩ := List.mem_map.mp hbatch
  simp [sessionOn?, ← hinsert, Message.statement?]

/-! ## Statements on several connections -/

theorem sessionsOn_eachConnection
    {text : String} (hsession : Classify.isSession dialect text = true)
    {connections : List Connection} (hnodup : connections.Nodup) :
    sessionsOn dialect connection
        (connections.map fun other => (other, Message.statement text)) =
      if connection ∈ connections then [text] else [] := by
  induction connections with
  | nil => rfl
  | cons first others ih =>
      obtain ⟨hfirst, hothers⟩ := List.nodup_cons.mp hnodup
      rw [List.map_cons, sessionsOn_cons, sessionsOn_statement hsession, ih hothers]
      by_cases heq : first = connection
      · subst heq
        simp [hfirst]
      · simp [heq, Ne.symm heq]

theorem sessionsOn_eachStatement
    {other : Connection} {texts : List String}
    (hsessions : ∀ text ∈ texts, Classify.isSession dialect text = true) :
    sessionsOn dialect connection (texts.map fun text => (other, Message.statement text)) =
      if other = connection then texts else [] := by
  induction texts with
  | nil => simp
  | cons text others ih =>
      rw [List.map_cons, sessionsOn_cons, sessionsOn_statement (hsessions text (by simp)),
        ih fun text hmem => hsessions text (by simp [hmem])]
      split <;> simp

/-- Statements on different connections reach each of them in order. -/
theorem sessionsOn_spread
    (overlaps : Bool) {texts : List String}
    (hsessions : ∀ text ∈ texts, Classify.isSession dialect text = true)
    {connections : List Connection} (hnodup : connections.Nodup) :
    sessionsOn dialect connection (Line.spread overlaps texts connections) =
      if connection ∈ connections then texts else [] := by
  cases overlaps with
  | true =>
      induction texts with
      | nil => simp [Line.spread]
      | cons text others ih =>
          have hothers := ih fun text hmem => hsessions text (by simp [hmem])
          simp only [Line.spread, if_true, List.flatMap_cons] at hothers ⊢
          rw [sessionsOn_append, hothers,
            sessionsOn_eachConnection (hsessions text (by simp)) hnodup]
          split <;> simp
  | false =>
      induction connections with
      | nil => simp [Line.spread]
      | cons first others ih =>
          obtain ⟨hfirst, hnodup⟩ := List.nodup_cons.mp hnodup
          have hothers := ih hnodup
          simp only [Line.spread, Bool.false_eq_true, if_false, List.flatMap_cons] at hothers ⊢
          rw [sessionsOn_append, hothers, sessionsOn_eachStatement hsessions]
          by_cases heq : first = connection
          · subst heq
            simp [hfirst]
          · simp [heq, Ne.symm heq]

end

/-! ## Uniform sessions -/

section

variable {σ : Type} {destination : Destination σ} {line later : Line σ}

/-- All connections have run the applied statements, the holder the deferred ones too.  Once a
statement was applied, all connections exist that there may be. -/
structure Uniform (inventory : Inventory destination) (applied deferred : List String)
    (holder : Option Connection) (line : Line σ) : Prop where
  kept : inventory.Kept line
  others : ∀ connection ∈ inventory.existing line.world, holder ≠ some connection →
    sessionsOn destination.dialect connection line.journal.messages = applied
  holder : ∀ connection, holder = some connection →
    sessionsOn destination.dialect connection line.journal.messages = applied ++ deferred
  full : applied ≠ [] → (inventory.existing line.world).card = destination.maxOpen
  sessions : ∀ text ∈ deferred, Classify.isSession destination.dialect text = true

variable {inventory : Inventory destination} {applied deferred : List String}
variable {holder : Option Connection}

theorem Uniform.existing_eq
    (huniform : Uniform inventory applied deferred holder line)
    (hlimit : 1 ≤ destination.maxOpen)
    (hsteps : Relation.ReflTransGen (Line.Step destination) line later) (happlied : applied ≠ []) :
    inventory.existing line.world = inventory.existing later.world := by
  apply Finset.eq_of_subset_of_card_le (Inventory.existing_mono inventory hsteps)
  rw [huniform.full happlied, ← Nat.max_eq_right hlimit]
  exact (huniform.kept.steps hsteps).few

theorem Uniform.full_later
    (huniform : Uniform inventory applied deferred holder line)
    (hlimit : 1 ≤ destination.maxOpen)
    (hsteps : Relation.ReflTransGen (Line.Step destination) line later) (happlied : applied ≠ []) :
    (inventory.existing later.world).card = destination.maxOpen := by
  rw [← huniform.existing_eq hlimit hsteps happlied]
  exact huniform.full happlied

/-- A connection that was opened since has run nothing, and then nothing was needed. -/
theorem Uniform.others_later
    (huniform : Uniform inventory applied deferred holder line)
    (hlimit : 1 ≤ destination.maxOpen)
    (hsteps : Relation.ReflTransGen (Line.Step destination) line later)
    {connection : Connection} (hexists : connection ∈ inventory.existing later.world)
    (hother : holder ≠ some connection) :
    sessionsOn destination.dialect connection line.journal.messages = applied := by
  by_cases hold : connection ∈ inventory.existing line.world
  · exact huniform.others connection hold hother
  · -- once a statement was applied, no connection could have been opened
    have hnone : applied = [] := by
      by_contra happlied
      rw [← huniform.existing_eq hlimit hsteps happlied] at hexists
      exact hold hexists
    rw [hnone]
    apply sessionsOn_eq_nil
    intro sent hsent heq
    exact hold (heq ▸ huniform.kept.known sent hsent)

theorem Uniform.keep
    (huniform : Uniform inventory applied deferred holder line)
    (hlimit : 1 ≤ destination.maxOpen)
    (hsteps : Relation.ReflTransGen (Line.Step destination) line later)
    (hsame : ∀ connection,
      sessionsOn destination.dialect connection later.journal.messages =
        sessionsOn destination.dialect connection line.journal.messages) :
    Uniform inventory applied deferred holder later := by
  refine ⟨huniform.kept.steps hsteps, ?_, ?_, huniform.full_later hlimit hsteps,
    huniform.sessions⟩
  · intro connection hexists hother
    rw [hsame]
    exact huniform.others_later hlimit hsteps hexists hother
  · intro connection hholder
    rw [hsame]
    exact huniform.holder connection hholder

/-- Any connection can become the holder while nothing is deferred. -/
theorem Uniform.hold
    (huniform : Uniform inventory applied [] none line)
    {connection : Connection} (hexists : connection ∈ inventory.existing line.world) :
    Uniform inventory applied [] (some connection) line := by
  refine ⟨huniform.kept, fun other hother _ => huniform.others other hother (by simp), ?_,
    huniform.full, by simp⟩
  intro other hother
  obtain rfl := Option.some.inj hother
  rw [List.append_nil]
  exact huniform.others connection hexists (by simp)

theorem Uniform.defer
    {connection : Connection}
    (huniform : Uniform inventory applied deferred (some connection) line)
    (hlimit : 1 ≤ destination.maxOpen)
    (hsteps : Relation.ReflTransGen (Line.Step destination) line later) {text : String}
    (hsession : Classify.isSession destination.dialect text = true)
    (hmessages : later.journal.messages =
      line.journal.messages ++ [(connection, .statement text)]) :
    Uniform inventory applied (deferred ++ [text]) (some connection) later := by
  refine ⟨huniform.kept.steps hsteps, ?_, ?_, huniform.full_later hlimit hsteps, ?_⟩
  · intro other hexists hother
    have hne : connection ≠ other := fun heq => hother (heq ▸ rfl)
    rw [hmessages, sessionsOn_append, sessionsOn_other hne, List.append_nil]
    exact huniform.others_later hlimit hsteps hexists hother
  · intro other hother
    obtain rfl := Option.some.inj hother
    rw [hmessages, sessionsOn_append, sessionsOn_self hsession,
      huniform.holder connection rfl, List.append_assoc]
  · intro other hmem
    rcases List.mem_append.mp hmem with hold | hnew
    · exact huniform.sessions other hold
    · rwa [List.mem_singleton.mp hnew]

/-- Statements that reach every connection but the holder, which has run them already, leave none
behind. -/
theorem Uniform.cover
    (huniform : Uniform inventory applied deferred holder line)
    (hlimit : 1 ≤ destination.maxOpen)
    (hsteps : Relation.ReflTransGen (Line.Step destination) line later)
    {texts : List String} {sent : List (Connection × Message)}
    (hcovers : Line.Covers destination line later (holder.toList : Multiset Connection) texts sent)
    (hmessages : ∀ connection,
      sessionsOn destination.dialect connection later.journal.messages =
        sessionsOn destination.dialect connection line.journal.messages ++
          sessionsOn destination.dialect connection sent)
    (hsessions : ∀ text ∈ texts, Classify.isSession destination.dialect text = true)
    (hdeferred : ∀ connection, holder = some connection → deferred = texts) :
    Uniform inventory (applied ++ texts) [] none later := by
  rcases hcovers with ⟨rfl, rfl⟩ | ⟨connections, hlength, hcheckedOut, rfl⟩
  · rw [List.append_nil]
    refine ⟨huniform.kept.steps hsteps, ?_, by simp, huniform.full_later hlimit hsteps, by simp⟩
    intro connection hexists _
    rw [hmessages, sessionsOn_nil, List.append_nil]
    by_cases hholder : holder = some connection
    · rw [huniform.holder connection hholder, hdeferred connection hholder, List.append_nil]
    · exact huniform.others_later hlimit hsteps hexists hholder
  · -- together with the holder's, the connections that were covered are all that exist
    have hcard : ((connections : Multiset Connection) + holder.toList).card =
        destination.maxOpen := by
      rw [Multiset.card_add, Multiset.coe_card]
      exact hlength
    have hexisting := huniform.kept.checkedOut hlimit hcheckedOut hcard
    have hnodup : ((connections : Multiset Connection) + holder.toList).Nodup := by
      rw [← hexisting]
      exact (inventory.existing later.world).nodup
    rw [Multiset.nodup_add] at hnodup
    obtain ⟨hconnections, -, hdisjoint⟩ := hnodup
    rw [Multiset.coe_nodup] at hconnections
    refine ⟨huniform.kept.steps hsteps, ?_, by simp, fun _ => ?_, by simp⟩
    · intro connection hexists _
      rw [hmessages, sessionsOn_spread _ hsessions hconnections]
      by_cases hholder : holder = some connection
      · have habsent : connection ∉ connections := by
          intro hmem
          exact Multiset.disjoint_left.mp hdisjoint hmem (by simp [hholder])
        rw [if_neg habsent, List.append_nil, huniform.holder connection hholder,
          hdeferred connection hholder]
      · have hmem : connection ∈ connections := by
          rw [← Finset.mem_val, hexisting, Multiset.mem_add] at hexists
          rcases hexists with hmem | hown
          · exact hmem
          · exact absurd (Option.mem_toList.mp hown) hholder
        rw [if_pos hmem, huniform.others_later hlimit hsteps (by
          rw [← Finset.mem_val, hexisting]
          exact Multiset.mem_add.mpr (Or.inl hmem)) hholder]
    · rw [Finset.card_def, hexisting, hcard]

end

end SqlPipe
