import SqlPipe.Proofs.Pool.Course
import Mathlib.Data.List.Basic

/-!
# A database in memory

A database in memory is there for one connection only, and is gone when this is closed.  A pool for
such a database has one connection at most.  Where this one may be idle it is opened once and never
lost, so all statements, on whatever checkout, are run on one database.  Where none may be idle,
every checkout has a database of its own.
-/

namespace SqlPipe

namespace SqlitePool

variable {pool later : SqlitePool}

/-- A pool for a database in memory that has one connection at most and does not lose it. -/
structure Sole (pool : SqlitePool) : Prop where
  path : pool.path = memoryPath
  lifetime : pool.options.lifetime = none
  room : pool.held.length + pool.permits ≤ min 1 pool.options.maxIdle
  numbers : (pool.held ++ pool.idle).map SqliteConnection.number = List.range pool.opened
  opened : pool.opened ≤ 1

namespace Sole

theorem not_expired (hsole : pool.Sole) (connection : SqliteConnection) :
    pool.expired connection = false := by
  rw [expired, hsole.lifetime, Option.any_none]

theorem nil_of_expired (hsole : pool.Sole) {connections : List SqliteConnection}
    (hexpired : ∀ connection ∈ connections, pool.expired connection = true) :
    connections = [] := by
  rw [List.eq_nil_iff_forall_not_mem]
  intro connection hmem
  have htrue := hexpired connection hmem
  rw [hsole.not_expired] at htrue
  cases htrue

theorem length_held_add_idle (hsole : pool.Sole) :
    pool.held.length + pool.idle.length = pool.opened := by
  have hlength := congrArg List.length hsole.numbers
  rwa [List.length_map, List.length_append, List.length_range] at hlength

theorem isOpen_iff (hsole : pool.Sole) (number : Connection) :
    pool.isOpen number = true ↔ number < pool.opened := by
  rw [← List.mem_range, ← hsole.numbers, isOpen, List.any_eq_true, List.mem_map]
  simp only [decide_eq_true_eq]

theorem number_lt (hsole : pool.Sole) {connection : SqliteConnection}
    (hmem : connection ∈ pool.held ++ pool.idle) : connection.number < pool.opened := by
  rw [← List.mem_range, ← hsole.numbers]
  exact List.mem_map_of_mem hmem

theorem number_eq_zero (hsole : pool.Sole) {connection : SqliteConnection}
    (hheld : connection ∈ pool.held) : connection.number = 0 := by
  have hlt := hsole.number_lt (List.mem_append_left _ hheld)
  exact Nat.lt_one_iff.mp (Nat.lt_of_lt_of_le hlt hsole.opened)

theorem acquire (hsole : pool.Sole) : pool.acquire.2.Sole := by
  have hroom := hsole.room
  have hnumbers := hsole.numbers
  have hacquired := pool.acquired
  generalize pool.acquire = acquired at hacquired ⊢
  cases hacquired with
  | closed | exhausted => exact hsole
  | @reused permits passed rest connection _ hpermits hidle hpassed =>
    rw [hsole.nil_of_expired hpassed, List.nil_append] at hidle
    constructor
    · exact hsole.path
    · exact hsole.lifetime
    · simp only [List.length_append, List.length_singleton]
      omega
    · simpa [hidle] using hnumbers
    · exact hsole.opened
  | @opened permits _ hpermits hidle =>
    have hnone : pool.held = [] := by
      rw [← List.length_eq_zero_iff]
      omega
    have hcount := hsole.length_held_add_idle
    rw [hnone, hsole.nil_of_expired hidle] at hcount
    have hunused : pool.opened = 0 := hcount.symm
    constructor
    · exact hsole.path
    · exact hsole.lifetime
    · simp only [List.length_append, List.length_singleton]
      omega
    · simp [hnone, hunused]
    · simp [hunused]
  | obstructed _ _ hidle =>
    constructor
    · exact hsole.path
    · exact hsole.lifetime
    · exact hroom
    · simpa [hsole.nil_of_expired hidle] using hnumbers
    · exact hsole.opened

theorem release (hsole : pool.Sole) {connection : SqliteConnection}
    (hheld : connection ∈ pool.held) : (pool.release connection).Sole := by
  have hroom := hsole.room
  have hnumbers := hsole.numbers
  have hcount := hsole.length_held_add_idle
  have hopened := hsole.opened
  have hpositive := List.length_pos_of_mem hheld
  have hlength := List.length_erase_add_one hheld
  have honly : pool.held = [connection] := by
    have hone : pool.held.length = 1 := by omega
    obtain ⟨other, hother⟩ := List.length_eq_one_iff.mp hone
    rw [hother, List.mem_singleton] at hheld
    rw [hother, hheld]
  have hidle : pool.idle = [] := by
    rw [← List.length_eq_zero_iff]
    omega
  have hreleased := pool.released connection
  generalize pool.release connection = later at hreleased ⊢
  cases hreleased with
  | kept =>
    constructor
    · exact hsole.path
    · exact hsole.lifetime
    · simp only
      omega
    · simpa [honly, hidle] using hnumbers
    · exact hopened
  | dropped hgone =>
    have hfull := hgone.resolve_left (by simp [hsole.not_expired])
    omega

theorem move {move : PoolMove} (hsole : pool.Sole) (hallows : pool.Allows move)
    (hmove : move ≠ .close) : (pool.move move).Sole := by
  cases move with
  | acquire => exact hsole.acquire
  | release => exact hsole.release hallows
  | close => exact absurd rfl hmove
  | elapse | obstruct =>
    exact ⟨hsole.path, hsole.lifetime, hsole.room, hsole.numbers, hsole.opened⟩

theorem course {moves : List PoolMove} (hsole : pool.Sole) (hcourse : pool.Course moves later)
    (hclose : PoolMove.close ∉ moves) : later.Sole := by
  induction hcourse with
  | nil => exact hsole
  | cons hallows _ ih =>
    rw [List.mem_cons, not_or] at hclose
    exact ih (hsole.move hallows (Ne.symm hclose.1)) hclose.2

end Sole

theorem sole_fresh {options : PoolOptions} (obstacle : Option Failure)
    (hlifetime : options.lifetime = none) (hkeeps : ¬(options.maxOpen = 1 ∧ options.maxIdle = 0)) :
    (fresh memoryPath options obstacle).Sole := by
  have hlimits : (boundsFor memoryPath options).lifetime = none ∧
      (boundsFor memoryPath options).maxOpen ≤ min 1 (boundsFor memoryPath options).maxIdle := by
    unfold boundsFor splitsMemory
    split
    · exact ⟨hlifetime, Nat.le_refl _⟩
    · rename_i hone
      simp only [decide_true, Bool.true_and, decide_eq_true_eq] at hone
      exact ⟨hlifetime, by omega⟩
  constructor
  · rfl
  · exact hlimits.1
  · simpa [fresh] using hlimits.2
  · rfl
  · exact Nat.zero_le _

end SqlitePool

namespace Databases

variable {databases : Databases}

theorem connection_of_begin {connection : Connection} {store : Store} {transaction : Transaction}
    (hmem : transaction ∈ (databases.begin connection store).2.transactions) :
    transaction ∈ databases.transactions ∨ transaction.connection = connection := by
  unfold begin at hmem
  split at hmem
  · exact .inl hmem
  · split at hmem
    · exact .inl hmem
    · obtain rfl | hmem := List.mem_cons.mp hmem
      · exact .inr rfl
      · exact .inl hmem

theorem mem_of_mem_commit {connection : Connection} {transaction : Transaction}
    (hmem : transaction ∈ (databases.commit connection).transactions) :
    transaction ∈ databases.transactions :=
  (List.mem_filter.mp hmem).1

theorem mem_of_mem_takeBack {connection : Connection} {transaction : Transaction}
    (hmem : transaction ∈ (databases.takeBack connection).transactions) :
    transaction ∈ databases.transactions := by
  unfold takeBack at hmem
  split at hmem
  · exact mem_of_mem_commit hmem
  · exact hmem

theorem transactions_change (connection : Connection) (store : Store) (text : String) :
    (databases.change connection store text).2.transactions = databases.transactions := by
  unfold change
  split
  · rfl
  · split <;> rfl

theorem connection_of_execute {connection : Connection} {store : Store} {text : String}
    {transaction : Transaction}
    (hmem : transaction ∈ (databases.execute connection store text).2.transactions) :
    transaction ∈ databases.transactions ∨ transaction.connection = connection := by
  unfold execute at hmem
  split at hmem
  · exact connection_of_begin hmem
  · exact .inl (mem_of_mem_commit hmem)
  · exact .inl (mem_of_mem_takeBack hmem)
  · rw [transactions_change] at hmem
    exact .inl hmem

/-- Nothing is taken back while the connections of all transactions are open. -/
theorem keepOpen_eq_self {isOpen : Connection → Bool}
    (hopen : ∀ transaction ∈ databases.transactions, isOpen transaction.connection = true) :
    databases.keepOpen isOpen = databases := by
  have hnone : (databases.transactions.filter fun transaction =>
      !isOpen transaction.connection) = [] := by
    rw [List.filter_eq_nil_iff]
    intro transaction hmem
    simp [hopen transaction hmem]
  rw [keepOpen, hnone]
  rfl

/-- The one database of the first connection after texts were run on it. -/
def ofTexts (texts : List String) : Databases :=
  texts.foldl (fun databases text => (databases.execute 0 (.own 0) text).2) .empty

theorem ofTexts_concat (texts : List String) (text : String) :
    ofTexts (texts ++ [text]) = ((ofTexts texts).execute 0 (.own 0) text).2 := by
  rw [ofTexts, List.foldl_append]
  rfl

end Databases

namespace PoolSession

variable {session : PoolSession}

def texts (session : PoolSession) : PoolEvent → List String
  | .asked (.execute text) => session.pool.held.getLast?.toList.map fun _ => text
  | .asked (.executeOn connection text) =>
      (session.pool.held.find? (· = connection)).toList.map fun _ => text
  | _ => []

/-- The texts that are run in all that happens, on whatever connection. -/
def textsAll (session : PoolSession) : List PoolEvent → List String
  | [] => []
  | event :: events => session.texts event ++ (session.after event).textsAll events

/-- What an event does to the databases behind a pool, with the texts that are run in it. -/
inductive Touches (session : PoolSession) : List String → PoolSession → Prop
  | nothing {pool : SqlitePool} : Touches session [] { session with pool }
  /-- Connections may be closed. -/
  | moving {pool : SqlitePool} : Touches session [] (session.withPool pool)
  | running {connection : SqliteConnection} {text : String} {databases : Databases}
      (hheld : connection ∈ session.pool.held)
      (hdatabases : (session.databases.execute connection.number (session.storeOf connection)
        text).2 = databases) :
      Touches session [text] { session with databases }

theorem touches_giveBack (connection : Option SqliteConnection) :
    session.Touches [] (session.giveBack connection).2 := by
  cases connection with
  | none => exact .nothing
  | some => exact .moving

theorem touches_runOn (text : String) {connection : Option SqliteConnection}
    (hheld : ∀ chosen ∈ connection, chosen ∈ session.pool.held) :
    session.Touches (connection.toList.map fun _ => text) (session.runOn text connection).2 := by
  cases connection with
  | none => exact .nothing
  | some connection =>
    simp only [runOn, Option.toList_some, List.map_cons, List.map_nil]
    exact .running (hheld connection rfl) rfl

theorem touches_after (event : PoolEvent) :
    session.Touches (session.texts event) (session.after event) := by
  cases event with
  | elapsed | obstructed => exact .nothing
  | asked request =>
    cases request with
    | acquire =>
      simp only [after, meet, texts]
      split <;> exact .moving
    | releaseLast | releaseFirst | release => exact touches_giveBack _
    | pingPool =>
      simp only [after, meet, texts]
      split <;> exact .moving
    | closePool => exact .moving
    | pingHeld =>
      simp only [after, meet, texts]
      split <;> exact .nothing
    | execute text => exact touches_runOn text fun _ => List.mem_of_getLast?
    | executeOn connection text => exact touches_runOn text fun _ => List.mem_of_find?_eq_some

/-- All texts were run on the database of one connection, which is still there. -/
structure OneDatabase (texts : List String) (session : PoolSession) : Prop where
  sole : session.pool.Sole
  transactions : ∀ transaction ∈ session.databases.transactions,
    transaction.connection < session.pool.opened
  databases : session.databases = Databases.ofTexts texts

namespace OneDatabase

variable {texts : List String} {later : PoolSession}

theorem storeOf (hone : session.OneDatabase texts) {connection : SqliteConnection}
    (hheld : connection ∈ session.pool.held) : session.storeOf connection = .own 0 := by
  have htarget : SqliteTarget.ofPath SqlitePool.memoryPath = .memory := by decide +kernel
  rw [PoolSession.storeOf, hone.sole.path, htarget, hone.sole.number_eq_zero hheld]

theorem touches {others : List String} (hone : session.OneDatabase texts)
    (htouches : session.Touches others later) (hsole : later.pool.Sole)
    (hopened : session.pool.opened ≤ later.pool.opened) :
    later.OneDatabase (texts ++ others) := by
  have htransactions : ∀ transaction ∈ session.databases.transactions,
      transaction.connection < later.pool.opened :=
    fun transaction hmem => Nat.lt_of_lt_of_le (hone.transactions transaction hmem) hopened
  cases htouches with
  | nothing =>
    rw [List.append_nil]
    exact ⟨hsole, htransactions, hone.databases⟩
  | @moving pool =>
    have hsame : session.databases.keepOpen pool.isOpen = session.databases :=
      Databases.keepOpen_eq_self fun transaction hmem =>
        (hsole.isOpen_iff _).mpr (htransactions transaction hmem)
    rw [List.append_nil]
    refine ⟨hsole, ?_, hsame.trans hone.databases⟩
    intro transaction hmem
    apply htransactions
    rwa [withPool, hsame] at hmem
  | @running connection text databases hheld hdatabases =>
    have hnumber := hone.sole.number_eq_zero hheld
    have hpresent : connection.number < session.pool.opened :=
      hone.sole.number_lt (List.mem_append_left _ hheld)
    refine ⟨hsole, ?_, ?_⟩
    · intro transaction (hmem : transaction ∈ databases.transactions)
      rw [← hdatabases] at hmem
      obtain hmem | heq := Databases.connection_of_execute hmem
      · exact htransactions transaction hmem
      · rw [heq]
        exact hpresent
    · rw [Databases.ofTexts_concat, ← hone.databases, ← hdatabases, hone.storeOf hheld, hnumber]

theorem after {event : PoolEvent} (hone : session.OneDatabase texts)
    (hevent : event ≠ .asked .closePool) :
    (session.after event).OneDatabase (texts ++ session.texts event) := by
  have hcourse := session.course_after event
  have hclose : PoolMove.close ∉ session.moves event :=
    fun hmem => hevent ((close_mem_moves_iff event).mp hmem).symm
  exact hone.touches (touches_after event) (hone.sole.course hcourse hclose) hcourse.opened_le

theorem afterAll {events : List PoolEvent} (hone : session.OneDatabase texts)
    (hopen : .asked .closePool ∉ events) :
    (session.afterAll events).OneDatabase (texts ++ session.textsAll events) := by
  induction events generalizing session texts with
  | nil => simpa [PoolSession.afterAll, textsAll] using hone
  | cons event events ih =>
    rw [List.mem_cons, not_or] at hopen
    have hlater := ih (hone.after (Ne.symm hopen.1)) hopen.2
    rwa [List.append_assoc] at hlater

theorem answer (hone : session.OneDatabase texts) {connection : SqliteConnection}
    (hheld : connection ∈ session.pool.held) (text : String) :
    (session.meet (.executeOn connection text)).1 =
      .done ((Databases.ofTexts texts).execute 0 (.own 0) text).1 := by
  have hfind : session.pool.held.find? (· = connection) = some connection := by
    cases hfound : session.pool.held.find? (· = connection) with
    | none => simpa using List.find?_eq_none.mp hfound connection hheld
    | some found => simpa using List.find?_some hfound
  simp only [meet, runOn, hfind, hone.storeOf hheld, hone.sole.number_eq_zero hheld,
    hone.databases]

end OneDatabase

theorem oneDatabase_fresh {options : PoolOptions} (directory : Directory)
    (hlifetime : options.lifetime = none) (hkeeps : ¬(options.maxOpen = 1 ∧ options.maxIdle = 0)) :
    (fresh directory ":memory:" options).OneDatabase [] where
  sole := SqlitePool.sole_fresh _ hlifetime hkeeps
  transactions _ hmem := absurd hmem List.not_mem_nil
  databases := rfl

theorem fresh_memory (directory : Directory) (options : PoolOptions) :
    fresh directory ":memory:" options = ⟨.fresh ":memory:" options none, .empty⟩ := by
  have htarget : SqliteTarget.ofPath ":memory:" = .memory := by decide +kernel
  rw [fresh, SqliteTarget.obstacle, htarget]

/-- Two checkouts open two connections if one may be open and none idle. -/
theorem opened_afterAll_of_no_idle (directory : Directory) {options : PoolOptions}
    (hlifetime : options.lifetime = none) (hlimits : options.maxOpen = 1 ∧ options.maxIdle = 0) :
    ((fresh directory ":memory:" options).afterAll
      [.asked .acquire, .asked .releaseLast, .asked .acquire]).pool.opened = 2 := by
  have hoptions : options = ⟨1, 0, none⟩ := by
    cases options
    simp_all
  rw [hoptions, fresh_memory]
  decide +kernel

/-- A pool for a database in memory, whose connections are used for ever, opens one connection at
most whatever is asked of it before it is closed, except where one connection may be open and none
idle.  Then every text, on whatever checkout, is run on one database, behind all texts that were run
before on any checkout, and gets the answer of this database.  While no text is run the database
stays as it is, so each checkout finds what the one before has left. -/
theorem afterAll_memory_is_one_database (directory : Directory) (options : PoolOptions)
    (hlifetime : options.lifetime = none) :
    let unused := fresh directory ":memory:" options
    ((∀ events, .asked .closePool ∉ events → (unused.afterAll events).pool.opened ≤ 1) ↔
      ¬(options.maxOpen = 1 ∧ options.maxIdle = 0)) ∧
    (¬(options.maxOpen = 1 ∧ options.maxIdle = 0) →
      ∀ events, .asked .closePool ∉ events →
        let session := unused.afterAll events
        let database := Databases.ofTexts (unused.textsAll events)
        session.databases = database ∧
        (∀ connection ∈ session.pool.held, ∀ text,
          (session.meet (.executeOn connection text)).1 =
            .done (database.execute 0 (.own 0) text).1) ∧
        ∀ later, .asked .closePool ∉ later → session.textsAll later = [] →
          (session.afterAll later).databases = database) := by
  intro unused
  have hone : ¬(options.maxOpen = 1 ∧ options.maxIdle = 0) → ∀ events,
      .asked .closePool ∉ events →
        (unused.afterAll events).OneDatabase (unused.textsAll events) :=
    fun hkeeps _ hopen => (oneDatabase_fresh directory hlifetime hkeeps).afterAll hopen
  refine ⟨⟨?_, ?_⟩, ?_⟩
  · intro hopened hlimits
    have htwo := opened_afterAll_of_no_idle directory hlifetime hlimits
    have hbound := hopened [.asked .acquire, .asked .releaseLast, .asked .acquire] (by decide)
    rw [htwo] at hbound
    exact absurd hbound (by decide)
  · intro hkeeps events hopen
    exact (hone hkeeps events hopen).sole.opened
  · intro hkeeps events hopen session database
    have hsession : session.OneDatabase (unused.textsAll events) := hone hkeeps events hopen
    refine ⟨hsession.databases, fun _ hheld text => hsession.answer hheld text, ?_⟩
    intro later hlater hnothing
    have hdatabases := (hsession.afterAll hlater).databases
    rwa [hnothing, List.append_nil] at hdatabases

/-- More than one connection is asked for, and none that is idle.  The table that was made on the
first checkout is there on the second one. -/
theorem afterAll_memory_is_one_database_of_four :
    let options : PoolOptions := .ofRaw 4 (some 0) 0
    let events : List PoolEvent := [.asked .acquire, .asked (.execute "CREATE TABLE t (a)")]
    let later : List PoolEvent := [.asked .releaseLast, .asked .pingPool, .asked .acquire]
    let session := (fresh [] ":memory:" options).afterAll events
    options.lifetime = none ∧ ¬(options.maxOpen = 1 ∧ options.maxIdle = 0) ∧
    .asked .closePool ∉ events ∧ .asked .closePool ∉ later ∧ session.textsAll later = [] ∧
    session.pool.opened ≤ 1 ∧ (session.afterAll later).databases.tables = [⟨.own 0, "t"⟩] := by
  intro options events later
  have hlifetime : options.lifetime = none := rfl
  have hkeeps : ¬(options.maxOpen = 1 ∧ options.maxIdle = 0) := by decide
  have hopen : .asked .closePool ∉ events := by decide
  have hlater : .asked .closePool ∉ later := by decide
  have hnothing : ((fresh [] ":memory:" options).afterAll events).textsAll later = [] := by
    decide +kernel
  have htable : (Databases.ofTexts ((fresh [] ":memory:" options).textsAll events)).tables =
      [⟨.own 0, "t"⟩] := by decide +kernel
  obtain ⟨hopened, hone⟩ := afterAll_memory_is_one_database [] options hlifetime
  have hsame := (hone hkeeps events hopen).2.2 later hlater hnothing
  rw [← hsame] at htable
  exact ⟨hlifetime, hkeeps, hopen, hlater, hnothing, hopened.mpr hkeeps events hopen, htable⟩

/-- The table that was made on the first checkout is not there on the second one. -/
theorem exists_second_database :
    let options : PoolOptions := .ofRaw 1 (some 0) 0
    let session := (fresh [] ":memory:" options).afterAll
      [.asked .acquire, .asked (.execute "CREATE TABLE t (a)"), .asked .releaseLast,
        .asked .acquire]
    options.lifetime = none ∧ session.pool.opened = 2 ∧ session.pool.held = [⟨1, 0⟩] ∧
    (session.databases.execute 1 (session.storeOf ⟨1, 0⟩) "CREATE TABLE t (a)").1 = .ok () := by
  decide +kernel

end PoolSession
end SqlPipe
