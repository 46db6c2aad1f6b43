import SqlPipe.Proofs.Pool.Course
import Mathlib.Data.List.Nodup
import Mathlib.Data.List.Perm.Basic

/-!
# The limits of a pool

Permits and idle connections are counted apart: a permit is taken before the idle connections are
looked at, and it is free again only after the connection was put among them.  Two facts tie them
together.  Permits and connections that are checked out are as many as may be open; and a connection
is opened only when none is idle, while one that is given back only changes its place, so no more
connections are open than may be.

The idle connections stand in the order in which they were given back, and the one that was given
back last is handed out first.
-/

namespace SqlPipe

namespace SqlitePool

/-- A pool keeps within its limits.  `returns` are the connections that were given back to it, the
last one first. -/
structure Sound (limits : PoolOptions) (returns : List SqliteConnection) (pool : SqlitePool) :
    Prop where
  options : pool.options = limits
  permits : pool.held.length + pool.permits = limits.maxOpen
  idle : pool.idle.length ≤ limits.maxIdle
  room : pool.held.length + pool.idle.length ≤ limits.maxOpen
  opened : ∀ connection ∈ pool.held ++ pool.idle, connection.number < pool.opened
  nodup : ((pool.held ++ pool.idle).map SqliteConnection.number).Nodup
  returned : pool.idle ⊆ returns
  order : pool.idle.Pairwise fun first second => returns.idxOf first < returns.idxOf second

theorem sound_fresh {path : String} {options : PoolOptions} {obstacle : Option Failure} :
    (fresh path options obstacle).Sound (boundsFor path options) [] where
  options := rfl
  permits := Nat.zero_add _
  idle := Nat.zero_le _
  room := Nat.zero_le _
  opened _ hmem := absurd hmem List.not_mem_nil
  nodup := List.nodup_nil
  returned := List.nil_subset _
  order := .nil

namespace Sound

variable {limits : PoolOptions} {returns : List SqliteConnection} {pool later : SqlitePool}

theorem of_sublist (hsound : pool.Sound limits returns) (hoptions : later.options = pool.options)
    (hheld : later.held = pool.held) (hpermits : later.permits = pool.permits)
    (hopened : later.opened = pool.opened) (hidle : later.idle.Sublist pool.idle) :
    later.Sound limits returns := by
  have hsublist : (later.held ++ later.idle).Sublist (pool.held ++ pool.idle) := by
    rw [hheld]
    exact hidle.append_left _
  have hlength := hidle.length_le
  constructor
  · exact hoptions.trans hsound.options
  · rw [hheld, hpermits]
    exact hsound.permits
  · exact Nat.le_trans hlength hsound.idle
  · rw [hheld]
    exact Nat.le_trans (Nat.add_le_add_left hlength _) hsound.room
  · intro connection hmem
    rw [hopened]
    exact hsound.opened connection (hsublist.subset hmem)
  · exact hsound.nodup.sublist (hsublist.map _)
  · exact List.Subset.trans hidle.subset hsound.returned
  · exact hsound.order.sublist hidle

theorem reused {permits : Nat} {passed rest : List SqliteConnection}
    {connection : SqliteConnection} (hsound : pool.Sound limits returns)
    (hpermits : pool.permits = permits + 1) (hidle : pool.idle = passed ++ connection :: rest) :
    Sound limits returns
      { pool with idle := rest, held := pool.held ++ [connection], permits } := by
  have hsum := hsound.permits
  have hroom := hsound.room
  have hsuffix : (connection :: rest).Sublist pool.idle := by
    rw [hidle]
    exact List.sublist_append_right _ _
  have hsublist : (pool.held ++ [connection] ++ rest).Sublist (pool.held ++ pool.idle) := by
    rw [List.append_assoc]
    exact hsuffix.append_left _
  have hrest := (List.sublist_cons_self connection rest).trans hsuffix
  have hlength := hsuffix.length_le
  rw [List.length_cons] at hlength
  constructor
  · exact hsound.options
  · simp only [List.length_append, List.length_singleton]
    omega
  · exact Nat.le_trans hrest.length_le hsound.idle
  · simp only [List.length_append, List.length_singleton]
    omega
  · intro other hmem
    exact hsound.opened other (hsublist.subset hmem)
  · exact hsound.nodup.sublist (hsublist.map _)
  · exact List.Subset.trans hrest.subset hsound.returned
  · exact hsound.order.sublist hrest

/-- The number of a connection that is opened now is greater than all those that are held. -/
theorem openedNew {permits : Nat} (hsound : pool.Sound limits returns)
    (hpermits : pool.permits = permits + 1) :
    Sound limits returns
      { pool with
        idle := []
        held := pool.held ++ [⟨pool.opened, pool.now⟩]
        permits
        opened := pool.opened + 1 } := by
  have hsum := hsound.permits
  have hheld : ∀ connection ∈ pool.held, connection.number < pool.opened :=
    fun connection hmem => hsound.opened connection (List.mem_append_left _ hmem)
  have hnodup : (pool.held.map SqliteConnection.number).Nodup :=
    hsound.nodup.sublist ((List.sublist_append_left _ _).map _)
  constructor
  · exact hsound.options
  · simp only [List.length_append, List.length_singleton]
    omega
  · exact Nat.zero_le _
  · -- none is idle any more, so the permit alone makes room
    simp only [List.length_append, List.length_singleton, List.length_nil]
    omega
  · intro connection hmem
    simp only [List.append_nil, List.mem_append, List.mem_singleton] at hmem
    obtain hmem | rfl := hmem
    · exact Nat.lt_succ_of_lt (hheld connection hmem)
    · exact Nat.lt_succ_self _
  · simp only [List.append_nil, List.map_append, List.map_cons, List.map_nil]
    refine List.nodup_append.mpr ⟨hnodup, List.nodup_singleton _, ?_⟩
    intro number hmem other hother
    obtain ⟨connection, hconnection, rfl⟩ := List.mem_map.mp hmem
    rw [List.mem_singleton.mp hother]
    exact Nat.ne_of_lt (hheld connection hconnection)
  · exact List.nil_subset _
  · exact .nil

theorem acquire (hsound : pool.Sound limits returns) : pool.acquire.2.Sound limits returns := by
  have hacquired := pool.acquired
  generalize pool.acquire = acquired at hacquired ⊢
  cases hacquired with
  | closed | exhausted => exact hsound
  | reused _ hpermits hidle => exact hsound.reused hpermits hidle
  | opened _ hpermits => exact hsound.openedNew hpermits
  | obstructed => exact hsound.of_sublist rfl rfl rfl rfl (List.nil_sublist _)

section Returning

variable {connection : SqliteConnection} (hsound : pool.Sound limits returns)
  (hheld : connection ∈ pool.held)

include hsound hheld

theorem ne_of_mem_idle {other : SqliteConnection} (hidle : other ∈ pool.idle) :
    connection ≠ other := by
  rintro rfl
  have hnodup := hsound.nodup
  rw [List.map_append] at hnodup
  exact hnodup.disjoint (List.mem_map_of_mem hheld) (List.mem_map_of_mem hidle)

/-- Beside the one that is given back now, the others were given back in the same order. -/
theorem order_of_returned :
    pool.idle.Pairwise fun first second =>
      (connection :: returns).idxOf first < (connection :: returns).idxOf second := by
  refine hsound.order.imp_of_mem ?_
  intro first second hfirst hsecond hlt
  rw [List.idxOf_cons_ne _ (hsound.ne_of_mem_idle hheld hfirst),
    List.idxOf_cons_ne _ (hsound.ne_of_mem_idle hheld hsecond)]
  exact Nat.succ_lt_succ hlt

theorem kept (hspace : pool.idle.length < limits.maxIdle) :
    Sound limits (connection :: returns)
      { pool with
        idle := connection :: pool.idle
        held := pool.held.erase connection
        permits := pool.permits + 1 } := by
  have hsum := hsound.permits
  have hroom := hsound.room
  have hlength := List.length_erase_add_one hheld
  have hperm : (pool.held.erase connection ++ connection :: pool.idle).Perm
      (pool.held ++ pool.idle) :=
    List.perm_middle.trans ((List.perm_cons_erase hheld).symm.append_right _)
  constructor
  · exact hsound.options
  · simp only
    omega
  · exact hspace
  · simp only [List.length_cons]
    omega
  · intro other hmem
    exact hsound.opened other (hperm.subset hmem)
  · exact (hperm.map _).nodup_iff.mpr hsound.nodup
  · exact List.cons_subset_cons _ hsound.returned
  · refine List.pairwise_cons.mpr ⟨?_, hsound.order_of_returned hheld⟩
    intro other hmem
    rw [List.idxOf_cons_self, List.idxOf_cons_ne _ (hsound.ne_of_mem_idle hheld hmem)]
    exact Nat.succ_pos _

theorem dropped :
    Sound limits (connection :: returns)
      { pool with
        held := pool.held.erase connection
        permits := pool.permits + 1 } := by
  have hsum := hsound.permits
  have hroom := hsound.room
  have hlength := List.length_erase_add_one hheld
  have hsublist : (pool.held.erase connection ++ pool.idle).Sublist (pool.held ++ pool.idle) :=
    List.erase_sublist.append_right _
  constructor
  · exact hsound.options
  · simp only
    omega
  · exact hsound.idle
  · simp only
    omega
  · intro other hmem
    exact hsound.opened other (hsublist.subset hmem)
  · exact hsound.nodup.sublist (hsublist.map _)
  · exact List.subset_cons_of_subset _ hsound.returned
  · exact hsound.order_of_returned hheld

theorem release : (pool.release connection).Sound limits (connection :: returns) := by
  have hreleased := pool.released connection
  generalize pool.release connection = later at hreleased ⊢
  cases hreleased with
  | kept _ hspace =>
    rw [hsound.options] at hspace
    exact hsound.kept hheld hspace
  | dropped => exact hsound.dropped hheld

end Returning

theorem move {move : PoolMove} (hsound : pool.Sound limits returns) (hallows : pool.Allows move) :
    (pool.move move).Sound limits (move.returned?.toList ++ returns) := by
  cases move with
  | acquire => exact hsound.acquire
  | release => exact hsound.release hallows
  | close => exact hsound.of_sublist rfl rfl rfl rfl (List.nil_sublist _)
  | elapse | obstruct => exact hsound.of_sublist rfl rfl rfl rfl (List.Sublist.refl _)

theorem course {moves : List PoolMove} (hsound : pool.Sound limits returns)
    (hcourse : pool.Course moves later) :
    later.Sound limits ((moves.filterMap PoolMove.returned?).reverse ++ returns) := by
  induction hcourse generalizing returns with
  | nil => exact hsound
  | @cons pool later move moves hallows _ ih =>
    have hlater := ih (hsound.move hallows)
    cases hreturned : move.returned? <;> simpa [hreturned] using hlater

end Sound

/-- The connection is idle and may still be used, and was given back later than all others that are
idle and may still be used. -/
structure LastReturned (returns : List SqliteConnection) (pool : SqlitePool)
    (connection : SqliteConnection) : Prop where
  idle : connection ∈ pool.idle
  usable : pool.expired connection = false
  returned : connection ∈ returns
  last : ∀ other ∈ pool.idle, pool.expired other = false → other ≠ connection →
    returns.idxOf connection < returns.idxOf other

/-- Who asks for a connection has not to wait.  The idle one that was given back last is handed out,
and another one is opened only if none is idle that may still be used. -/
def ServesAtOnce (returns : List SqliteConnection) (pool : SqlitePool) : Prop :=
  (∃ connection, pool.LastReturned returns connection ∧
    pool.acquire.1 = .ready connection ∧ pool.acquire.2.opened = pool.opened) ∨
  ((∀ other ∈ pool.idle, pool.expired other = true) ∧
    ((pool.acquire.1 = .ready ⟨pool.opened, pool.now⟩ ∧
        pool.acquire.2.opened = pool.opened + 1) ∨
      ∃ failure, pool.obstacle = some failure ∧ pool.acquire.1 = .refused failure))

theorem Sound.servesAtOnce {limits : PoolOptions} {returns : List SqliteConnection}
    {pool : SqlitePool} (hsound : pool.Sound limits returns) (hopen : pool.closed = false)
    (hroom : pool.held.length < limits.maxOpen) : pool.ServesAtOnce returns := by
  have hpermits := hsound.permits
  have hacquired := pool.acquired
  unfold ServesAtOnce
  generalize pool.acquire = acquired at hacquired ⊢
  cases hacquired with
  | closed hclosed => simp [hopen] at hclosed
  | exhausted _ hnone => omega
  | @reused permits passed rest connection _ _ hidle hpassed husable =>
    have hmem : connection ∈ pool.idle := by
      rw [hidle]
      exact List.mem_append_right _ List.mem_cons_self
    have horder := hsound.order
    rw [hidle] at horder
    have hlast := (List.pairwise_cons.mp (List.pairwise_append.mp horder).2.1).1
    refine .inl ⟨connection, ⟨hmem, husable, hsound.returned hmem, ?_⟩, rfl, rfl⟩
    intro other hother hstill hne
    rw [hidle, List.mem_append, List.mem_cons] at hother
    obtain hpast | rfl | hrest := hother
    · rw [hpassed other hpast] at hstill
      cases hstill
    · exact absurd rfl hne
    · exact hlast other hrest
  | opened _ _ hidle => exact .inr ⟨hidle, .inl ⟨rfl, rfl⟩⟩
  | obstructed _ _ hidle hobstacle => exact .inr ⟨hidle, .inr ⟨_, hobstacle, rfl⟩⟩

theorem boundsFor_eq (path : String) (options : PoolOptions) :
    boundsFor path options =
      if path = ":memory:" ∧ 1 < options.maxOpen then ⟨1, 1, options.lifetime⟩ else options := by
  simp only [boundsFor, splitsMemory, Bool.and_eq_true, decide_eq_true_eq]
  rfl

end SqlitePool

end SqlPipe
