/-!
# Pool options

How many connections a pool may have open, how many of them it keeps when nobody uses them, and for
how long it uses one.
-/

namespace SqlPipe

/-- The bounds of a pool. -/
structure PoolOptions where
  maxOpen : Nat
  /-- The most connections that are kept while nobody uses them. -/
  maxIdle : Nat
  /-- The seconds for which a connection is used; without a number, always. -/
  lifetime : Option Nat
  deriving DecidableEq, Repr

namespace PoolOptions

def defaultMaxOpen : Nat := 25

/-- The bounds that raw numbers ask for.  A number of open connections that is not positive asks for
the default; idle connections are as many as open ones unless fewer are asked for; a lifetime of
zero is no bound. -/
def ofRaw (maxOpen : Int) (maxIdle : Option Int) (lifetime : Nat) : PoolOptions :=
  let maxOpen := if maxOpen ≤ 0 then defaultMaxOpen else maxOpen.toNat
  { maxOpen
    maxIdle := match maxIdle with
      | some idle => min idle.toNat maxOpen
      | none => maxOpen
    lifetime := if lifetime = 0 then none else some lifetime }

def default : PoolOptions := ofRaw defaultMaxOpen none 0

theorem maxOpen_pos_ofRaw (maxOpen : Int) (maxIdle : Option Int) (lifetime : Nat) :
    0 < (ofRaw maxOpen maxIdle lifetime).maxOpen := by
  simp only [ofRaw, defaultMaxOpen]
  split <;> omega

theorem maxIdle_le_maxOpen_ofRaw (maxOpen : Int) (maxIdle : Option Int) (lifetime : Nat) :
    (ofRaw maxOpen maxIdle lifetime).maxIdle ≤ (ofRaw maxOpen maxIdle lifetime).maxOpen := by
  cases maxIdle <;> simp only [ofRaw] <;> omega

end PoolOptions

end SqlPipe
