import SearchCollection.Number.Binary64

/-! # Counters of a cache

How often a cache had what was asked for, how often it had not, and how often an
entry was dropped.
-/

namespace SearchCollection

structure Counters where
  hits : Nat := 0
  misses : Nat := 0
  invalidations : Nat := 0
deriving DecidableEq

namespace Counters

def hit (counters : Counters) : Counters :=
  { counters with hits := counters.hits + 1 }

def miss (counters : Counters) : Counters :=
  { counters with misses := counters.misses + 1 }

def invalidate (counters : Counters) (count : Nat) : Counters :=
  { counters with invalidations := counters.invalidations + count }

/-- How often the cache was asked. -/
def total (counters : Counters) : Nat :=
  counters.hits + counters.misses

/-- The part of the lookups that hit, zero before the first. -/
def hitRate (counters : Counters) : Binary64 :=
  if counters.total = 0 then .zero
  else (Binary64.ofInt counters.hits).div (.ofInt counters.total)

end Counters

end SearchCollection
