import GroupedReport.Expression.Node

/-!
# The cache of a run

A run keeps values under slots: the values of aggregates, and what the elements of a report store
under their names. It counts how the cache is used.
-/

namespace GroupedReport

/-- What a value is kept under. -/
inductive Slot where
  | aggregate (key : Expression.AggregateKey)
  | workState (owner name : String)
deriving DecidableEq, Repr

def Slot.text : Slot → String
  | aggregate key => "aggregate #" ++ Text.Digits.numeral key
  | workState owner name => owner ++ "/" ++ name

structure CacheStats where
  hits : Nat := 0
  misses : Nat := 0
  stores : Nat := 0
  invalidations : Nat := 0
deriving DecidableEq, Repr

structure Cache where
  entries : List (Slot × Value) := []
  stats : CacheStats := {}

namespace Cache

/-- The value of a slot, without counting. -/
def peek? (cache : Cache) (slot : Slot) : Option Value :=
  cache.entries.lookup slot

def get? (cache : Cache) (slot : Slot) : Option Value × Cache :=
  match cache.peek? slot with
  | some value => (some value, { cache with stats.hits := cache.stats.hits + 1 })
  | none => (none, { cache with stats.misses := cache.stats.misses + 1 })

def without (slot : Slot) (entries : List (Slot × Value)) : List (Slot × Value) :=
  entries.filter fun entry => entry.1 != slot

def store (cache : Cache) (slot : Slot) (value : Value) : Cache :=
  { cache with
    entries := (slot, value) :: without slot cache.entries
    stats.stores := cache.stats.stores + 1 }

def drop (cache : Cache) (slot : Slot) : Cache :=
  if (cache.peek? slot).isSome then
    { cache with
      entries := without slot cache.entries
      stats.invalidations := cache.stats.invalidations + 1 }
  else cache

def clear (cache : Cache) : Cache :=
  { cache with entries := [] }

@[simp] theorem peek?_store (cache : Cache) (slot : Slot) (value : Value) :
    (cache.store slot value).peek? slot = some value := by
  simp [peek?, store]

end Cache

end GroupedReport
