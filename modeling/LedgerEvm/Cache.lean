namespace LedgerEvm

/-!
# Caches

A cache keeps a bounded number of values, dropping the one that was asked for
longest ago.  A value may also grow too old to be served, counted from when it was
loaded or from when it was last asked for.  A load that fails is not kept.
-/

/-- When a kept value is too old, in milliseconds. -/
inductive Expiry where
  | never
  | afterWrite (lifetime : Nat)
  | afterAccess (lifetime : Nat)
  deriving Repr, DecidableEq

namespace Expiry

/-- Whether a value stamped at one time is too old at another. -/
def isOver (expiry : Expiry) (stamp now : Nat) : Bool :=
  match expiry with
  | .never => false
  | .afterWrite lifetime => decide (lifetime ≤ now - stamp)
  | .afterAccess lifetime => decide (lifetime ≤ now - stamp)

/-- The stamp of a value that is served. -/
def restamp (expiry : Expiry) (stamp now : Nat) : Nat :=
  match expiry with
  | .afterAccess _ => now
  | _ => stamp

end Expiry

/-- How many values a cache keeps, and for how long. -/
structure CachePolicy where
  maxSize : Nat
  expiry : Expiry
  deriving Repr, DecidableEq

/-- A kept value. -/
structure CacheEntry (κ ν : Type) where
  key : κ
  value : ν
  stamp : Nat
  deriving Repr, DecidableEq

/-- Kept values, the one asked for last first. -/
structure Cache (κ ν : Type) where
  policy : CachePolicy
  entries : List (CacheEntry κ ν)
  deriving Repr, DecidableEq

namespace Cache

variable {κ ν ε : Type} [DecidableEq κ]

/-- The cache without values. -/
def ofPolicy (policy : CachePolicy) : Cache κ ν :=
  ⟨policy, []⟩

/-- How many values may be kept, at least one. -/
def capacity (cache : Cache κ ν) : Nat :=
  max cache.policy.maxSize 1

/-- How many values are kept. -/
def size (cache : Cache κ ν) : Nat :=
  cache.entries.length

/-- The kept entry of a key. -/
def find? (cache : Cache κ ν) (key : κ) : Option (CacheEntry κ ν) :=
  cache.entries.find? fun entry => entry.key = key

/-- The entries of all other keys. -/
def others (cache : Cache κ ν) (key : κ) : List (CacheEntry κ ν) :=
  cache.entries.filter fun entry => entry.key ≠ key

/-- Drop the entry of a key. -/
def invalidate (cache : Cache κ ν) (key : κ) : Cache κ ν :=
  { cache with entries := cache.others key }

/-- Keep a value; when there is no room the one asked for longest ago goes. -/
def put (cache : Cache κ ν) (key : κ) (value : ν) (now : Nat) : Cache κ ν :=
  { cache with
    entries := ⟨key, value, now⟩ :: (cache.others key).take (cache.capacity - 1) }

/-- The value of a key that is kept and not too old. -/
def lookup (cache : Cache κ ν) (key : κ) (now : Nat) : Option ν × Cache κ ν :=
  match cache.find? key with
  | none => (none, cache)
  | some entry =>
      if cache.policy.expiry.isOver entry.stamp now then
        (none, cache.invalidate key)
      else
        let served := { entry with stamp := cache.policy.expiry.restamp entry.stamp now }
        (some entry.value, { cache with entries := served :: cache.others key })

/--
The kept value of a key, or the loaded one, which is then kept.  The flag tells
whether a load was made.
-/
def getOrLoad
    (cache : Cache κ ν)
    (key : κ)
    (now : Nat)
    (load : Except ε ν) :
    Except ε ν × Bool × Cache κ ν :=
  match cache.lookup key now with
  | (some value, served) => (.ok value, false, served)
  | (none, missed) =>
      match load with
      | .ok value => (.ok value, true, missed.put key value now)
      | .error error => (.error error, true, missed)

/-- What was put is kept, however full the cache was. -/
theorem find?_put_self
    (cache : Cache κ ν)
    (key : κ)
    (value : ν)
    (now : Nat) :
    (cache.put key value now).find? key = some ⟨key, value, now⟩ := by
  simp [put, find?]

/-- A cache that is put to stays within its capacity. -/
theorem size_put_le
    (cache : Cache κ ν)
    (key : κ)
    (value : ν)
    (now : Nat) :
    (cache.put key value now).size ≤ (cache.put key value now).capacity := by
  simp only [size, put, List.length_cons, List.length_take, capacity]
  omega

end Cache

end LedgerEvm
