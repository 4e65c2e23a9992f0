import EventHub.Hub.State
import EventHub.Value.Coerce

/-!
# The cache of a hub

* `lifetimeOf`: the lifetime that an entry is given; what counts as false is no lifetime.
-/

namespace EventHub

variable {α : Type}

/-- The lifetime of an entry: the given one, or the default. -/
def lifetimeOf (default ttl : Value) : Except Fault (Option Float) :=
  let given := fun v : Value => if v.isNull then none else some v
  match Cache.lifetime Value.truthy (given default) (given ttl) with
  | some seconds => some <$> seconds.toFloat
  | none => .ok none

/-- Changes the cache. -/
def modifyCache (f : Cache Key Float Value → Cache Key Float Value) : Task α Unit :=
  modify fun h => { h with cache := f h.cache }

/-- Keeps a value under a key. -/
def storeValue (key value ttl : Value) : Task α Unit := do
  let h ← get
  let lifetime ← Task.ofExcept (lifetimeOf h.cacheLifetime ttl)
  let key ← Task.ofExcept key.key?
  modifyCache fun c => c.set key value lifetime h.elapsed

/-- The live value of a key, or the default. -/
def fetchValue (key default : Value) : Task α Value := do
  let h ← get
  let key ← Task.ofExcept key.key?
  let (value, cache) := h.cache.getD key default h.elapsed
  modifyCache fun _ => cache
  return value

/-- Drops a key and tells whether it was there. -/
def dropValue (key : Value) : Task α Bool := do
  let key ← Task.ofExcept key.key?
  let (found, cache) := (← get).cache.delete key
  modifyCache fun _ => cache
  return found

/-- Drops every expired entry and counts them. -/
def purgeValues : Task α Nat := do
  let h ← get
  let (n, cache) := h.cache.purge h.elapsed
  modifyCache fun _ => cache
  return n

end EventHub
