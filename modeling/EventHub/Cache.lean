import EventHub.Assoc

/-!
# A cache with lifetimes

Entries may expire. An expired entry is taken out when it is asked for, or when the cache is
purged; until then it only occupies its place. Keys and times are of any types, times ordered.

* `Cache.lifetime`: the lifetime of an entry, if it has one.
-/

namespace EventHub

/-- A value and the time from which on it is expired. -/
structure CacheEntry (τ α : Type) where
  value : α
  expires : Option τ

/-- Entries by key. -/
abbrev Cache (κ τ α : Type) := List (κ × CacheEntry τ α)

variable {κ τ α : Type} [BEq κ] [LE τ] [DecidableLE τ]

/-- Is the entry expired at the time? -/
def CacheEntry.expired (e : CacheEntry τ α) (now : τ) : Bool :=
  match e.expires with
  | some t => decide (t ≤ now)
  | none => false

namespace Cache

/-- The lifetime of an entry: the given one or else the default, unless it is one that does not
count. -/
def lifetime {σ : Type} (counts : σ → Bool) (default given : Option σ) : Option σ :=
  (given.or default).filter counts

/-- Sets a key, with a lifetime or without. -/
def set [Add τ] (cache : Cache κ τ α) (key : κ) (value : α) (lifetime : Option τ) (now : τ) :
    Cache κ τ α :=
  Assoc.put cache key ⟨value, lifetime.map (now + ·)⟩

/-- The live value of a key; an expired entry is taken out. -/
def get (cache : Cache κ τ α) (key : κ) (now : τ) : Option α × Cache κ τ α :=
  match Assoc.get? cache key with
  | none => (none, cache)
  | some e => if e.expired now then (none, Assoc.erase cache key) else (some e.value, cache)

/-- The live value of a key, or the default. -/
def getD (cache : Cache κ τ α) (key : κ) (default : α) (now : τ) : α × Cache κ τ α :=
  let (found, cache) := cache.get key now
  (found.getD default, cache)

/-- Takes a key out and tells whether it was there, expired or not. -/
def delete (cache : Cache κ τ α) (key : κ) : Bool × Cache κ τ α :=
  (Assoc.has cache key, Assoc.erase cache key)

/-- Takes out every expired entry and counts them. -/
def purge (cache : Cache κ τ α) (now : τ) : Nat × Cache κ τ α :=
  (cache.countP fun e => e.2.expired now, cache.filter fun e => !e.2.expired now)

end Cache

end EventHub
