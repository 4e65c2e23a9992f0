import EventHub.Cache
import EventHub.Proofs.Assoc
import Mathlib.Algebra.Order.BigOperators.Group.List
import Mathlib.Algebra.Order.Group.Defs
import Mathlib.Algebra.Order.Group.Int
import Mathlib.Algebra.Order.Ring.Int
import Mathlib.Data.List.Basic

/-!
# A cache is a timed map

What a cache answers is told from what was done with it: which value a key was last set to, with which
lifetime, and how much time has passed since. Times are exact, in any ordered group.

* **Steps** (`Cache.Step`): the calls of a cache, and time that passes between them.
* **Histories** (`Cache.LastSet`, `Cache.Lasts`): the last time that a key was set, if it was not deleted
  since, and whether what it was set to is still live.
* **Entries** (`Cache.Held`): an entry stays until a call comes upon it that is after its time. One step
  (`Cache.Holds.run`) keeps the cache in line with its history, and so does every run (`Cache.holds_after`).
* `Cache.answers_of_history`: what a look-up and a purge answer.
-/

namespace EventHub.Cache

variable {κ τ α : Type} [AddCommGroup τ] [LinearOrder τ]

/-! ## Steps -/

/-- A call of a cache, or time that passes. -/
inductive Step (κ τ α : Type) [Zero τ] [LE τ]
  | set (key : κ) (value : α) (ttl : Option τ)
  | get (key : κ) (default : α)
  | delete (key : κ)
  | purge
  | pass (time : τ) (forward : 0 ≤ time)

/-- What a step answers. -/
inductive Answer (α : Type)
  | nothing
  | value (v : α)
  | found (b : Bool)
  | count (n : Nat)
deriving DecidableEq

/-- A cache at a time. -/
structure Timed (κ τ α : Type) where
  cache : Cache κ τ α
  now : τ

section Run

variable [BEq κ]

/-- A step of a cache with a default lifetime; zero is no lifetime. -/
def Step.run (default : Option τ) (t : Timed κ τ α) : Step κ τ α → Answer α × Timed κ τ α
  | set key value ttl =>
    (.nothing, ⟨t.cache.set key value (lifetime (fun l => decide (l ≠ 0)) default ttl) t.now, t.now⟩)
  | get key d =>
    let (v, cache) := t.cache.getD key d t.now
    (.value v, ⟨cache, t.now⟩)
  | delete key =>
    let (found, cache) := t.cache.delete key
    (.found found, ⟨cache, t.now⟩)
  | purge =>
    let (n, cache) := t.cache.purge t.now
    (.count n, ⟨cache, t.now⟩)
  | pass time _ => (.nothing, ⟨t.cache, t.now + time⟩)

/-- A cache that was empty at the start, after the steps. -/
def after (default : Option τ) (start : τ) (steps : List (Step κ τ α)) : Timed κ τ α :=
  steps.foldl (fun t s => (s.run default t).2) ⟨[], start⟩

end Run

/-! ## Histories -/

namespace Step

/-- The time that a step takes. -/
def time : Step κ τ α → τ
  | pass time _ => time
  | _ => 0

/-- Does the step set or delete the key? -/
def Writes (key : κ) : Step κ τ α → Prop
  | set k _ _ | delete k => k = key
  | _ => False

/-- Does the step come upon an entry of the key? -/
def Meets (key : κ) : Step κ τ α → Prop
  | get k _ => k = key
  | purge => True
  | _ => False

theorem time_nonneg (s : Step κ τ α) : 0 ≤ s.time := by
  cases s with
  | pass time forward => exact forward
  | _ => exact le_rfl

end Step

/-- The time that steps take. -/
def elapsed (steps : List (Step κ τ α)) : τ := (steps.map Step.time).sum

/-- The steps set the key to the value, and neither set nor delete it in the rest, which follows. -/
structure LastSet (key : κ) (value : α) (ttl : Option τ) (rest steps : List (Step κ τ α)) : Prop where
  split : ∃ before, steps = before ++ .set key value ttl :: rest
  unwritten : ∀ s ∈ rest, ¬ s.Writes key

/-- At the age a value is live: it has no lifetime, given or by default, or zero, or one that is longer. -/
def Lasts (default ttl : Option τ) (age : τ) : Prop := ∀ l ∈ ttl.or default, l = 0 ∨ age < l

instance (default ttl : Option τ) (age : τ) : Decidable (Lasts default ttl age) :=
  inferInstanceAs (Decidable (∀ l ∈ ttl.or default, l = 0 ∨ age < l))

/-- Whenever a call came upon the entry in the steps that followed, it was live. -/
def Unremoved (default : Option τ) (key : κ) (ttl : Option τ) (rest : List (Step κ τ α)) : Prop :=
  ∀ before s behind, rest = before ++ s :: behind → s.Meets key → Lasts default ttl (elapsed before)

/-- There is an entry of the key whose lifetime has run out. -/
def Overdue (default : Option τ) (key : κ) (steps : List (Step κ τ α)) : Prop :=
  ∃ value ttl rest, LastSet key value ttl rest steps ∧ Unremoved default key ttl rest ∧
    ¬ Lasts default ttl (elapsed rest)

section Histories

variable {key : κ} {value value' : α} {default ttl ttl' : Option τ} {rest rest' steps : List (Step κ τ α)}
  {s : Step κ τ α}

theorem elapsed_append (steps others : List (Step κ τ α)) :
    elapsed (steps ++ others) = elapsed steps + elapsed others := by
  simp [elapsed]

theorem elapsed_concat (steps : List (Step κ τ α)) (s : Step κ τ α) :
    elapsed (steps ++ [s]) = elapsed steps + s.time := by
  simp [elapsed]

theorem lastSet_concat : LastSet key value ttl rest (steps ++ [s]) ↔
    (s = .set key value ttl ∧ rest = []) ∨
      ¬ s.Writes key ∧ ∃ rest', rest = rest' ++ [s] ∧ LastSet key value ttl rest' steps := by
  constructor
  · rintro ⟨⟨before, hsplit⟩, hrest⟩
    obtain rfl | ⟨rest', x, rfl⟩ := List.eq_nil_or_concat' rest
    · obtain ⟨-, heq⟩ := List.append_inj' hsplit rfl
      exact .inl ⟨List.singleton_inj.1 heq, rfl⟩
    · rw [← List.cons_append, ← List.append_assoc] at hsplit
      obtain ⟨hsteps, heq⟩ := List.append_inj' hsplit rfl
      obtain rfl := List.singleton_inj.1 heq
      exact .inr ⟨hrest s (by simp), rest', rfl, ⟨before, hsteps⟩,
        fun x hx => hrest x (List.mem_append_left _ hx)⟩
  · rintro (⟨rfl, rfl⟩ | ⟨hs, rest', rfl, ⟨before, rfl⟩, hrest⟩)
    · exact ⟨⟨steps, rfl⟩, fun _ hx => (List.not_mem_nil hx).elim⟩
    · refine ⟨⟨before, by simp⟩, fun x hx => ?_⟩
      obtain hx | hx := List.mem_append.1 hx
      · exact hrest x hx
      · exact List.mem_singleton.1 hx ▸ hs

/-- A key was set last only once. -/
theorem LastSet.unique (h : LastSet key value ttl rest steps) (h' : LastSet key value' ttl' rest' steps) :
    value = value' ∧ ttl = ttl' ∧ rest = rest' := by
  induction steps using List.reverseRecOn generalizing rest rest' with
  | nil =>
    obtain ⟨⟨before, hsplit⟩, -⟩ := h
    simp at hsplit
  | append_singleton steps s ih =>
    rw [lastSet_concat] at h h'
    obtain ⟨rfl, rfl⟩ | ⟨hs, rest₁, rfl, h⟩ := h
    · obtain ⟨heq, rfl⟩ | ⟨hs, -⟩ := h'
      · cases heq
        exact ⟨rfl, rfl, rfl⟩
      · exact (hs rfl).elim
    · obtain ⟨rfl, -⟩ | ⟨-, rest₂, rfl, h'⟩ := h'
      · exact (hs rfl).elim
      · obtain ⟨rfl, rfl, rfl⟩ := ih h h'
        exact ⟨rfl, rfl, rfl⟩

theorem unremoved_concat : Unremoved default key ttl (rest ++ [s]) ↔
    Unremoved default key ttl rest ∧ (s.Meets key → Lasts default ttl (elapsed rest)) := by
  constructor
  · exact fun h => ⟨fun before x behind hsplit => h before x (behind ++ [s]) (by simp [hsplit]),
      h rest s [] rfl⟩
  · rintro ⟨h, hs⟩ before x behind hsplit hx
    obtain rfl | ⟨behind', y, rfl⟩ := List.eq_nil_or_concat' behind
    · obtain ⟨rfl, heq⟩ := List.append_inj' hsplit rfl
      exact hs (List.singleton_inj.1 heq ▸ hx)
    · rw [← List.cons_append, ← List.append_assoc] at hsplit
      obtain ⟨hrest, -⟩ := List.append_inj' hsplit rfl
      exact h before x behind' hrest hx

theorem Lasts.mono {age age' : τ} (h : Lasts default ttl age') (hle : age ≤ age') : Lasts default ttl age :=
  fun l hl => (h l hl).imp_right hle.trans_lt

variable [IsOrderedAddMonoid τ]

theorem elapsed_nonneg (steps : List (Step κ τ α)) : 0 ≤ elapsed steps :=
  List.sum_nonneg (by simpa using fun s _ => s.time_nonneg)

/-- What is live has not been removed. -/
theorem Lasts.unremoved (h : Lasts default ttl (elapsed rest)) : Unremoved default key ttl rest := by
  rintro before s behind rfl -
  refine h.mono ?_
  rw [elapsed_append]
  exact le_add_of_nonneg_right (elapsed_nonneg _)

end Histories

/-! ## Entries -/

/-- What is stored when a value is set at a time. -/
def entryAt (default : Option τ) (value : α) (ttl : Option τ) (since : τ) : CacheEntry τ α :=
  ⟨value, (lifetime (fun l => decide (l ≠ 0)) default ttl).map (since + ·)⟩

/-- By its history the key has the entry at the time. -/
def Held (default : Option τ) (steps : List (Step κ τ α)) (now : τ) (key : κ) (e : CacheEntry τ α) : Prop :=
  ∃ value ttl rest, LastSet key value ttl rest steps ∧ Unremoved default key ttl rest ∧
    e = entryAt default value ttl (now - elapsed rest)

section Entries

variable {key : κ} {value : α} {default ttl : Option τ} {steps : List (Step κ τ α)} {s : Step κ τ α}
  {now : τ} {e : CacheEntry τ α}

theorem expired_entryAt [IsOrderedAddMonoid τ] {value : α} {age : τ} :
    (entryAt default value ttl (now - age)).expired now = false ↔ Lasts default ttl age := by
  unfold entryAt CacheEntry.expired lifetime Lasts
  cases ttl.or default with
  | none => simp
  | some l =>
    by_cases hl : l = 0
    · simp [Option.filter, hl]
    · have hle : now - age + l ≤ now ↔ l ≤ age := by
        rw [sub_add_eq_add_sub, sub_le_iff_le_add, add_le_add_iff_left]
      simp [Option.filter, hl, hle]

theorem expired_entryAt_of_not [IsOrderedAddMonoid τ] {value : α} {age : τ} (h : ¬ Lasts default ttl age) :
    (entryAt default value ttl (now - age)).expired now = true :=
  Bool.eq_true_of_not_eq_false (mt expired_entryAt.1 h)

theorem held_nil (now : τ) (key : κ) (e : CacheEntry τ α) : ¬ Held default [] now key e := by
  rintro ⟨value, ttl, rest, ⟨⟨before, hsplit⟩, -⟩, -⟩
  simp at hsplit

theorem held_set (steps : List (Step κ τ α)) : Held default (steps ++ [.set key value ttl]) now key e ↔
    e = entryAt default value ttl now := by
  unfold Held
  constructor
  · rintro ⟨value', ttl', rest, hlast, -, rfl⟩
    obtain ⟨heq, rfl⟩ | ⟨hs, -⟩ := lastSet_concat.1 hlast
    · cases heq
      simp [elapsed]
    · exact (hs rfl).elim
  · rintro rfl
    refine ⟨value, ttl, [], lastSet_concat.2 (.inl ⟨rfl, rfl⟩), fun before x behind hsplit _ => ?_, ?_⟩
    · simp at hsplit
    · simp [elapsed]

theorem not_held_delete (steps : List (Step κ τ α)) : ¬ Held default (steps ++ [.delete key]) now key e := by
  rintro ⟨value, ttl, rest, hlast, -⟩
  obtain ⟨heq, -⟩ | ⟨hs, -⟩ := lastSet_concat.1 hlast
  · cases heq
  · exact hs rfl

/-- An entry outlasts a step that does not write its key, unless the step comes upon it after its time. -/
theorem held_concat [IsOrderedAddMonoid τ] (hs : ¬ s.Writes key) :
    Held default (steps ++ [s]) (now + s.time) key e ↔
      Held default steps now key e ∧ (s.Meets key → e.expired now = false) := by
  unfold Held
  constructor
  · rintro ⟨value, ttl, rest, hlast, hrest, rfl⟩
    obtain ⟨rfl, -⟩ | ⟨-, rest, rfl, hlast'⟩ := lastSet_concat.1 hlast
    · exact (hs rfl).elim
    · obtain ⟨hrest, hmeets⟩ := unremoved_concat.1 hrest
      rw [elapsed_concat, add_sub_add_right_eq_sub]
      exact ⟨⟨value, ttl, rest, hlast', hrest, rfl⟩, fun hm => expired_entryAt.2 (hmeets hm)⟩
  · rintro ⟨⟨value, ttl, rest, hlast, hrest, rfl⟩, hmeets⟩
    refine ⟨value, ttl, rest ++ [s], lastSet_concat.2 (.inr ⟨hs, rest, rfl, hlast⟩),
      unremoved_concat.2 ⟨hrest, fun hm => expired_entryAt.1 (hmeets hm)⟩, ?_⟩
    rw [elapsed_concat, add_sub_add_right_eq_sub]

end Entries

/-! ## Runs -/

section Runs

variable [BEq κ] {key : κ} {default : Option τ} {steps : List (Step κ τ α)} {s : Step κ τ α}
  {t : Timed κ τ α} {e : CacheEntry τ α}

/-- The cache has one entry for each key that has one by its history. -/
structure Holds (default : Option τ) (steps : List (Step κ τ α)) (t : Timed κ τ α) : Prop where
  distinct : (Assoc.keys t.cache).Nodup
  entries : ∀ key e, Assoc.get? t.cache key = some e ↔ Held default steps t.now key e

theorem now_run (default : Option τ) (t : Timed κ τ α) (s : Step κ τ α) :
    (s.run default t).2.now = t.now + s.time := by
  cases s <;> simp [Step.run, Step.time]

variable [LawfulBEq κ]

omit [AddCommGroup τ] in
/-- Looking a key up takes its entry out if that is expired. -/
theorem get?_get {cache : Cache κ τ α} (hd : (Assoc.keys cache).Nodup) (k : κ) (now : τ) :
    Assoc.get? (cache.get k now).2 key = some e ↔
      Assoc.get? cache key = some e ∧ (k = key → e.expired now = false) := by
  unfold Cache.get
  cases hk : Assoc.get? cache k with
  | none =>
    refine (and_iff_left_of_imp fun hg heq => ?_).symm
    rw [← heq, hk] at hg
    cases hg
  | some found =>
    dsimp only
    split
    · rename_i hexpired
      -- Only an expired entry is erased, and it is the one that is asked for.
      rw [Assoc.get?_erase hd]
      by_cases heq : k = key
      · subst heq
        simp only [beq_self_eq_true, if_true, hk, Option.some_inj, true_imp_iff]
        refine iff_of_false (by simp) ?_
        rintro ⟨rfl, hlive⟩
        rw [hexpired] at hlive
        cases hlive
      · simp [heq]
    · rename_i hlive
      refine (and_iff_left_of_imp fun hg heq => ?_).symm
      rw [← heq, hk] at hg
      cases hg
      simpa using hlive

theorem nodup_run (hd : (Assoc.keys t.cache).Nodup) (s : Step κ τ α) :
    (Assoc.keys (s.run default t).2.cache).Nodup := by
  cases s with
  | set k value ttl => exact Assoc.nodup_put hd _ _
  | get k d =>
    simp only [Step.run, getD, Cache.get]
    split
    · exact hd
    · split
      · exact Assoc.nodup_erase hd k
      · exact hd
  | delete k => exact Assoc.nodup_erase hd k
  | purge => exact Assoc.nodup_filter hd _
  | pass time forward => exact hd

/-- The entries of a key that a step does not write. -/
theorem get?_run (hd : (Assoc.keys t.cache).Nodup) (hs : ¬ s.Writes key) :
    Assoc.get? (s.run default t).2.cache key = some e ↔
      Assoc.get? t.cache key = some e ∧ (s.Meets key → e.expired t.now = false) := by
  cases s with
  | set k value ttl =>
    have hne : k ≠ key := hs
    simp [Step.run, Cache.set, Assoc.get?_put_of_ne _ _ hne, Step.Meets]
  | get k d =>
    exact get?_get hd k t.now
  | delete k =>
    have hne : k ≠ key := hs
    simp [Step.run, Cache.delete, Assoc.get?_erase_of_ne _ hne, Step.Meets]
  | purge =>
    simp only [Step.run, purge, Step.Meets]
    rw [Assoc.get?_filter hd fun e => !e.expired t.now]
    simp
  | pass time forward => simp [Step.run, Step.Meets]

theorem Holds.run [IsOrderedAddMonoid τ] (h : Holds default steps t) (s : Step κ τ α) :
    Holds default (steps ++ [s]) (s.run default t).2 where
  distinct := nodup_run h.distinct s
  entries key e := by
    by_cases hs : s.Writes key
    · cases s with
      | set k value ttl =>
        obtain rfl : k = key := hs
        change Assoc.get? (Assoc.put t.cache k _) k = some e ↔ _
        rw [held_set, Assoc.get?_put_self, Option.some_inj, eq_comm]
        rfl
      | delete k =>
        obtain rfl : k = key := hs
        refine iff_of_false ?_ (not_held_delete steps)
        change Assoc.get? (Assoc.erase t.cache k) k ≠ some e
        rw [Assoc.get?_erase_self h.distinct]
        simp
      | _ => exact hs.elim
    · rw [get?_run h.distinct hs, now_run, held_concat hs, h.entries key e]

theorem holds_after [IsOrderedAddMonoid τ] (default : Option τ) (start : τ) (steps : List (Step κ τ α)) :
    Holds default steps (after default start steps) := by
  induction steps using List.reverseRecOn with
  | nil => exact ⟨List.nodup_nil, fun key e => iff_of_false (by simp [after]) (held_nil _ key e)⟩
  | append_singleton steps s ih =>
    rw [after, List.foldl_concat]
    exact ih.run s

end Runs

/-! ## Answers -/

section Answers

variable [BEq κ] {key : κ} {default : Option τ} {steps : List (Step κ τ α)} {t : Timed κ τ α}

omit [AddCommGroup τ] in
theorem fst_getD (cache : Cache κ τ α) (key : κ) (d : α) (now : τ) : (cache.getD key d now).1 =
    match Assoc.get? cache key with
    | some e => if e.expired now then d else e.value
    | none => d := by
  unfold getD Cache.get
  cases Assoc.get? cache key with
  | none => rfl
  | some e =>
    dsimp only
    split <;> rfl

/-- A key that was not set, or deleted since, has no value. -/
theorem Holds.get_of_not_lastSet (h : Holds default steps t)
    (hnone : ∀ value ttl rest, ¬ LastSet key value ttl rest steps) (d : α) :
    ((Step.get key d).run default t).1 = .value d := by
  change Answer.value (t.cache.getD key d t.now).1 = _
  rw [fst_getD]
  cases hget : Assoc.get? t.cache key with
  | none => rfl
  | some e =>
    obtain ⟨value, ttl, rest, hlast, -⟩ := (h.entries key e).1 hget
    exact (hnone value ttl rest hlast).elim

variable [IsOrderedAddMonoid τ]

/-- A key that was set has the value that it was set to last, as long as that is live. -/
theorem Holds.get_of_lastSet (h : Holds default steps t) {value : α} {ttl : Option τ}
    {rest : List (Step κ τ α)} (hlast : LastSet key value ttl rest steps) (d : α) :
    ((Step.get key d).run default t).1 = .value (if Lasts default ttl (elapsed rest) then value else d) := by
  change Answer.value (t.cache.getD key d t.now).1 = _
  rw [fst_getD]
  by_cases hlive : Lasts default ttl (elapsed rest)
  · have hget := (h.entries key _).2 ⟨value, ttl, rest, hlast, hlive.unremoved, rfl⟩
    rw [hget, if_pos hlive]
    dsimp only
    rw [expired_entryAt.2 hlive]
    rfl
  · rw [if_neg hlive]
    cases hget : Assoc.get? t.cache key with
    | none => rfl
    | some e =>
      obtain ⟨value', ttl', rest', hlast', -, rfl⟩ := (h.entries key e).1 hget
      obtain ⟨rfl, rfl, rfl⟩ := hlast.unique hlast'
      exact congrArg Answer.value (if_pos (expired_entryAt_of_not hlive))

variable [LawfulBEq κ]

/-- A purge counts the keys whose lifetime has run out. -/
theorem Holds.purge (h : Holds default steps t) : ∃ keys : List κ, keys.Nodup ∧
    (∀ key, key ∈ keys ↔ Overdue default key steps) ∧
    (Step.purge.run default t).1 = .count keys.length := by
  have hd := Assoc.nodup_filter h.distinct fun e => e.2.expired t.now
  refine ⟨_, hd, fun key => ?_, ?_⟩
  · simp only [Assoc.mem_keys_iff_get? hd, Assoc.get?_filter h.distinct (·.expired t.now), h.entries]
    constructor
    · rintro ⟨e, ⟨value, ttl, rest, hlast, hrest, rfl⟩, hexpired⟩
      refine ⟨value, ttl, rest, hlast, hrest, fun hlive => ?_⟩
      rw [expired_entryAt.2 hlive] at hexpired
      cases hexpired
    · rintro ⟨value, ttl, rest, hlast, hrest, hover⟩
      exact ⟨_, ⟨value, ttl, rest, hlast, hrest, rfl⟩, expired_entryAt_of_not hover⟩
  · simp [Step.run, Cache.purge, Assoc.keys, List.countP_eq_length_filter]

/-- After any steps of a cache that was empty, a look-up gives the value that the key was set to last, if it
was not deleted since and either has no lifetime or not so much time has passed; otherwise it gives the
default. Look-ups and purges may stand anywhere among the steps: they change no answer of a look-up. A purge
answers how many entries there are whose lifetime has run out, which are those that no look-up and no purge
has come upon since then. -/
theorem answers_of_history (default : Option τ) (start : τ) (steps : List (Step κ τ α)) :
    (∀ key d,
      (∀ value ttl rest, LastSet key value ttl rest steps →
        ((Step.get key d).run default (after default start steps)).1 =
          .value (if Lasts default ttl (elapsed rest) then value else d)) ∧
      ((∀ value ttl rest, ¬ LastSet key value ttl rest steps) →
        ((Step.get key d).run default (after default start steps)).1 = .value d)) ∧
    ∃ keys : List κ, keys.Nodup ∧ (∀ key, key ∈ keys ↔ Overdue default key steps) ∧
      (Step.purge.run default (after default start steps)).1 = .count keys.length := by
  have h := holds_after default start steps
  exact ⟨fun key d => ⟨fun _ _ _ hlast => h.get_of_lastSet hlast d,
    fun hnone => h.get_of_not_lastSet hnone d⟩, h.purge⟩

end Answers

/-- A key is set for the default lifetime, one for none, and one for a negative one; then time passes. -/
def tenSteps : List (Step String Int Nat) :=
  [.set "a" 1 none, .set "b" 2 (some 0), .set "c" 3 (some (-1)), .pass 5 (by decide), .get "a" 0,
    .pass 5 (by decide)]

/-- When the default lifetime has passed, the key without one is left. -/
theorem answers_of_history_ten :
    ((Step.get "a" 0).run (some 10) (after (some 10) 1000 tenSteps)).1 = .value 0 ∧
    ((Step.get "b" 0).run (some 10) (after (some 10) 1000 tenSteps)).1 = .value 2 ∧
    ∃ keys : List String, keys.Nodup ∧ (∀ key, key ∈ keys ↔ Overdue (some 10) key tenSteps) ∧
      (Step.purge.run (some 10) (after (some 10) 1000 tenSteps)).1 = .count keys.length := by
  obtain ⟨hget, hpurge⟩ := answers_of_history (some 10) 1000 tenSteps
  have ha : LastSet "a" 1 none (tenSteps.drop 1) tenSteps :=
    ⟨⟨[], rfl⟩, by simp [tenSteps, Step.Writes]⟩
  have hb : LastSet "b" 2 (some 0) (tenSteps.drop 2) tenSteps :=
    ⟨⟨[.set "a" 1 none], rfl⟩, by simp [tenSteps, Step.Writes]⟩
  exact ⟨(hget "a" 0).1 _ _ _ ha, (hget "b" 0).1 _ _ _ hb, hpurge⟩

end EventHub.Cache
