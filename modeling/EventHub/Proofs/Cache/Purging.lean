import EventHub.Proofs.Cache

/-!
# What purges change

A run of a cache beside the same run with purges put in between. A look-up answers the same in both. A
deletion tells whether an entry was there, and an entry whose lifetime has run out is there until a look-up
or a purge comes upon it: this is all that a purge takes from the answers.

* **Purges between** (`Cache.PurgedBetween`): a run, and the same run with purges. What a key was set to
  last, and when, is the same in both (`PurgedBetween.lastSet`, `PurgedBetween.lastSet_of_purged`).
* **Entries** (`Holds.finds_iff`, `Holds.has_iff`): the keys that a look-up finds and those that a deletion
  finds, by their histories.
* `Cache.purgedBetween_answers`: what look-ups and deletions answer in the two runs.
* `Cache.delete_tells_purge`: a deletion that tells whether there was a purge before it.
-/

namespace EventHub.Cache

variable {κ τ α : Type} [AddCommGroup τ] [LinearOrder τ]

/-! ## Purges between -/

/-- The second steps are the first ones with purges put in between, before or behind. -/
inductive PurgedBetween : List (Step κ τ α) → List (Step κ τ α) → Prop
  | nil : PurgedBetween [] []
  | purge {steps purged : List (Step κ τ α)} (h : PurgedBetween steps purged) :
      PurgedBetween steps (.purge :: purged)
  | step {steps purged : List (Step κ τ α)} (s : Step κ τ α) (h : PurgedBetween steps purged) :
      PurgedBetween (s :: steps) (s :: purged)

namespace PurgedBetween

variable {key : κ} {value : α} {default ttl : Option τ} {steps purged rest before : List (Step κ τ α)}
  {s : Step κ τ α}

theorem refl : ∀ steps : List (Step κ τ α), PurgedBetween steps steps
  | [] => nil
  | s :: rest => step s (refl rest)

theorem concat_purge (h : PurgedBetween steps purged) : PurgedBetween steps (purged ++ [.purge]) := by
  induction h with
  | nil => exact nil.purge
  | purge h ih => exact ih.purge
  | step s h ih => exact ih.step s

theorem elapsed_eq (h : PurgedBetween steps purged) : elapsed purged = elapsed steps := by
  induction h with
  | nil => rfl
  | purge h ih => simpa [elapsed, Step.time] using ih
  | step s h ih => simpa [elapsed] using ih

/-- The steps in front of a step and behind it, with purges. -/
theorem split (h : PurgedBetween (before ++ s :: rest) purged) : ∃ before' rest',
    purged = before' ++ s :: rest' ∧ PurgedBetween before before' ∧ PurgedBetween rest rest' := by
  generalize hsteps : before ++ s :: rest = steps at h
  induction h generalizing before with
  | nil => simp at hsteps
  | purge h ih =>
    obtain ⟨before', rest', rfl, hbefore, hrest⟩ := ih hsteps
    exact ⟨.purge :: before', rest', rfl, hbefore.purge, hrest⟩
  | step x h ih =>
    cases before with
    | nil =>
      obtain ⟨rfl, rfl⟩ := List.cons.inj hsteps
      exact ⟨[], _, rfl, nil, h⟩
    | cons y before =>
      obtain ⟨rfl, htail⟩ := List.cons.inj hsteps
      obtain ⟨before', rest', rfl, hbefore, hrest⟩ := ih htail
      exact ⟨y :: before', rest', rfl, hbefore.step y, hrest⟩

/-- A step other than a purge was there without the purges. -/
theorem split_of_purged (h : PurgedBetween steps (before ++ s :: rest)) (hs : s ≠ .purge) :
    ∃ before' rest', steps = before' ++ s :: rest' ∧ PurgedBetween rest' rest := by
  generalize hpurged : before ++ s :: rest = purged at h
  induction h generalizing before with
  | nil => simp at hpurged
  | purge h ih =>
    cases before with
    | nil => exact absurd (List.cons.inj hpurged).1 hs
    | cons y before => exact ih (List.cons.inj hpurged).2
  | step x h ih =>
    cases before with
    | nil =>
      obtain ⟨rfl, rfl⟩ := List.cons.inj hpurged
      exact ⟨[], _, rfl, h⟩
    | cons y before =>
      obtain ⟨rfl, htail⟩ := List.cons.inj hpurged
      obtain ⟨before', rest', rfl, hrest⟩ := ih htail
      exact ⟨y :: before', rest', rfl, hrest⟩

/-- Purges write no key. -/
theorem unwritten_iff (h : PurgedBetween steps purged) :
    (∀ s ∈ purged, ¬ s.Writes key) ↔ ∀ s ∈ steps, ¬ s.Writes key := by
  induction h with
  | nil => rfl
  | purge h ih => simpa [Step.Writes] using ih
  | step s h ih => rw [List.forall_mem_cons, List.forall_mem_cons, ih]

/-- What a key was set to last is the same with purges. -/
theorem lastSet (h : PurgedBetween steps purged) (hlast : LastSet key value ttl rest steps) :
    ∃ rest', PurgedBetween rest rest' ∧ LastSet key value ttl rest' purged := by
  obtain ⟨⟨before, rfl⟩, hrest⟩ := hlast
  obtain ⟨before', rest', rfl, -, hpurged⟩ := h.split
  exact ⟨rest', hpurged, ⟨before', rfl⟩, hpurged.unwritten_iff.2 hrest⟩

theorem lastSet_of_purged (h : PurgedBetween steps purged) (hlast : LastSet key value ttl rest purged) :
    ∃ rest', PurgedBetween rest' rest ∧ LastSet key value ttl rest' steps := by
  obtain ⟨⟨before, rfl⟩, hrest⟩ := hlast
  obtain ⟨before', rest', rfl, hpurged⟩ := h.split_of_purged nofun
  exact ⟨rest', hpurged, ⟨before', rfl⟩, hpurged.unwritten_iff.1 hrest⟩

/-- What the steps with the purges left, those without them left as well. -/
theorem unremoved (h : PurgedBetween steps purged) (hleft : Unremoved default key ttl purged) :
    Unremoved default key ttl steps := by
  rintro before s behind rfl hs
  obtain ⟨before', rest', rfl, hbefore, -⟩ := h.split
  exact hbefore.elapsed_eq ▸ hleft before' s rest' rfl hs

end PurgedBetween

/-! ## Entries -/

/-- The value that the key was set to last is still live. -/
def Live (default : Option τ) (key : κ) (steps : List (Step κ τ α)) : Prop :=
  ∃ value ttl rest, LastSet key value ttl rest steps ∧ Lasts default ttl (elapsed rest)

section Histories

variable {key : κ} {default : Option τ} {steps purged : List (Step κ τ α)}

theorem PurgedBetween.live_iff (h : PurgedBetween steps purged) :
    Live default key purged ↔ Live default key steps := by
  constructor
  · rintro ⟨value, ttl, rest, hlast, hlive⟩
    obtain ⟨rest', hrest, hlast⟩ := h.lastSet_of_purged hlast
    exact ⟨value, ttl, rest', hlast, hrest.elapsed_eq ▸ hlive⟩
  · rintro ⟨value, ttl, rest, hlast, hlive⟩
    obtain ⟨rest', hrest, hlast⟩ := h.lastSet hlast
    exact ⟨value, ttl, rest', hlast, hrest.elapsed_eq ▸ hlive⟩

/-- What is overdue with purges is overdue without them. -/
theorem PurgedBetween.overdue (h : PurgedBetween steps purged) (ho : Overdue default key purged) :
    Overdue default key steps := by
  obtain ⟨value, ttl, rest, hlast, hleft, hover⟩ := ho
  obtain ⟨rest', hrest, hlast⟩ := h.lastSet_of_purged hlast
  exact ⟨value, ttl, rest', hlast, hrest.unremoved hleft, hrest.elapsed_eq ▸ hover⟩

theorem Overdue.not_live (h : Overdue default key steps) : ¬ Live default key steps := by
  obtain ⟨value, ttl, rest, hlast, -, hover⟩ := h
  rintro ⟨value', ttl', rest', hlast', hlive⟩
  obtain ⟨-, rfl, rfl⟩ := hlast.unique hlast'
  exact hover hlive

/-- After a purge nothing is overdue. -/
theorem not_overdue_purge (default : Option τ) (key : κ) (steps : List (Step κ τ α)) :
    ¬ Overdue default key (steps ++ [.purge]) := by
  rintro ⟨value, ttl, rest, hlast, hleft, hover⟩
  obtain ⟨heq, -⟩ | ⟨-, rest, rfl, -⟩ := lastSet_concat.1 hlast
  · cases heq
  · have hlive := (unremoved_concat.1 hleft).2 trivial
    rw [elapsed_concat] at hover
    exact hover ((add_zero (elapsed rest)).symm ▸ hlive)

end Histories

/-- A look-up of the key would find a value. -/
def Timed.finds [BEq κ] (t : Timed κ τ α) (key : κ) : Bool := (t.cache.get key t.now).1.isSome

section Runs

variable [BEq κ] {key : κ} {default : Option τ} {steps purged : List (Step κ τ α)} {t : Timed κ τ α}

omit [AddCommGroup τ] in
theorem finds_iff : t.finds key = true ↔
    ∃ e, Assoc.get? t.cache key = some e ∧ e.expired t.now = false := by
  unfold Timed.finds Cache.get
  cases Assoc.get? t.cache key with
  | none => simp
  | some e => cases he : e.expired t.now <;> simp [he]

variable [IsOrderedAddMonoid τ]

/-- A look-up finds what is live. -/
theorem Holds.finds_iff (h : Holds default steps t) : t.finds key = true ↔ Live default key steps := by
  rw [Cache.finds_iff]
  constructor
  · rintro ⟨e, hget, hlive⟩
    obtain ⟨value, ttl, rest, hlast, -, rfl⟩ := (h.entries key e).1 hget
    exact ⟨value, ttl, rest, hlast, expired_entryAt.1 hlive⟩
  · rintro ⟨value, ttl, rest, hlast, hlive⟩
    exact ⟨_, (h.entries key _).2 ⟨value, ttl, rest, hlast, hlive.unremoved, rfl⟩,
      expired_entryAt.2 hlive⟩

/-- A deletion finds what is live and what is overdue. -/
theorem Holds.has_iff (h : Holds default steps t) :
    Assoc.has t.cache key = true ↔ Live default key steps ∨ Overdue default key steps := by
  rw [Assoc.has, Option.isSome_iff_exists]
  constructor
  · rintro ⟨e, hget⟩
    obtain ⟨value, ttl, rest, hlast, hleft, rfl⟩ := (h.entries key e).1 hget
    by_cases hlive : Lasts default ttl (elapsed rest)
    · exact .inl ⟨value, ttl, rest, hlast, hlive⟩
    · exact .inr ⟨value, ttl, rest, hlast, hleft, hlive⟩
  · rintro (⟨value, ttl, rest, hlast, hlive⟩ | ⟨value, ttl, rest, hlast, hleft, -⟩)
    · exact ⟨_, (h.entries key _).2 ⟨value, ttl, rest, hlast, hlive.unremoved, rfl⟩⟩
    · exact ⟨_, (h.entries key _).2 ⟨value, ttl, rest, hlast, hleft, rfl⟩⟩

/-- A deletion tells whether it found an entry. -/
theorem Holds.delete (h : Holds default steps t) : ((Step.delete key).run default t).1 = .found true ↔
    t.finds key = true ∨ Overdue default key steps := by
  change Answer.found (Assoc.has t.cache key) = .found true ↔ _
  rw [Answer.found.injEq, h.has_iff, h.finds_iff]

variable [LawfulBEq κ]

/-- A run of a cache that was empty, and the same run with purges put in anywhere. A look-up of any key
answers the same in both. A deletion tells whether a look-up would have found a value, unless the lifetime
of the entry has run out and no look-up and no purge has come upon it since then: then it tells that there
was an entry. Purges only end that, so that they change the answer of a deletion from yes to no at most,
and right after a purge a deletion tells exactly whether a look-up would have found a value. -/
theorem purgedBetween_answers (default : Option τ) (start : τ) {steps purged : List (Step κ τ α)}
    (h : PurgedBetween steps purged) (key : κ) :
    let t := after default start steps
    let t' := after default start purged
    (∀ d, ((Step.get key d).run default t').1 = ((Step.get key d).run default t).1) ∧
    t'.finds key = t.finds key ∧
    (((Step.delete key).run default t).1 = .found true ↔ t.finds key = true ∨ Overdue default key steps) ∧
    (((Step.delete key).run default t').1 = .found true ↔
      t.finds key = true ∨ Overdue default key purged) ∧
    (Overdue default key purged → Overdue default key steps) ∧
    (Overdue default key steps → t.finds key = false) ∧
    ((Step.delete key).run default (after default start (purged ++ [.purge]))).1 =
      .found (t.finds key) := by
  intro t t'
  have ht : Holds default steps t := holds_after default start steps
  have ht' : Holds default purged t' := holds_after default start purged
  -- Both runs have the same live keys, and looking up asks for no more.
  have hfinds : t'.finds key = t.finds key := by
    rw [Bool.eq_iff_iff, ht.finds_iff, ht'.finds_iff, h.live_iff]
  refine ⟨fun d => ?_, hfinds, ht.delete, hfinds ▸ ht'.delete, h.overdue, fun ho => ?_, ?_⟩
  · by_cases hset : ∃ value ttl rest, LastSet key value ttl rest steps
    · obtain ⟨value, ttl, rest, hlast⟩ := hset
      obtain ⟨rest', hrest, hlast'⟩ := h.lastSet hlast
      rw [ht.get_of_lastSet hlast, ht'.get_of_lastSet hlast', hrest.elapsed_eq]
    · rw [ht.get_of_not_lastSet fun value ttl rest hlast => hset ⟨value, ttl, rest, hlast⟩,
        ht'.get_of_not_lastSet fun value ttl rest hlast => ?_]
      obtain ⟨rest', -, hlast⟩ := h.lastSet_of_purged hlast
      exact hset ⟨value, ttl, rest', hlast⟩
  · exact Bool.eq_false_iff.2 fun hfound => ho.not_live (ht.finds_iff.1 hfound)
  -- After a purge no entry is overdue, so what is held is live.
  · have hpurge : Assoc.has (after default start (purged ++ [.purge])).cache key = true ↔ _ :=
      (holds_after default start (purged ++ [.purge])).has_iff
    rw [or_iff_left (not_overdue_purge default key purged), h.concat_purge.live_iff, ← ht.finds_iff,
      ← Bool.eq_iff_iff] at hpurge
    exact congrArg Answer.found hpurge

end Runs

/-- A key is set for a second, and two seconds pass. -/
def expiredSteps : List (Step String Int Nat) := [.set "a" 1 (some 1), .pass 2 (by decide)]

theorem purgedBetween_expiredSteps : PurgedBetween expiredSteps (expiredSteps ++ [.purge]) :=
  (PurgedBetween.refl expiredSteps).concat_purge

/-- The key is deleted behind a purge and without one, and looked up. -/
theorem purgedBetween_answers_expired :
    (∀ d, ((Step.get "a" d).run none (after none 1000 (expiredSteps ++ [.purge]))).1 =
      ((Step.get "a" d).run none (after none 1000 expiredSteps)).1) ∧
    (((Step.delete "a").run none (after none 1000 expiredSteps)).1 = .found true ↔
      (after none 1000 expiredSteps).finds "a" = true ∨ Overdue none "a" expiredSteps) := by
  obtain ⟨hget, -, hdelete, -⟩ := purgedBetween_answers none 1000 purgedBetween_expiredSteps "a"
  exact ⟨hget, hdelete⟩

/-- A deletion tells whether there was a purge before it: of an entry whose lifetime has run out it answers
that it was there, although a look-up would find no value, and behind a purge that it was not. -/
theorem delete_tells_purge :
    PurgedBetween expiredSteps (expiredSteps ++ [.purge]) ∧
    ((Step.delete "a").run none (after none 1000 expiredSteps)).1 = .found true ∧
    (after none 1000 expiredSteps).finds "a" = false ∧
    ((Step.delete "a").run none (after none 1000 (expiredSteps ++ [.purge]))).1 = .found false :=
  ⟨purgedBetween_expiredSteps, by decide, by decide, by decide⟩

end EventHub.Cache
