import EventHub.Proofs.Record.Rule
import EventHub.Rules.Book
import Mathlib.Data.List.Nodup

/-!
# The book of rules and its index

What the operations do to the registered rules and to the index, and what they keep true of both.

* **Entries** (`mem_indexAdd`, `mem_indexDrop` and their folds): an id is added under the types of
  its rule, each once, and taken out under them.
* **Operations** (`register_eq_ok`, `update_eq_ok`, `remove_eq_ok`): a successful operation inserts
  a complete rule under its id (`RuleBook.insert`), or takes one out.
* **Invariants**: `RuleBook.Keyed` is kept by every operation, and so is `RuleBook.Covered`, which says
  that the index finds every rule. `RuleBook.Indexed`, which says that the index tells the types of the
  rules, is kept by every operation that does not put a rule under an id in use.
-/

namespace EventHub

variable {index : List (String × List String)} {id id' t u : String}

/-! ## Entries -/

/-- The ids of an index under an event type. -/
def idsUnder (index : List (String × List String)) (t : String) : List String :=
  (Assoc.get? index t).getD []

/-- Every type has one entry, and no entry is empty. -/
structure IndexTidy (index : List (String × List String)) : Prop where
  distinct : (Assoc.keys index).Nodup
  filled : ∀ t ids, Assoc.get? index t = some ids → ids ≠ []

theorem IndexTidy.nil : IndexTidy [] := ⟨List.nodup_nil, by simp⟩

theorem mem_indexAdd :
    id' ∈ idsUnder (indexAdd index id t) u ↔ id' ∈ idsUnder index u ∨ (id' = id ∧ u = t) := by
  unfold indexAdd idsUnder
  dsimp only
  by_cases h : t = u
  · subst h
    rw [Assoc.get?_put_self]
    split <;> grind
  · rw [Assoc.get?_put_of_ne _ _ h]
    grind

theorem IndexTidy.add (hi : IndexTidy index) (id t : String) : IndexTidy (indexAdd index id t) where
  distinct := Assoc.nodup_put hi.distinct _ _
  filled u ids hu := by
    unfold indexAdd at hu
    dsimp only at hu
    rw [Assoc.get?_put] at hu
    split at hu
    · cases hu
      split
      · rename_i hm
        exact List.ne_nil_of_mem (List.contains_iff_mem.1 hm)
      · simp
    · exact hi.filled u ids hu

theorem mem_indexDrop (hi : IndexTidy index) :
    id' ∈ idsUnder (indexDrop index id t) u ↔ id' ∈ idsUnder index u ∧ ¬ (id' = id ∧ u = t) := by
  unfold indexDrop idsUnder
  cases ht : Assoc.get? index t with
  | none => grind
  | some ids =>
    dsimp only
    split
    · rw [Assoc.get?_erase hi.distinct]
      grind
    · rw [Assoc.get?_put]
      grind

theorem IndexTidy.drop (hi : IndexTidy index) (id t : String) :
    IndexTidy (indexDrop index id t) := by
  unfold indexDrop
  cases ht : Assoc.get? index t with
  | none => exact hi
  | some ids =>
    dsimp only
    split
    · refine ⟨Assoc.nodup_erase hi.distinct t, fun u ids hu => ?_⟩
      rw [Assoc.get?_erase hi.distinct] at hu
      split at hu
      · cases hu
      · exact hi.filled u ids hu
    · refine ⟨Assoc.nodup_put hi.distinct _ _, fun u ids hu => ?_⟩
      rw [Assoc.get?_put] at hu
      split at hu
      · grind
      · exact hi.filled u ids hu

/-- The types may repeat; an id is entered once under each. -/
theorem mem_foldl_indexAdd (types : List String) :
    id' ∈ idsUnder (types.foldl (fun index t => indexAdd index id t) index) u ↔
      id' ∈ idsUnder index u ∨ (id' = id ∧ u ∈ types) := by
  induction types generalizing index with
  | nil => simp
  | cons t rest ih =>
    rw [List.foldl_cons, ih, mem_indexAdd, List.mem_cons]
    grind

theorem IndexTidy.foldl_add (hi : IndexTidy index) (id : String) (types : List String) :
    IndexTidy (types.foldl (fun index t => indexAdd index id t) index) := by
  induction types generalizing index with
  | nil => exact hi
  | cons t rest ih => exact ih (hi.add id t)

theorem IndexTidy.unindex (hi : IndexTidy index) (id : String) (r : Rule) :
    IndexTidy (RuleBook.unindex index id r) := by
  unfold RuleBook.unindex
  generalize r.indexTypes = types
  induction types generalizing index with
  | nil => exact hi
  | cons t rest ih => exact ih (hi.drop id t)

/-- The types may repeat: dropping an id twice drops it, and a type whose entry is gone is passed. -/
theorem mem_unindex (hi : IndexTidy index) (r : Rule) :
    id' ∈ idsUnder (RuleBook.unindex index id r) u ↔
      id' ∈ idsUnder index u ∧ ¬ (id' = id ∧ u ∈ r.indexTypes) := by
  unfold RuleBook.unindex
  generalize r.indexTypes = types
  induction types generalizing index with
  | nil => simp
  | cons t rest ih =>
    rw [List.foldl_cons, ih (hi.drop id t), mem_indexDrop hi, List.mem_cons]
    grind

/-- A rule is indexed under the types that it names, and under `*` when it names none. -/
theorem Rule.mem_indexTypes {r : Rule} :
    t ∈ r.indexTypes ↔ t ∈ r.eventTypes ∨ (t = anyEventType ∧ r.eventTypes = []) := by
  unfold Rule.indexTypes
  cases h : r.eventTypes <;> simp

/-! ## Rules that are made -/

theorem Definition.toRule_document (now : String) (v : Value) :
    (Definition.document v).toRule now = (v.toMap >>= fun m => match Rule.check now m with
      | .ok r => .ok r
      | .error issues => .error (.definition (.invalid .rule "Rule" issues))) := rfl

theorem Definition.toRule_checked (now : String) (r : Rule) :
    (Definition.checked r).toRule now = match Rule.check now r.toValue.dump with
      | .ok copy => .ok (if r.custom.isSome then copy.withCustom r.custom else copy)
      | .error issues => .error (.definition (.invalid .rule "Rule" issues)) := Eq.refl _

theorem Definition.complete_of_toRule {now : String} {d : Definition Rule} {r : Rule}
    (h : d.toRule now = .ok r) : r.Complete := by
  cases d with
  | document v =>
    rw [toRule_document] at h
    obtain ⟨m, -, h⟩ := bind_eq_ok.1 h
    split at h
    · rename_i made hc
      exact Except.ok.inj h ▸ Rule.complete_of_check hc
    · cases h
  | checked given =>
    rw [toRule_checked] at h
    split at h
    · rename_i copy hc
      have hcopy := Rule.complete_of_check hc
      rw [← Except.ok.inj h]
      split
      · exact hcopy.withCustom _
      · exact hcopy
    · cases h

/-- A document that gives an id describes a rule of that id. -/
theorem Definition.id_of_toRule {now : String} {fields : Fields} {r : Rule}
    (hid : Assoc.get? fields "id" = some (.text id))
    (h : (Definition.document (.map fields)).toRule now = .ok r) : r.id = some id := by
  rw [toRule_document] at h
  obtain ⟨m, hm, h⟩ := bind_eq_ok.1 h
  cases hm
  split at h
  · rename_i made hc
    exact Except.ok.inj h ▸ Rule.id_of_check hid hc
  · cases h

/-- Sealed entries give the id. -/
theorem get?_sealUpdate {merged fields : Fields} {id createdAt now : String}
    (h : sealUpdate merged id createdAt now = .ok fields) :
    Assoc.get? fields "id" = some (.text id) := by
  obtain ⟨_, -, h⟩ := bind_eq_ok.1 h
  obtain ⟨_, -, h⟩ := bind_eq_ok.1 h
  rw [← Except.ok.inj h, Assoc.get?_put_of_ne _ _ (by decide), Assoc.get?_put_self]

namespace RuleBook

/-- An updated rule is complete and keeps its id. -/
theorem revise_eq_ok {now : String} {current r : Rule} {updates : Value}
    (h : revise now id current updates = .ok r) : r.id = some id ∧ r.Complete := by
  obtain ⟨items, -, h⟩ := bind_eq_ok.1 h
  obtain ⟨merged, hm, h⟩ := bind_eq_ok.1 h
  split at h
  · cases h
  · rename_i updated hc
    have hid := Rule.id_of_check (get?_sealUpdate hm) hc
    have hcomplete := Rule.complete_of_check hc
    split at h
    · rw [← Except.ok.inj h]
      exact ⟨hid, hcomplete.withCustom _⟩
    · rw [← Except.ok.inj h]
      exact ⟨hid, hcomplete⟩

/-! ## Operations -/

variable {b b' : RuleBook} {now fresh : String} {r r' : Rule}

theorem get?_insert : (b.insert id r).get? id' = if id == id' then some r else b.get? id' :=
  Assoc.get?_put _ _ _ _

theorem mem_indexed_insert :
    id' ∈ (b.insert id r).indexed t ↔ id' ∈ b.indexed t ∨ (id' = id ∧ t ∈ r.indexTypes) :=
  mem_foldl_indexAdd _

/-- The book with another rule in the place of one. -/
def replace (b : RuleBook) (id : String) (current r : Rule) : RuleBook :=
  (RuleBook.mk b.rules (unindex b.index id current)).insert id r

theorem get?_replace {current : Rule} :
    (b.replace id current r).get? id' = if id == id' then some r else b.get? id' :=
  get?_insert

theorem mem_indexed_replace (hi : IndexTidy b.index) {current : Rule} :
    id' ∈ (b.replace id current r).indexed t ↔
      (id' ∈ b.indexed t ∧ ¬ (id' = id ∧ t ∈ current.indexTypes)) ∨
        (id' = id ∧ t ∈ r.indexTypes) := by
  rw [replace, mem_indexed_insert]
  exact or_congr_left (mem_unindex hi current)

/-- A registered rule is inserted under its own id, which was not in use, or under `fresh`. -/
theorem register_eq_ok (h : b.register now fresh r = .ok (id, r', b')) :
    r' = { r with id := some id, metadata := { r.metadata with createdAt := now, updatedAt := now } } ∧
      b' = b.insert id r' ∧ (r.id = none ∧ id = fresh ∨ r.id = some id ∧ b.get? id = none) := by
  unfold register at h
  dsimp only at h
  cases hid : r.id with
  | none =>
    rw [hid] at h
    cases h
    exact ⟨rfl, rfl, .inl ⟨rfl, rfl⟩⟩
  | some given =>
    simp only [hid] at h
    split at h
    · cases h
    · rename_i hk
      cases h
      exact ⟨rfl, rfl, .inr ⟨rfl, by simpa [Assoc.has, get?] using hk⟩⟩

theorem update_eq_ok {updates : Value} (h : b.update now id updates = .ok (r, b')) :
    ∃ current, b.get? id = some current ∧ revise now id current updates = .ok r ∧
      b' = b.replace id current r := by
  unfold update at h
  cases hg : b.get? id with
  | none => rw [hg] at h; cases h
  | some current =>
    rw [hg] at h
    obtain ⟨updated, hr, h⟩ := bind_eq_ok.1 h
    cases h
    exact ⟨current, rfl, hr, rfl⟩

/-- A revision of a stored rule is an update of the book. -/
theorem update_of_revise {current : Rule} {updates : Value} (hg : b.get? id = some current)
    (hr : revise now id current updates = .ok r) :
    b.update now id updates = .ok (r, b.replace id current r) := by
  rw [update, hg]
  exact bind_eq_ok.2 ⟨r, hr, rfl⟩

theorem remove_eq_ok (h : b.remove id = .ok (r, b')) :
    b.get? id = some r ∧ b' = ⟨Assoc.erase b.rules id, unindex b.index id r⟩ := by
  unfold remove at h
  cases hg : b.get? id with
  | none => rw [hg] at h; cases h
  | some current =>
    rw [hg] at h
    cases h
    exact ⟨rfl, rfl⟩

/-! ## Invariants -/

/-- Every rule is stored once, under its id, and is complete, and the index is tidy. -/
structure Keyed (b : RuleBook) : Prop where
  distinct : (Assoc.keys b.rules).Nodup
  id : ∀ id r, (id, r) ∈ b.rules → r.id = some id
  complete : ∀ id r, (id, r) ∈ b.rules → r.Complete
  tidy : IndexTidy b.index

/-- The index has the id of a rule under the types of the rule, and no other ids. -/
def Indexed (b : RuleBook) : Prop :=
  ∀ t id, id ∈ b.indexed t ↔ ∃ r, b.get? id = some r ∧ t ∈ r.indexTypes

/-- The index has the id of every rule under the types of the rule, and perhaps other ids. -/
def Covered (b : RuleBook) : Prop :=
  ∀ id r, (id, r) ∈ b.rules → ∀ t ∈ r.indexTypes, id ∈ b.indexed t

theorem Keyed.empty : Keyed .empty :=
  ⟨List.nodup_nil, fun _ _ h => (List.not_mem_nil h).elim, fun _ _ h => (List.not_mem_nil h).elim,
    .nil⟩

theorem Indexed.empty : Indexed .empty := fun t id => by simp [indexed, get?, RuleBook.empty]

/-- In a keyed book the stored rules are those that lookups find. -/
theorem Keyed.mem_iff (hb : b.Keyed) : (id, r) ∈ b.rules ↔ b.get? id = some r :=
  Assoc.mem_iff_get? hb.distinct

theorem Covered.empty : Covered .empty := fun _ _ h => (List.not_mem_nil h).elim

theorem Keyed.covered (hb : b.Keyed) (hi : b.Indexed) : b.Covered := fun id r hm t ht =>
  (hi t id).2 ⟨r, hb.mem_iff.1 hm, ht⟩

/-- In a keyed book the rule of an id is the only one that has it. -/
theorem Keyed.filter_id (hb : b.Keyed) (hg : b.get? id = some r) :
    (Assoc.values b.rules).filter (fun r => r.id == some id) = [r] := by
  rw [Assoc.values, List.filter_map]
  have hkeys : b.rules.filter ((fun r : Rule => r.id == some id) ∘ (·.2)) =
      b.rules.filter (·.1 == id) :=
    List.filter_congr fun ⟨id', r'⟩ hm => by simp [hb.id id' r' hm]
  rw [hkeys, Assoc.filter_key hb.distinct hg]
  rfl

/-- In a keyed book no two rules have one id, whichever are picked. -/
theorem Keyed.nodup_filter (hb : b.Keyed) (q : Rule → Bool) :
    (((Assoc.values b.rules).filter q).map (·.id)).Nodup := by
  have hids : (Assoc.values b.rules).map (·.id) = (Assoc.keys b.rules).map some := by
    unfold Assoc.values Assoc.keys
    rw [List.map_map, List.map_map]
    exact List.map_congr_left fun ⟨id, r⟩ hmem => hb.id id r hmem
  refine (List.filter_sublist.map _).nodup ?_
  rw [hids]
  exact List.Nodup.map (fun _ _ h => Option.some.inj h) hb.distinct

/-- The rules after one is put under an id: it, and those of other ids. -/
theorem Keyed.mem_insert (hb : b.Keyed) :
    (id', r') ∈ (b.insert id r).rules ↔ (id' = id ∧ r' = r) ∨ (id' ≠ id ∧ (id', r') ∈ b.rules) := by
  have hmem : (id', r') ∈ (b.insert id r).rules ↔ (b.insert id r).get? id' = some r' :=
    Assoc.mem_iff_get? (Assoc.nodup_put hb.distinct id r)
  rw [hmem, hb.mem_iff, get?_insert]
  by_cases h : id = id'
  · subst h
    simp [eq_comm]
  · simp [h, Ne.symm h]

/-- The rules after one is taken out: those of other ids. -/
theorem Keyed.mem_erase (hb : b.Keyed) :
    (id', r') ∈ Assoc.erase b.rules id ↔ id' ≠ id ∧ (id', r') ∈ b.rules := by
  rw [hb.mem_iff, Assoc.mem_iff_get? (Assoc.nodup_erase hb.distinct id), Assoc.get?_erase hb.distinct]
  by_cases h : id = id'
  · simp [h]
  · simp [h, Ne.symm h, get?]

theorem Keyed.insert (hb : b.Keyed) (hid : r.id = some id) (hr : r.Complete) :
    (b.insert id r).Keyed where
  distinct := Assoc.nodup_put hb.distinct _ _
  id id' r' h := by
    obtain ⟨rfl, rfl⟩ | ⟨-, hm⟩ := hb.mem_insert.1 h
    · exact hid
    · exact hb.id _ _ hm
  complete id' r' h := by
    obtain ⟨rfl, rfl⟩ | ⟨-, hm⟩ := hb.mem_insert.1 h
    · exact hr
    · exact hb.complete _ _ hm
  tidy := hb.tidy.foldl_add _ _

theorem Keyed.replace (hb : b.Keyed) (current : Rule) (hid : r.id = some id) (hr : r.Complete) :
    (b.replace id current r).Keyed :=
  have hunindexed : (RuleBook.mk b.rules (unindex b.index id current)).Keyed :=
    ⟨hb.distinct, hb.id, hb.complete, hb.tidy.unindex id current⟩
  hunindexed.insert hid hr

theorem Keyed.erase (hb : b.Keyed) (id : String) (r : Rule) :
    (RuleBook.mk (Assoc.erase b.rules id) (unindex b.index id r)).Keyed where
  distinct := Assoc.nodup_erase hb.distinct id
  id id' r' h := hb.id id' r' (Assoc.mem_of_mem_erase h)
  complete id' r' h := hb.complete id' r' (Assoc.mem_of_mem_erase h)
  tidy := hb.tidy.unindex id r

/-- The index covers a rule that is put into a book. An entry that the id had under other types stays. -/
theorem Covered.insert (hb : b.Keyed) (hc : b.Covered) : (b.insert id r).Covered := by
  intro id' r' hm t ht
  rw [mem_indexed_insert]
  obtain ⟨rfl, rfl⟩ | ⟨-, hm⟩ := hb.mem_insert.1 hm
  · exact .inr ⟨rfl, ht⟩
  · exact .inl (hc id' r' hm t ht)

theorem Covered.replace (hb : b.Keyed) (hc : b.Covered) (current : Rule) :
    (b.replace id current r).Covered := by
  intro id' r' hm t ht
  rw [mem_indexed_replace hb.tidy]
  obtain ⟨rfl, rfl⟩ | ⟨hne, hm⟩ := hb.mem_insert.1 hm
  · exact .inr ⟨rfl, ht⟩
  · exact .inl ⟨hc id' r' hm t ht, fun h => hne h.1⟩

theorem Covered.erase (hb : b.Keyed) (hc : b.Covered) (id : String) (r : Rule) :
    (RuleBook.mk (Assoc.erase b.rules id) (unindex b.index id r)).Covered := by
  intro id' r' hm t ht
  obtain ⟨hne, hm⟩ := hb.mem_erase.1 hm
  exact (mem_unindex hb.tidy r).2 ⟨hc id' r' hm t ht, fun h => hne h.1⟩

/-- Inserting a rule under an id that is not in use. -/
theorem Indexed.insert (hi : b.Indexed) (hid : b.get? id = none) : (b.insert id r).Indexed := by
  intro t id'
  rw [mem_indexed_insert, hi t id', get?_insert]
  by_cases h : id = id'
  · subst h
    simp [hid]
  · simp [h, Ne.symm h]

/-- Putting a rule in the place of another: the id leaves the types of the old rule and enters
those of the new one, which may be the same. -/
theorem Indexed.replace (hb : b.Keyed) (hi : b.Indexed) {current : Rule}
    (hg : b.get? id = some current) : (b.replace id current r).Indexed := by
  intro t id'
  rw [mem_indexed_replace hb.tidy, hi t id', get?_replace]
  by_cases h : id = id'
  · subst h
    simp [hg]
  · simp [h, Ne.symm h]

/-- Taking a rule out. -/
theorem Indexed.erase (hb : b.Keyed) (hi : b.Indexed) (hg : b.get? id = some r) :
    (RuleBook.mk (Assoc.erase b.rules id) (unindex b.index id r)).Indexed := by
  intro t id'
  have hu : id' ∈ (RuleBook.mk (Assoc.erase b.rules id) (unindex b.index id r)).indexed t ↔
      id' ∈ b.indexed t ∧ ¬ (id' = id ∧ t ∈ r.indexTypes) := mem_unindex hb.tidy r
  have hr : (RuleBook.mk (Assoc.erase b.rules id) (unindex b.index id r)).get? id' =
      if id == id' then none else b.get? id' := Assoc.get?_erase hb.distinct id id'
  rw [hu, hi t id', hr]
  by_cases h : id = id'
  · subst h
    simp [hg]
  · simp [h, Ne.symm h]

end RuleBook

end EventHub
