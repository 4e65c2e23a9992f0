/-!
# Maps in insertion order

A map is the list of its entries. A new key goes to the end; a known key keeps its place and
takes the new value.

* `put_of_get?_eq_none`: a new key goes to the end.
* `get?_put_self`, `get?_put_of_ne`: what a lookup finds after a key was set.
* `keys_put`: the keys after a key was set.
* `get?_erase_self`, `get?_erase_of_ne`: taking a key out leaves the other keys.
* `get?_merge`: what a lookup finds after a merge.
* `nodup_put`, `nodup_erase`: distinct keys stay distinct.
* `filter_around`: an entry stands once among those that are chosen with it.
* `mem_iff_get?`: the entries of a map with distinct keys are what lookups find.
-/

namespace EventHub.Assoc

variable {κ : Type} [BEq κ] {α : Type}

/-- The value of a key. -/
def get? : List (κ × α) → κ → Option α
  | [], _ => none
  | (k, v) :: rest, key => if k == key then some v else get? rest key

/-- Sets a key, in its place when it is known and at the end when it is new. -/
def put : List (κ × α) → κ → α → List (κ × α)
  | [], key, value => [(key, value)]
  | (k, v) :: rest, key, value =>
    if k == key then (k, value) :: rest else (k, v) :: put rest key value

/-- Takes a key out. -/
def erase : List (κ × α) → κ → List (κ × α)
  | [], _ => []
  | (k, v) :: rest, key => if k == key then rest else (k, v) :: erase rest key

/-- The keys in order. -/
def keys (entries : List (κ × α)) : List κ := entries.map (·.1)

/-- The values in order. -/
def values (entries : List (κ × α)) : List α := entries.map (·.2)

/-- Is the key known? -/
def has (entries : List (κ × α)) (key : κ) : Bool := (get? entries key).isSome

/-- Sets every key of the second map in the first. -/
def merge (entries updates : List (κ × α)) : List (κ × α) :=
  updates.foldl (fun acc (k, v) => put acc k v) entries

/-- The map of a list of entries, where a repeated key keeps its first place and its last value. -/
def ofList (entries : List (κ × α)) : List (κ × α) := merge [] entries

@[simp] theorem get?_nil (key : κ) : get? ([] : List (κ × α)) key = none := rfl

omit [BEq κ] in
@[simp] theorem keys_nil : keys ([] : List (κ × α)) = [] := rfl

omit [BEq κ] in
@[simp] theorem keys_cons (e : κ × α) (rest : List (κ × α)) :
    keys (e :: rest) = e.1 :: keys rest := rfl

theorem keys_erase_sublist (entries : List (κ × α)) (key : κ) :
    (keys (erase entries key)).Sublist (keys entries) := by
  induction entries with
  | nil => exact List.Sublist.slnil
  | cons e rest ih =>
    obtain ⟨k, v⟩ := e
    simp only [erase]
    split
    · exact List.sublist_cons_self _ _
    · exact ih.cons_cons _

theorem nodup_erase {entries : List (κ × α)} (h : (keys entries).Nodup) (key : κ) :
    (keys (erase entries key)).Nodup :=
  (keys_erase_sublist entries key).nodup h

theorem mem_of_mem_erase {entries : List (κ × α)} {key : κ} {e : κ × α}
    (h : e ∈ erase entries key) : e ∈ entries := by
  induction entries with
  | nil => cases h
  | cons e' rest ih => grind [erase]

/-- What is there after a key was set: the new value, and what was there before. -/
theorem of_mem_put {entries : List (κ × α)} {key : κ} {value : α} {e : κ × α}
    (h : e ∈ put entries key value) : e.2 = value ∨ e ∈ entries := by
  induction entries with
  | nil => exact .inl (congrArg Prod.snd (List.mem_singleton.1 h))
  | cons e' rest ih => grind [put]

variable [LawfulBEq κ]

theorem get?_put_self (entries : List (κ × α)) (key : κ) (value : α) :
    get? (put entries key value) key = some value := by
  induction entries with
  | nil => simp [put, get?]
  | cons e rest ih =>
    obtain ⟨k, v⟩ := e
    by_cases h : k = key <;> simp [put, get?, h, ih]

theorem get?_put_of_ne (entries : List (κ × α)) {key other : κ} (value : α) (h : key ≠ other) :
    get? (put entries key value) other = get? entries other := by
  induction entries with
  | nil => simp [put, get?, h]
  | cons e rest ih => grind [put, get?]

theorem get?_eq_none_iff (entries : List (κ × α)) (key : κ) :
    get? entries key = none ↔ key ∉ keys entries := by
  induction entries with
  | nil => simp
  | cons e rest ih =>
    obtain ⟨k, v⟩ := e
    by_cases h : k = key
    · simp [get?, keys, h]
    · simp only [get?, beq_iff_eq, h, if_false, ih, keys, List.map_cons, List.mem_cons, not_or]
      exact ⟨fun hr => ⟨fun he => h he.symm, hr⟩, fun hr => hr.2⟩

omit [LawfulBEq κ] in
theorem keys_put (entries : List (κ × α)) (key : κ) (value : α) :
    keys (put entries key value) =
      if has entries key then keys entries else keys entries ++ [key] := by
  induction entries with
  | nil => rfl
  | cons e rest ih => grind [put, has, get?, keys_cons]

omit [LawfulBEq κ] in
/-- A new key goes to the end. -/
theorem put_of_get?_eq_none {entries : List (κ × α)} {key : κ} (h : get? entries key = none)
    (value : α) : put entries key value = entries ++ [(key, value)] := by
  induction entries with
  | nil => rfl
  | cons e rest ih => grind [put, get?]

theorem get?_erase_of_ne (entries : List (κ × α)) {key other : κ} (h : key ≠ other) :
    get? (erase entries key) other = get? entries other := by
  induction entries with
  | nil => rfl
  | cons e rest ih => grind [erase, get?]

theorem get?_put (entries : List (κ × α)) (key other : κ) (value : α) :
    get? (put entries key value) other =
      if key == other then some value else get? entries other := by
  by_cases h : key = other
  · rw [h, get?_put_self]
    simp
  · simpa [h] using get?_put_of_ne entries value h

theorem get?_erase_self {entries : List (κ × α)} (h : (keys entries).Nodup) (key : κ) :
    get? (erase entries key) key = none := by
  induction entries with
  | nil => rfl
  | cons e rest ih =>
    obtain ⟨k, v⟩ := e
    obtain ⟨hk, hr⟩ := List.nodup_cons.1 h
    by_cases he : k = key
    · subst he
      simpa [erase] using (get?_eq_none_iff rest k).2 hk
    · simpa [erase, get?, he] using ih hr

theorem get?_erase {entries : List (κ × α)} (h : (keys entries).Nodup) (key other : κ) :
    get? (erase entries key) other = if key == other then none else get? entries other := by
  by_cases he : key = other
  · subst he
    simpa using get?_erase_self h key
  · simpa [he] using get?_erase_of_ne entries he

/-- What a merge finds under a key: what the second map has there, or else the first. -/
theorem get?_merge (entries : List (κ × α)) {updates : List (κ × α)} (h : (keys updates).Nodup)
    (key : κ) : get? (merge entries updates) key = (get? updates key).or (get? entries key) := by
  induction updates generalizing entries with
  | nil => rfl
  | cons e rest ih =>
    obtain ⟨k, v⟩ := e
    obtain ⟨hk, hrest⟩ := List.nodup_cons.1 h
    refine (ih (put entries k v) hrest).trans ?_
    rw [get?_put, get?]
    by_cases he : k = key
    · subst he
      simp [(get?_eq_none_iff rest k).2 hk]
    · simp [he]

theorem mem_of_get? {entries : List (κ × α)} {key : κ} {value : α}
    (h : get? entries key = some value) : (key, value) ∈ entries := by
  induction entries with
  | nil => cases h
  | cons e rest ih => grind [get?]

theorem mem_iff_get? {entries : List (κ × α)} (h : (keys entries).Nodup) {key : κ} {value : α} :
    (key, value) ∈ entries ↔ get? entries key = some value := by
  refine ⟨fun hm => ?_, mem_of_get?⟩
  induction entries with
  | nil => cases hm
  | cons e rest ih =>
    obtain ⟨k, v⟩ := e
    obtain ⟨hk, hr⟩ := List.nodup_cons.1 h
    rcases List.mem_cons.1 hm with he | hm
    · cases he
      simp [get?]
    · have hne : k ≠ key := fun he => hk (List.mem_map.2 ⟨_, hm, he.symm⟩)
      simp [get?, hne, ih hr hm]

/-- Distinct keys: a key has one entry. -/
theorem filter_key {entries : List (κ × α)} (h : (keys entries).Nodup) {key : κ} {value : α}
    (hg : get? entries key = some value) : entries.filter (·.1 == key) = [(key, value)] := by
  induction entries with
  | nil => cases hg
  | cons e rest ih =>
    obtain ⟨k, v⟩ := e
    obtain ⟨hk, hr⟩ := List.nodup_cons.1 h
    by_cases he : k = key
    · subst he
      have hv : v = value := by simpa [get?] using hg
      have hnone : rest.filter (·.1 == k) = [] :=
        List.filter_eq_nil_iff.2 fun e hm hek =>
          hk (List.mem_map.2 ⟨e, hm, eq_of_beq hek⟩)
      rw [List.filter_cons_of_pos (by simp), hnone, hv]
    · rw [List.filter_cons_of_neg (by simpa using he)]
      exact ih hr (by simpa [get?, he] using hg)

/-- Distinct keys: an entry stands once among those that are chosen with it. -/
theorem filter_around {entries : List (κ × α)} (h : (keys entries).Nodup) {key : κ} {value : α}
    (hg : get? entries key = some value) {p : κ × α → Bool} (hp : p (key, value) = true) :
    ∃ before after, entries.filter p = before ++ (key, value) :: after ∧
      (∀ e ∈ before, e.1 ≠ key) ∧ ∀ e ∈ after, e.1 ≠ key := by
  have hone : (entries.filter p).filter (·.1 == key) = [(key, value)] := by
    have hcomm : (entries.filter p).filter (·.1 == key) = (entries.filter (·.1 == key)).filter p := by
      simp only [List.filter_filter, Bool.and_comm]
    rw [hcomm, filter_key h hg, List.filter_cons_of_pos hp, List.filter_nil]
  obtain ⟨before, after, hsplit, hbefore, -, hafter⟩ := List.filter_eq_cons_iff.1 hone
  have hafter := List.filter_eq_nil_iff.1 hafter
  exact ⟨before, after, hsplit, fun e he hk => hbefore e he (beq_iff_eq.2 hk),
    fun e he hk => hafter e he (beq_iff_eq.2 hk)⟩

theorem nodup_put {entries : List (κ × α)} (h : (keys entries).Nodup) (key : κ) (value : α) :
    (keys (put entries key value)).Nodup := by
  rw [keys_put]
  split
  · exact h
  · rename_i hk
    refine List.nodup_append.2 ⟨h, by simp, ?_⟩
    intro a ha b hb hab
    simp only [List.mem_singleton] at hb
    subst hb hab
    exact (get?_eq_none_iff entries a).1 (by simpa [has] using hk) ha

end EventHub.Assoc
