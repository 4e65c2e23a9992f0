import EventHub.Hub.State

/-!
# What the schema observes

* **Payloads** (`KnownFields.extend_new`, `KnownFields.extend_order`): going through a payload reports
  the fields that were not known, and appends them.
* **Agreement** (`Schema.Agrees`): for every type the set and the list have the same fields.
* **Observing** (`Schema.Agrees.observe_first`, `Schema.Agrees.observe_later`): a payload is observed as
  the first of its type or as a later one.
-/

namespace EventHub

/-! ## Payloads -/

/-- The fields of a payload that are not among the known names. -/
def newFields (known : List String) (data : Fields) : List DiscoveredField :=
  (data.filter fun (k, _) => !known.contains k).map fun (k, v) => ⟨k, v, fieldKind v⟩

section Payload

variable {known names : List String} {data : Fields} {name : String}

theorem newFields_congr (h : ∀ n, n ∈ known ↔ n ∈ names) (data : Fields) :
    newFields known data = newFields names data := by
  have hc (k : String) : known.contains k = names.contains k := by
    rw [Bool.eq_iff_iff, List.contains_iff_mem, List.contains_iff_mem, h]
  simp only [newFields, hc]

theorem names_newFields (known : List String) (data : Fields) :
    (newFields known data).map (·.field) = (Assoc.keys data).filter fun k => !known.contains k := by
  rw [newFields, Assoc.keys, List.filter_map, List.map_map]
  rfl

theorem mem_names_newFields :
    name ∈ (newFields known data).map (·.field) ↔ name ∈ Assoc.keys data ∧ name ∉ known := by
  simp [names_newFields]

theorem nodup_newFields (hn : names.Nodup) (hd : (Assoc.keys data).Nodup) :
    (names ++ (newFields names data).map (·.field)).Nodup := by
  rw [names_newFields]
  refine List.nodup_append.2 ⟨hn, hd.filter _, fun k hk k' hk' hkk => ?_⟩
  subst hkk
  simpa [hk] using (List.mem_filter.1 hk').2

/-- A new field is reported once, with its value. -/
theorem filter_newFields (hd : (Assoc.keys data).Nodup) (hn : name ∉ known) :
    (newFields known data).filter (·.field == name) =
      ((Assoc.get? data name).map fun v => ⟨name, v, fieldKind v⟩).toList := by
  have hfilter : (newFields known data).filter (·.field == name) =
      (data.filter (·.1 == name)).map fun (k, v) => ⟨k, v, fieldKind v⟩ := by
    rw [newFields, List.filter_map, List.filter_filter]
    congr 1
    refine List.filter_congr fun (k, v) _ => ?_
    by_cases hk : k = name
    · subst hk
      simpa using hn
    · simp [hk]
  rw [hfilter]
  cases hg : Assoc.get? data name with
  | some v =>
    rw [Assoc.filter_key hd hg]
    rfl
  | none =>
    have hnone : data.filter (·.1 == name) = [] := List.filter_eq_nil_iff.2 fun e he hk =>
      (Assoc.get?_eq_none_iff data name).1 hg (List.mem_map.2 ⟨e, he, eq_of_beq hk⟩)
    rw [hnone]
    rfl

theorem filter_newFields_of_mem (data : Fields) (hn : name ∈ known) :
    (newFields known data).filter (·.field == name) = [] := by
  refine List.filter_eq_nil_iff.2 fun f hf hname => ?_
  have hmem : f.field ∈ (newFields known data).map (·.field) := List.mem_map_of_mem hf
  rw [eq_of_beq hname] at hmem
  exact (mem_names_newFields.1 hmem).2 hn

end Payload

namespace KnownFields

variable (known : KnownFields) (data : Fields)

/-- A payload with distinct fields reports those that were not known before it. -/
theorem extend_new (hd : (Assoc.keys data).Nodup) :
    (known.extend data).1 = newFields known.members data := by
  induction data generalizing known with
  | nil => rfl
  | cons entry rest ih =>
    obtain ⟨k, v⟩ := entry
    obtain ⟨hk, hrest⟩ := List.nodup_cons.1 hd
    unfold extend
    by_cases hc : known.members.contains k = true
    · rw [if_pos hc, ih known hrest, newFields, newFields, List.filter_cons_of_neg (by simpa using hc)]
    · rw [if_neg hc]
      dsimp only
      have hsame : newFields (k :: known.members) rest = newFields known.members rest := by
        have hne {e : String × Value} (he : e ∈ rest) : e.1 ≠ k := fun heq =>
          hk (List.mem_map.2 ⟨e, he, heq⟩)
        rw [newFields, newFields]
        congr 1
        exact List.filter_congr fun e he => by simp [hne he]
      rw [ih _ hrest, hsame, newFields, newFields, List.filter_cons_of_pos (by simpa using hc)]
      rfl

/-- What is reported goes to the end of the list, in order. -/
theorem extend_order :
    (known.extend data).2.order = known.order ++ (known.extend data).1.map (·.field) := by
  induction data generalizing known with
  | nil => simp [extend]
  | cons entry rest ih =>
    obtain ⟨k, v⟩ := entry
    unfold extend
    split
    · exact ih known
    · simpa using ih ⟨k :: known.members, known.order ++ [k]⟩

/-- Nothing is reported of a payload all of whose fields are known. -/
theorem extend_eq_nil :
    (known.extend data).1 = [] ↔ ∀ name ∈ Assoc.keys data, name ∈ known.members := by
  induction data with
  | nil => simp [extend]
  | cons entry rest ih =>
    obtain ⟨k, v⟩ := entry
    rw [extend, Assoc.keys_cons, List.forall_mem_cons]
    split
    · rename_i hk
      rw [ih]
      exact ⟨fun h => ⟨List.contains_iff_mem.1 hk, h⟩, fun h => h.2⟩
    · rename_i hk
      exact ⟨fun h => (nomatch h), fun h => (hk (List.contains_iff_mem.2 h.1)).elim⟩

/-- The fields of the payload become members, and nothing else does. -/
theorem mem_members_extend (name : String) :
    name ∈ (known.extend data).2.members ↔ name ∈ known.members ∨ name ∈ Assoc.keys data := by
  induction data generalizing known with
  | nil => simp [extend]
  | cons entry rest ih =>
    obtain ⟨k, v⟩ := entry
    rw [extend, Assoc.keys_cons, List.mem_cons]
    split
    · rename_i hk
      have hmem : k ∈ known.members := List.contains_iff_mem.1 hk
      rw [ih]
      constructor
      · exact Or.imp_right .inr
      · rintro (h | rfl | h)
        · exact .inl h
        · exact .inl hmem
        · exact .inr h
    · dsimp only
      rw [ih, List.mem_cons, or_comm (a := name = k), or_assoc]

/-- The members and the list go on to be the same. -/
theorem mem_extend (h : ∀ n, n ∈ known.members ↔ n ∈ known.order) (n : String) :
    n ∈ (known.extend data).2.members ↔ n ∈ (known.extend data).2.order := by
  induction data generalizing known with
  | nil => exact h n
  | cons entry rest ih =>
    obtain ⟨k, v⟩ := entry
    unfold extend
    split
    · exact ih known h
    · exact ih ⟨k :: known.members, known.order ++ [k]⟩ fun n => by simp [h, or_comm]

end KnownFields

/-! ## Agreement -/

namespace Schema

variable {schema : Schema} {t : String} {data : Fields}

/-- The set and the list of every type have the same fields, and a type has both or neither. -/
structure Agrees (schema : Schema) : Prop where
  types : ∀ t, schema.isKnown t = true ↔ t ∈ schema.eventTypes
  names : ∀ t name, name ∈ schema.membersFor t ↔ name ∈ schema.fieldsFor t

theorem agrees_empty : empty.Agrees := ⟨fun _ => by simp [isKnown, eventTypes, empty, Assoc.has],
  fun _ _ => Iff.rfl⟩

@[simp]
theorem fieldsFor_put_self (known : KnownFields) : (schema.put t known).fieldsFor t = known.order := by
  rw [fieldsFor, put, Assoc.get?_put_self, Option.getD_some]

@[simp]
theorem membersFor_put_self (known : KnownFields) :
    (schema.put t known).membersFor t = known.members := by
  rw [membersFor, put, Assoc.get?_put_self, Option.getD_some]

theorem fieldsFor_put_of_ne {u : String} (known : KnownFields) (h : t ≠ u) :
    (schema.put t known).fieldsFor u = schema.fieldsFor u := by
  rw [fieldsFor, put, Assoc.get?_put_of_ne _ _ h, fieldsFor]

theorem membersFor_put_of_ne {u : String} (known : KnownFields) (h : t ≠ u) :
    (schema.put t known).membersFor u = schema.membersFor u := by
  rw [membersFor, put, Assoc.get?_put_of_ne _ _ h, membersFor]

theorem mem_eventTypes : t ∈ schema.eventTypes ↔ (Assoc.get? schema.order t).isSome = true := by
  rw [Option.isSome_iff_ne_none, ne_eq, Assoc.get?_eq_none_iff, Decidable.not_not, eventTypes]

theorem fieldsFor_of_not_mem (ht : t ∉ schema.eventTypes) : schema.fieldsFor t = [] := by
  rw [fieldsFor, (Assoc.get?_eq_none_iff _ _).2 ht, Option.getD_none]

theorem mem_eventTypes_put {u : String} (known : KnownFields) :
    u ∈ (schema.put t known).eventTypes ↔ u = t ∨ u ∈ schema.eventTypes := by
  rw [mem_eventTypes, mem_eventTypes, put, Assoc.get?_put]
  by_cases h : t = u
  · simp [h]
  · simp [h, Ne.symm h]

theorem Agrees.put (hs : schema.Agrees) {known : KnownFields}
    (hk : ∀ n, n ∈ known.members ↔ n ∈ known.order) : (schema.put t known).Agrees where
  types u := by
    have hput : (schema.put t known).isKnown u = (t == u || schema.isKnown u) := by
      rw [isKnown, Schema.put, Assoc.has, Assoc.get?_put]
      cases t == u <;> rfl
    rw [hput, mem_eventTypes_put, Bool.or_eq_true, hs.types, beq_iff_eq, eq_comm]
  names u name := by
    by_cases h : t = u
    · subst h
      rw [membersFor_put_self, fieldsFor_put_self, hk]
    · rw [membersFor_put_of_ne _ h, fieldsFor_put_of_ne _ h, hs.names]

/-! ## Observing -/

/-- The first payload of a type. -/
theorem Agrees.observe_first (hs : schema.Agrees) (data : Fields) (ht : t ∉ schema.eventTypes) :
    schema.observe t data = (⟨true, []⟩, schema.put t ⟨Assoc.keys data, Assoc.keys data⟩) := by
  have hnone : Assoc.get? schema.members t = none := by
    rw [← hs.types t, isKnown, Assoc.has] at ht
    simpa using ht
  rw [observe, hnone]

/-- A later payload. -/
theorem Agrees.observe_later (hs : schema.Agrees) (hd : (Assoc.keys data).Nodup)
    (ht : t ∈ schema.eventTypes) :
    ∃ members, (∀ n, n ∈ members ↔
        n ∈ schema.fieldsFor t ++ (newFields (schema.fieldsFor t) data).map (·.field)) ∧
      schema.observe t data = (⟨false, newFields (schema.fieldsFor t) data⟩, schema.put t
        ⟨members, schema.fieldsFor t ++ (newFields (schema.fieldsFor t) data).map (·.field)⟩) := by
  obtain ⟨members, hm⟩ : ∃ members, Assoc.get? schema.members t = some members := by
    rw [← hs.types t, isKnown, Assoc.has] at ht
    exact Option.isSome_iff_exists.1 ht
  have hsame (n : String) : n ∈ members ↔ n ∈ schema.fieldsFor t := by
    rw [← hs.names t n, membersFor, hm, Option.getD_some]
  let known : KnownFields := ⟨members, schema.fieldsFor t⟩
  have hnew : (known.extend data).1 = newFields (schema.fieldsFor t) data :=
    (known.extend_new data hd).trans (newFields_congr hsame data)
  have horder : (known.extend data).2.order =
      schema.fieldsFor t ++ (newFields (schema.fieldsFor t) data).map (·.field) :=
    hnew ▸ known.extend_order data
  refine ⟨(known.extend data).2.members, fun n => ?_, ?_⟩
  · rw [known.mem_extend data hsame n, horder]
  · rw [observe, hm]
    dsimp only
    rw [← horder, ← hnew]

/-- A payload is new by its type or by its fields. -/
theorem newFields_of_newType (h : (schema.observe t data).1.newType = true) :
    (schema.observe t data).1.newFields = [] := by
  unfold observe at h ⊢
  split
  · rfl
  · rename_i members hm
    rw [hm] at h
    exact absurd h Bool.false_ne_true

/-- The fields of every type only grow, and at the end. -/
theorem Agrees.prefix_observe (hs : schema.Agrees) (t u : String) (data : Fields) :
    schema.fieldsFor u <+: (schema.observe t data).2.fieldsFor u := by
  by_cases hu : t = u
  · subst hu
    cases hm : Assoc.get? schema.members t with
    | none =>
      have hnew : t ∉ schema.eventTypes := by
        rw [← hs.types t, isKnown, Assoc.has, hm]
        exact Bool.false_ne_true
      rw [fieldsFor_of_not_mem hnew]
      exact List.nil_prefix
    | some members =>
      rw [observe, hm]
      dsimp only
      rw [fieldsFor_put_self, KnownFields.extend_order]
      exact List.prefix_append _ _
  · unfold observe
    split <;> exact (fieldsFor_put_of_ne _ hu).symm ▸ List.prefix_rfl

end Schema

end EventHub
