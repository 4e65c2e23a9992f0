import EventHub.Hub.Effect
import EventHub.Proofs.Discovery.Observe

/-!
# Announcements

What there is to announce of events, told from the events alone, and what the schema makes of them.

* **Events** (`firstOf`, `fieldsSeen`, `debut`): what a row of events has of a type, and of a field.
* **Announcements** (`announced`): each event in turn announces its type when it is the first of it,
  and otherwise the fields that no event of the type had before.
* **Discoveries** (`Discoveries`): what was told, the events and the schema belong together: every
  type was told of once, and every field that came later. One more event keeps it so
  (`Discoveries.first`, `Discoveries.later`).
-/

namespace EventHub

/-! ## Events -/

/-- The first event of the type. -/
def firstOf (seen : List Event) (t : String) : Option Event := seen.find? (·.type == t)

/-- The fields of the first event of the type. -/
def firstFields (seen : List Event) (t : String) : List String :=
  ((firstOf seen t).map fun e => Assoc.keys e.data).getD []

/-- The fields that events of the type had. -/
def fieldsSeen (seen : List Event) (t : String) : List String :=
  (seen.filter (·.type == t)).flatMap fun e => Assoc.keys e.data

/-- The first event of the type that had the field, and its value. -/
def debut (seen : List Event) (t name : String) : Option (Event × Value) :=
  seen.findSome? fun e => if e.type == t then (Assoc.get? e.data name).map (e, ·) else none

section Events

variable {seen : List Event} {e : Event} {t name : String}

theorem firstOf_append_of_ne (h : e.type ≠ t) : firstOf (seen ++ [e]) t = firstOf seen t := by
  simp [firstOf, List.find?_append, h]

theorem firstOf_append_of_some {first : Event} (h : firstOf seen t = some first) :
    firstOf (seen ++ [e]) t = some first := by
  rw [firstOf] at h ⊢
  rw [List.find?_append, h, Option.some_or]

theorem firstOf_append_of_none (h : firstOf seen e.type = none) :
    firstOf (seen ++ [e]) e.type = some e := by
  rw [firstOf] at h ⊢
  rw [List.find?_append, h]
  simp

theorem fieldsSeen_append_of_ne (h : e.type ≠ t) :
    fieldsSeen (seen ++ [e]) t = fieldsSeen seen t := by
  simp [fieldsSeen, h]

theorem fieldsSeen_append_self (seen : List Event) (e : Event) :
    fieldsSeen (seen ++ [e]) e.type = fieldsSeen seen e.type ++ Assoc.keys e.data := by
  simp [fieldsSeen]

theorem debut_append_of_ne (h : e.type ≠ t) : debut (seen ++ [e]) t name = debut seen t name := by
  simp [debut, List.findSome?_append, h]

theorem debut_append_self (seen : List Event) (e : Event) (name : String) :
    debut (seen ++ [e]) e.type name =
      (debut seen e.type name).or ((Assoc.get? e.data name).map (e, ·)) := by
  simp [debut, List.findSome?_append]

theorem isSome_firstOf_append : (firstOf (seen ++ [e]) t).isSome = true ↔
    t = e.type ∨ (firstOf seen t).isSome = true := by
  by_cases ht : e.type = t
  · subst ht
    cases hf : firstOf seen e.type with
    | none => simp [firstOf_append_of_none hf]
    | some first => simp [firstOf_append_of_some hf]
  · rw [firstOf_append_of_ne ht, or_iff_right (Ne.symm ht)]

/-- A field that no event of the type had. -/
theorem debut_eq_none : debut seen t name = none ↔ name ∉ fieldsSeen seen t := by
  have hone (e : Event) : (if e.type == t then (Assoc.get? e.data name).map (e, ·) else none) = none ↔
      ¬ (e.type = t ∧ name ∈ Assoc.keys e.data) := by
    rw [not_and, ← Assoc.get?_eq_none_iff]
    by_cases h : e.type = t <;> simp [h]
  rw [debut, List.findSome?_eq_none_iff]
  simp only [hone]
  simp [fieldsSeen]

end Events

/-! ## Announcements -/

/-- What an event announces after the others. -/
def announcedAt (seen : List Event) (e : Event) : List Notice :=
  match firstOf seen e.type with
  | none => [.typeDiscovery ⟨e.type, e.timestamp, e.data⟩]
  | some _ =>
    let new := newFields (fieldsSeen seen e.type) e.data
    if new.isEmpty then [] else [.fieldsDiscovery ⟨e.type, new, e.timestamp⟩]

/-- What events announce in turn after others. -/
def announcedAfter (seen : List Event) : List Event → List Notice
  | [] => []
  | e :: rest => announcedAt seen e ++ announcedAfter (seen ++ [e]) rest

/-- What events announce in turn. -/
def announced (events : List Event) : List Notice := announcedAfter [] events

theorem announced_append (seen : List Event) (e : Event) :
    announced (seen ++ [e]) = announced seen ++ announcedAt seen e := by
  have hafter (past : List Event) : announcedAfter past (seen ++ [e]) =
      announcedAfter past seen ++ announcedAt (past ++ seen) e := by
    induction seen generalizing past with
    | nil => simp [announcedAfter]
    | cons first rest ih => simp [announcedAfter, ih]
  exact hafter []

theorem announcedAt_of_none {seen : List Event} {e : Event} (hf : firstOf seen e.type = none) :
    announcedAt seen e = [.typeDiscovery ⟨e.type, e.timestamp, e.data⟩] := by
  rw [announcedAt, hf]

theorem announcedAt_of_some {seen : List Event} {e first : Event}
    (hf : firstOf seen e.type = some first) {new : List DiscoveredField}
    (hn : newFields (fieldsSeen seen e.type) e.data = new) : announcedAt seen e =
      if new.isEmpty then [] else [.fieldsDiscovery ⟨e.type, new, e.timestamp⟩] := by
  rw [announcedAt, hf, ← hn]

/-- The fields that an event announces are some, and distinct. -/
theorem lists_of_mem_announcedAt {seen : List Event} {e : Event} (he : (Assoc.keys e.data).Nodup)
    {d : FieldsDiscovery} (hd : .fieldsDiscovery d ∈ announcedAt seen e) :
    d.newFields ≠ [] ∧ d.fieldNames.Nodup := by
  cases hf : firstOf seen e.type with
  | none =>
    rw [announcedAt_of_none hf] at hd
    cases List.mem_singleton.1 hd
  | some first =>
    rw [announcedAt_of_some hf rfl] at hd
    split at hd
    · cases hd
    · obtain rfl := Notice.fieldsDiscovery.inj (List.mem_singleton.1 hd)
      refine ⟨by simp_all, ?_⟩
      rw [FieldsDiscovery.fieldNames, names_newFields]
      exact he.filter _

/-- The discovery of the type that is told of. -/
def Notice.typeTold (t : String) : Notice → Option TypeDiscovery
  | .typeDiscovery d => if d.eventType = t then some d else none
  | _ => none

/-- The fields of the type that are told of, each with the time of the discovery. -/
def Notice.fieldsTold (t : String) : Notice → List (String × DiscoveredField)
  | .fieldsDiscovery d => if d.eventType = t then d.newFields.map (d.timestamp, ·) else []
  | _ => []

/-! ## Discoveries -/

/-- What was told of a type belongs to the events, and to the fields that the schema has of it: the
type is told of at its first event, with the data of the event; a field that the first event does not
have is told of at the first event that has it, with its value; and nothing else is told. The fields
are those of the first event, and then those that were told of, in order. -/
structure Discovered (t : String) (seen : List Event) (told : List Notice) (fields : List String) :
    Prop where
  types : told.filterMap (·.typeTold t) =
    (firstOf seen t).toList.map fun e => ⟨t, e.timestamp, e.data⟩
  news : ∀ name, (told.flatMap (·.fieldsTold t)).filter (·.2.field == name) =
    if name ∈ firstFields seen t then []
    else (debut seen t name).toList.map fun (e, v) => (e.timestamp, ⟨name, v, fieldKind v⟩)
  order : fields = firstFields seen t ++ (told.flatMap (·.fieldsTold t)).map (·.2.field)
  distinct : fields.Nodup
  complete : ∀ name, name ∈ fields ↔ name ∈ fieldsSeen seen t

/-- What was told, the events and the schema belong together (module doc). -/
structure Discoveries (seen : List Event) (told : List Notice) (schema : Schema) : Prop where
  inTurn : told = announced seen
  each : ∀ t, Discovered t seen told (schema.fieldsFor t)
  lists : ∀ d, .fieldsDiscovery d ∈ told → d.newFields ≠ [] ∧ d.fieldNames.Nodup
  known : ∀ t, t ∈ schema.eventTypes ↔ (firstOf seen t).isSome = true
  agrees : schema.Agrees

/-- Before the first event. -/
theorem Discoveries.empty : Discoveries [] [] .empty where
  inTurn := rfl
  each t := ⟨rfl, fun _ => rfl, rfl, List.nodup_nil, fun _ => Iff.rfl⟩
  lists d hd := nomatch hd
  known t := by simp [Schema.eventTypes, Schema.empty, firstOf]
  agrees := Schema.agrees_empty

/-- What a change of the schema has told of the event. -/
def SchemaChange.told (c : SchemaChange) (e : Event) : List Notice :=
  (if c.newType then [.typeDiscovery ⟨e.type, e.timestamp, e.data⟩] else []) ++
    if c.newFields.isEmpty then [] else [.fieldsDiscovery ⟨e.type, c.newFields, e.timestamp⟩]

section Step

variable {seen : List Event} {told : List Notice} {schema : Schema} {e : Event} {t : String}

/-- An event and what it announces are of no account for other types. -/
theorem Discovered.other {fields : List String} (h : Discovered t seen told fields) (ht : e.type ≠ t) :
    Discovered t (seen ++ [e]) (told ++ announcedAt seen e) fields := by
  obtain ⟨htypes, hfields⟩ : (announcedAt seen e).filterMap (·.typeTold t) = [] ∧
      (announcedAt seen e).flatMap (·.fieldsTold t) = [] := by
    cases hf : firstOf seen e.type with
    | none => simp [announcedAt_of_none hf, Notice.typeTold, Notice.fieldsTold, ht]
    | some first =>
      rw [announcedAt_of_some hf rfl]
      split <;> simp [Notice.typeTold, Notice.fieldsTold, ht]
  have hfirst : firstFields (seen ++ [e]) t = firstFields seen t := by
    rw [firstFields, firstOf_append_of_ne ht, firstFields]
  constructor
  · rw [List.filterMap_append, htypes, List.append_nil, firstOf_append_of_ne ht, h.types]
  · intro name
    rw [List.flatMap_append, hfields, List.append_nil, hfirst, debut_append_of_ne ht, h.news]
  · rw [List.flatMap_append, hfields, List.append_nil, hfirst]
    exact h.order
  · exact h.distinct
  · rw [fieldsSeen_append_of_ne ht]
    exact h.complete

theorem firstFields_of_some {first : Event} (hf : firstOf seen t = some first) :
    firstFields seen t = Assoc.keys first.data := by
  rw [firstFields, hf]
  rfl

/-- The first event of a type. -/
theorem Discovered.first {fields : List String} (h : Discovered e.type seen told fields)
    (hn : fields = []) (he : (Assoc.keys e.data).Nodup) (hf : firstOf seen e.type = none) :
    Discovered e.type (seen ++ [e]) (told ++ announcedAt seen e) (Assoc.keys e.data) := by
  have hat := announcedAt_of_none hf
  have hfirst : firstFields (seen ++ [e]) e.type = Assoc.keys e.data :=
    firstFields_of_some (firstOf_append_of_none hf)
  have hunseen (name : String) : name ∉ fieldsSeen seen e.type := by
    rw [← h.complete, hn]
    exact List.not_mem_nil
  -- There were no fields, so none was told of: the order of the fields is that of what was told.
  have htold : told.flatMap (·.fieldsTold e.type) = [] := by
    have horder := h.order
    rw [hn] at horder
    exact List.map_eq_nil_iff.1 (List.append_eq_nil_iff.1 horder.symm).2
  have hfields : (told ++ announcedAt seen e).flatMap (·.fieldsTold e.type) = [] := by
    rw [List.flatMap_append, htold, hat]
    rfl
  -- The five parts: the type is told once, the fields come without news, in order, distinct and complete.
  constructor
  · rw [List.filterMap_append, h.types, hf, hat, firstOf_append_of_none hf]
    simp [Notice.typeTold]
  · intro name
    rw [hfields, hfirst, debut_append_self, debut_eq_none.2 (hunseen name), Option.none_or]
    split
    · rfl
    · rw [(Assoc.get?_eq_none_iff _ _).2 ‹_›]
      rfl
  · rw [hfields, hfirst, List.map_nil, List.append_nil]
  · exact he
  · intro name
    rw [fieldsSeen_append_self, List.mem_append, or_iff_right (hunseen name)]

/-- A later event of a type. -/
theorem Discovered.later {fields : List String} (h : Discovered e.type seen told fields)
    (he : (Assoc.keys e.data).Nodup) {first : Event} (hf : firstOf seen e.type = some first) :
    Discovered e.type (seen ++ [e]) (told ++ announcedAt seen e)
      (fields ++ (newFields fields e.data).map (·.field)) := by
  -- What was seen and what is recorded are the same fields, so the same are new.
  have hnew : newFields (fieldsSeen seen e.type) e.data = newFields fields e.data :=
    newFields_congr (fun n => (h.complete n).symm) e.data
  have hsame : firstFields (seen ++ [e]) e.type = firstFields seen e.type := by
    rw [firstFields, firstOf_append_of_some hf, firstFields, hf]
  have hcarried {name : String} (hname : name ∈ firstFields seen e.type) : name ∈ fields := by
    rw [h.order]
    exact List.mem_append_left _ hname
  have hat := announcedAt_of_some hf hnew
  have htypes : (announcedAt seen e).filterMap (·.typeTold e.type) = [] := by
    rw [hat]
    split <;> rfl
  have hfields : (announcedAt seen e).flatMap (·.fieldsTold e.type) =
      (newFields fields e.data).map (e.timestamp, ·) := by
    rw [hat]
    cases newFields fields e.data <;> simp [Notice.fieldsTold]
  constructor
  · rw [List.filterMap_append, htypes, List.append_nil, firstOf_append_of_some hf, ← hf, h.types]
  · intro name
    have hfilter : ((newFields fields e.data).map (e.timestamp, ·)).filter (·.2.field == name) =
        ((newFields fields e.data).filter (·.field == name)).map (e.timestamp, ·) := by
      rw [List.filter_map]
      rfl
    rw [List.flatMap_append, List.filter_append, h.news, hfields, hfilter, hsame, debut_append_self]
    -- A field that is known made its debut before; one that is not makes it now, if the event has it.
    by_cases hcase : name ∈ fields
    · rw [filter_newFields_of_mem _ hcase, List.map_nil, List.append_nil]
      obtain ⟨d, hd⟩ : ∃ d, debut seen e.type name = some d := by
        refine Option.ne_none_iff_exists'.1 fun hnone => ?_
        exact debut_eq_none.1 hnone ((h.complete name).1 hcase)
      rw [hd, Option.some_or]
    · have hnone : debut seen e.type name = none :=
        debut_eq_none.2 fun hs => hcase ((h.complete name).2 hs)
      rw [if_neg fun hname => hcase (hcarried hname), if_neg fun hname => hcase (hcarried hname),
        hnone, filter_newFields he hcase]
      cases Assoc.get? e.data name <;> rfl
  · rw [List.flatMap_append, hfields, hsame, List.map_append, ← List.append_assoc, ← h.order,
      List.map_map]
    rfl
  · exact nodup_newFields h.distinct he
  · intro name
    rw [fieldsSeen_append_self, List.mem_append, List.mem_append, mem_names_newFields,
      ← h.complete name]
    by_cases hname : name ∈ fields <;> simp [hname]

/-- Discoveries go on when they do for every type. -/
theorem Discoveries.next (h : Discoveries seen told schema) (he : (Assoc.keys e.data).Nodup)
    {known : KnownFields} (hk : ∀ n, n ∈ known.members ↔ n ∈ known.order)
    (htype : Discovered e.type (seen ++ [e]) (told ++ announcedAt seen e) known.order) :
    Discoveries (seen ++ [e]) (told ++ announcedAt seen e) (schema.put e.type known) where
  inTurn := by rw [announced_append, h.inTurn]
  each t := by
    by_cases ht : e.type = t
    · subst ht
      rwa [Schema.fieldsFor_put_self]
    · rw [Schema.fieldsFor_put_of_ne _ ht]
      exact (h.each t).other ht
  lists d hd := (List.mem_append.1 hd).elim (h.lists d) (lists_of_mem_announcedAt he)
  known t := by rw [Schema.mem_eventTypes_put, h.known, isSome_firstOf_append]
  agrees := h.agrees.put hk

/-- One more event: what the change of the schema has told of it is what it announces, and the
discoveries go on to belong together. -/
theorem Discoveries.observe (h : Discoveries seen told schema) (he : (Assoc.keys e.data).Nodup) :
    (schema.observe e.type e.data).1.told e = announcedAt seen e ∧
      Discoveries (seen ++ [e]) (told ++ announcedAt seen e) (schema.observe e.type e.data).2 := by
  have htype := h.each e.type
  cases hf : firstOf seen e.type with
  | none =>
    have hnew : e.type ∉ schema.eventTypes := by
      rw [h.known, hf]
      exact Bool.false_ne_true
    have htypes := htype.first (Schema.fieldsFor_of_not_mem hnew) he hf
    rw [h.agrees.observe_first e.data hnew]
    exact ⟨(announcedAt_of_none hf).symm, h.next he (fun _ => Iff.rfl) htypes⟩
  | some first =>
    have hknown : e.type ∈ schema.eventTypes := by
      rw [h.known, hf]
      rfl
    have hnew : newFields (fieldsSeen seen e.type) e.data =
        newFields (schema.fieldsFor e.type) e.data :=
      newFields_congr (fun n => (htype.complete n).symm) e.data
    obtain ⟨members, hmembers, hobserve⟩ := h.agrees.observe_later he hknown
    rw [hobserve]
    exact ⟨(announcedAt_of_some hf hnew).symm, h.next he hmembers (htype.later he hf)⟩

end Step

end EventHub
