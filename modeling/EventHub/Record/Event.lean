import EventHub.Record.Check

/-!
# Events and what is discovered about them

An event says that something happened somewhere at some time. The hub also tells of event types
that it sees for the first time, and of fields that are new to a known type.

* `Event.check`: an event from a value.
* `Event.moment?`: the time of an event, when its timestamp can be read.
* `Event.check_name`: an accepted event has a type, a source and a timestamp.
-/

namespace EventHub

/-- A record of something that happened. -/
structure Event where
  id : String
  type : String
  source : String
  timestamp : String
  data : Fields
  metadata : Fields
deriving Inhabited

/-- A field seen for the first time on a known event type. -/
structure DiscoveredField where
  field : String
  value : Value
  kind : String

/-- An event type is seen for the first time. -/
structure TypeDiscovery where
  eventType : String
  timestamp : String
  sampleData : Fields

/-- Fields are seen for the first time on a known event type. -/
structure FieldsDiscovery where
  eventType : String
  newFields : List DiscoveredField
  timestamp : String

/-! ## As values -/

/-- The event as a value. -/
def Event.toValue (e : Event) : Value :=
  .record .event [("id", .text e.id), ("type", .text e.type), ("source", .text e.source),
    ("timestamp", .text e.timestamp), ("data", .map e.data), ("metadata", .map e.metadata)]

/-- The field as a value. -/
def DiscoveredField.toValue (f : DiscoveredField) : Value :=
  .record .discoveredField [("field", .text f.field), ("value", f.value), ("kind", .text f.kind)]

/-- The discovery as a value. -/
def TypeDiscovery.toValue (d : TypeDiscovery) : Value :=
  .record .typeDiscovery [("event_type", .text d.eventType), ("timestamp", .text d.timestamp),
    ("sample_data", .map d.sampleData)]

/-- The discovery as a value. -/
def FieldsDiscovery.toValue (d : FieldsDiscovery) : Value :=
  .record .fieldsDiscovery [("event_type", .text d.eventType),
    ("new_fields", .list (d.newFields.map DiscoveredField.toValue)),
    ("timestamp", .text d.timestamp)]

/-- The names of the discovered fields. -/
def FieldsDiscovery.fieldNames (d : FieldsDiscovery) : List String := d.newFields.map (·.field)

/-! ## From values -/

/-- A timestamp: a text, or a moment that is written out with an offset. -/
def checkTimestamp : Value → Checked String
  | .moment m => checkName (.text m.asUtc.text)
  | v => checkName v

/-- The event that the fields describe; an event without an id is given `freshId`. -/
def Event.ofFields (freshId : String) (fields : Fields) : Checked Event :=
  ((((((Checked.apply (.ok Event.mk)
    (defaulted fields "id" freshId checkText)).apply
    (required fields "type" checkName)).apply
    (required fields "source" checkName)).apply
    (required fields "timestamp" checkTimestamp)).apply
    (defaulted fields "data" [] checkMapOrNull)).apply
    (defaulted fields "metadata" [] checkMapOrNull))

/-- An event from a value. -/
def Event.check (freshId : String) (v : Value) : Checked Event := do
  Event.ofFields freshId (← recordEntries .event v)

/-- Does checking the value need a fresh id? -/
def Event.needsId (v : Value) : Bool :=
  match recordEntries .event v with
  | .ok fields => (field fields "id").isNone
  | .error _ => false

/-- A discovered field from a value. -/
def DiscoveredField.check (v : Value) : Checked DiscoveredField := do
  let fields ← recordEntries .discoveredField v
  (((Checked.apply (.ok DiscoveredField.mk)
    (required fields "field" checkText)).apply
    (defaulted fields "value" .null checkAny)).apply
    (required fields "kind" checkText))

/-- A type discovery from a value. -/
def TypeDiscovery.check (now : String) (v : Value) : Checked TypeDiscovery := do
  let fields ← recordEntries .typeDiscovery v
  (((Checked.apply (.ok TypeDiscovery.mk)
    (required fields "event_type" checkText)).apply
    (defaulted fields "timestamp" now checkText)).apply
    (defaulted fields "sample_data" [] checkMap))

/-- A fields discovery from a value. -/
def FieldsDiscovery.check (now : String) (v : Value) : Checked FieldsDiscovery := do
  let fields ← recordEntries .fieldsDiscovery v
  (((Checked.apply (.ok FieldsDiscovery.mk)
    (required fields "event_type" checkText)).apply
    (required fields "new_fields" (checkList DiscoveredField.check))).apply
    (defaulted fields "timestamp" now checkText))

/-! ## The time of an event -/

/-- A trailing `Z` written as an offset. -/
def zuluAsOffset (cs : List Char) : List Char :=
  if cs.getLast? == some 'Z' then cs.dropLast ++ "+00:00".toList else cs

/-- The moment that a timestamp writes, if it does. -/
def readTimestamp (s : String) : Option Time.Moment :=
  Time.Moment.parseChars? (zuluAsOffset s.toList)

/-- The time of an event, if its timestamp can be read. -/
def Event.moment? (e : Event) : Option Time.Moment := readTimestamp e.timestamp

/-! ## What a check has seen -/

theorem required_checkName {fields : Fields} {name s : String}
    (h : required fields name checkName = .ok s) : s.isEmpty = false := by
  unfold required at h
  split at h
  · rename_i given v hf
    cases hc : checkName v with
    | ok t =>
      rw [hc] at h
      simp only [Checked.within, Except.ok.injEq] at h
      exact h ▸ checkName_eq_ok hc
    | error issues => rw [hc] at h; simp [Checked.within] at h
  · simp at h

theorem Event.check_name {freshId : String} {v : Value} {e : Event}
    (h : Event.check freshId v = .ok e) : e.type.isEmpty = false ∧ e.source.isEmpty = false := by
  unfold Event.check at h
  cases hv : recordEntries .event v with
  | error issues => rw [hv] at h; simp [bind, Except.bind] at h
  | ok fields =>
    rw [hv] at h
    simp only [bind, Except.bind, Event.ofFields, Checked.apply_eq_ok] at h
    obtain ⟨_, _, ⟨_, _, ⟨_, _, ⟨_, s, ⟨_, t, ⟨_, i, hg, _, rfl⟩, ht, rfl⟩, hs, rfl⟩, _, rfl⟩,
      _, rfl⟩, _, rfl⟩ := h
    cases hg
    exact ⟨required_checkName ht, required_checkName hs⟩

end EventHub
