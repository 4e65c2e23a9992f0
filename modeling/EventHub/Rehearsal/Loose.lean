import EventHub.Hub.Validate

/-!
# Records that were not checked

A record may be put together without a check. It has the fields that were given, under their own
names or their wire names, and the presets of the others; required fields that were not given are
missing from it. The hub never makes such a record, but a rehearsal may hand it one.

* `presetOf`: what a field is when it is not given.
* `looseRecord`: a record of given fields.
-/

namespace EventHub.Rehearsal

variable {α : Type}

/-- What a field is when it is not given: a value, a new id, the time, or a record of presets. -/
inductive Preset
  | value (v : Value)
  | freshId (stem : String)
  | now
  | record (kind : RecordKind)

/-- The presets that metadata of rules and of flows have in common. -/
def metadataPreset : String → Option Preset
  | "enabled" => some (.value (.bool true))
  | "auto_generated" => some (.value (.bool false))
  | "category" | "event_type" => some (.value .null)
  | "created_at" | "updated_at" => some .now
  | _ => none

/-- What a field is when it is not given; required fields have no preset. -/
def presetOf : RecordKind → String → Option Preset
  | .event, "id" => some (.freshId "event")
  | .event, "data" | .event, "metadata" => some (.value (.map []))
  | .typeDiscovery, "timestamp" | .fieldsDiscovery, "timestamp" => some .now
  | .typeDiscovery, "sample_data" => some (.value (.map []))
  | .discoveredField, "value" => some (.value .null)
  | .predicate, "op" => some (.value (.text "eq"))
  | .predicate, "value" => some (.value .null)
  | .timeRange, _ | .ruleConditions, _ => some (.value .null)
  | .actionInvocation, "parameters" => some (.value (.map []))
  | .ruleMetadata, "discovered_fields" => some (.value (.list []))
  | .ruleMetadata, "priority" => some (.value .null)
  | .ruleMetadata, name | .flowMetadata, name => metadataPreset name
  | .rule, "id" | .rule, "conditions" | .flow, "id" => some (.value .null)
  | .rule, "description" | .flow, "description" => some (.value (.text ""))
  | .rule, "metadata" => some (.record .ruleMetadata)
  | .flow, "metadata" => some (.record .flowMetadata)
  | .transformSpec, "template" | .transformSpec, "function" | .transformStep, "input" =>
    some (.value .null)
  | _, _ => none

/-- The value of a preset. -/
def Preset.make : Preset → Task α Value
  | .value v => return v
  | .freshId stem => return .text (← Task.freshId stem)
  | .now => return .text (← Task.now)
  | .record kind => validRecord kind (.map [])

/-- What was given for a field; the wire name goes before the field's own. -/
def givenField (given : Fields) (name : String) : Option Value :=
  (Assoc.get? given (camelCase name)).or (Assoc.get? given name)

/-- The entries of the named fields. -/
def looseFields (kind : RecordKind) (given : Fields) : List String → Task α Fields
  | [] => return []
  | name :: rest => do
    match givenField given name, presetOf kind name with
    | some v, _ => return (name, v) :: (← looseFields kind given rest)
    | none, some preset => return (name, ← preset.make) :: (← looseFields kind given rest)
    | none, none => looseFields kind given rest

/-- A record of given fields, which are not checked. -/
def looseRecord (kind : RecordKind) (given : Fields) : Task α Value := do
  return .record kind (← looseFields kind given kind.fieldNames)

end EventHub.Rehearsal
