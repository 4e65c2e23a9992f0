import EventHub.Fault
import EventHub.Record.Event
import EventHub.Record.Flow

/-!
# Records of any kind

Records whose kind is known by name only, as applications give them.

* `RecordKind.ofName?_name`: a kind is told by its name.
* `RecordKind.check`: a record of a kind from a value.
* `assignField`: a field of a record is given another value. The fields of events are never changed.
-/

namespace EventHub

namespace RecordKind

/-- All kinds. -/
def all : List RecordKind :=
  [.event, .typeDiscovery, .fieldsDiscovery, .discoveredField, .predicate, .timeRange,
   .ruleConditions, .actionInvocation, .ruleMetadata, .rule, .ruleStep, .actionStep,
   .conditionStep, .transformSpec, .transformStep, .flowMetadata, .flow]

/-- The kind of a name. -/
def ofName? (name : String) : Option RecordKind := all.find? fun kind => kind.name == name

theorem ofName?_name (kind : RecordKind) : ofName? kind.name = some kind := by
  cases kind <;> decide

/-- A record of a kind from a value. The time and the id stand in for missing ones. -/
def check (now freshId : String) (kind : RecordKind) (v : Value) : Checked Value :=
  match kind with
  | .event => (Event.check freshId v).map Event.toValue
  | .typeDiscovery => (TypeDiscovery.check now v).map TypeDiscovery.toValue
  | .fieldsDiscovery => (FieldsDiscovery.check now v).map FieldsDiscovery.toValue
  | .discoveredField => (DiscoveredField.check v).map DiscoveredField.toValue
  | .predicate => (Predicate.check v).map Predicate.toValue
  | .timeRange => (TimeRange.check v).map TimeRange.toValue
  | .ruleConditions => (RuleConditions.check v).map RuleConditions.toValue
  | .actionInvocation => (ActionInvocation.check v).map ActionInvocation.toValue
  | .ruleMetadata => (RuleMetadata.check now v).map RuleMetadata.toValue
  | .rule => (Rule.check now v).map Rule.toValue
  | .ruleStep => (checkRuleStep v).map Step.toValue
  | .actionStep => (checkActionStep v).map Step.toValue
  | .conditionStep => (checkConditionStep v).map Step.toValue
  | .transformSpec => (TransformSpec.check v).map TransformSpec.toValue
  | .transformStep => (checkTransformStep v).map Step.toValue
  | .flowMetadata => (FlowMetadata.check now v).map FlowMetadata.toValue
  | .flow => (Flow.check now v).map Flow.toValue

/-- Does checking a value as a record of the kind need a fresh id? -/
def needsId (kind : RecordKind) (v : Value) : Bool := kind == .event && Event.needsId v

/-- What is known of a record besides its fields: the names that it gives. -/
def names (kind : RecordKind) (v : Value) : Fields :=
  let texts (items : List String) : Value := .list (items.map .text)
  match kind with
  | .rule => match Rule.check "" v with
    | .ok r => [("event_types", texts r.eventTypes)]
    | .error _ => []
  | .ruleConditions => match RuleConditions.check v with
    | .ok c => [("event_types", texts c.eventTypes), ("sources", texts c.sources)]
    | .error _ => []
  | .fieldsDiscovery => match FieldsDiscovery.check "" v with
    | .ok d => [("field_names", texts d.fieldNames)]
    | .error _ => []
  | _ => []

end RecordKind

/-- What records of a kind tell of themselves that cannot be set. -/
def RecordKind.derived (kind : RecordKind) : List String :=
  ["model_extra", "model_fields_set"] ++ if kind == .fieldsDiscovery then ["field_names"] else []

/-- The record with another value for one of its fields, which is not checked. A name that starts
with an underscore belongs to no field: it may be given to any record and changes none. -/
def assignField (kind : RecordKind) (fields : Fields) (name : String) (v : Value) :
    Except Fault Value :=
  if name.startsWith "_" then .ok (.record kind fields)
  else if kind == .event then .error (.validation kind.name [⟨[name], .frozen⟩])
  else if kind.derived.contains name then
    .error (.raised .member s!"property '{name}' of '{kind.name}' object has no setter")
  else if Assoc.has fields name then .ok (.record kind (Assoc.put fields name v))
  else .error (.raised .value s!"\"{kind.name}\" object has no field \"{name}\"")

end EventHub
