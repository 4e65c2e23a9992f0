import EventHub.Assoc
import EventHub.Time.Moment

/-!
# Values

What events carry, definitions are made of and actions return: JSON values, a few more scalars,
named functions of the application, and the records of the hub seen as named fields.

* `Value.truthy`: which values count as true.
* `camelCase`: the wire name of a field.
* `Value.dump`, `Value.document`: a value with its records written out as maps, under their own
  names or under their wire names.
-/

namespace EventHub

/-- The kinds of records. -/
inductive RecordKind
  | event | typeDiscovery | fieldsDiscovery | discoveredField
  | predicate | timeRange | ruleConditions | actionInvocation | ruleMetadata | rule
  | ruleStep | actionStep | conditionStep | transformSpec | transformStep | flowMetadata | flow
deriving DecidableEq, Repr

/-- The name of a kind of record. -/
def RecordKind.name : RecordKind → String
  | .event => "Event"
  | .typeDiscovery => "TypeDiscovery"
  | .fieldsDiscovery => "FieldsDiscovery"
  | .discoveredField => "DiscoveredField"
  | .predicate => "Predicate"
  | .timeRange => "TimeRange"
  | .ruleConditions => "RuleConditions"
  | .actionInvocation => "ActionInvocation"
  | .ruleMetadata => "RuleMetadata"
  | .rule => "Rule"
  | .ruleStep => "RuleStep"
  | .actionStep => "ActionStep"
  | .conditionStep => "ConditionStep"
  | .transformSpec => "TransformSpec"
  | .transformStep => "TransformStep"
  | .flowMetadata => "FlowMetadata"
  | .flow => "Flow"

/-- The names of the fields of a kind of record, in order. -/
def RecordKind.fieldNames : RecordKind → List String
  | .event => ["id", "type", "source", "timestamp", "data", "metadata"]
  | .typeDiscovery => ["event_type", "timestamp", "sample_data"]
  | .fieldsDiscovery => ["event_type", "new_fields", "timestamp"]
  | .discoveredField => ["field", "value", "kind"]
  | .predicate => ["field", "op", "value"]
  | .timeRange => ["start", "end"]
  | .ruleConditions => ["event_type", "source", "data", "time_range", "custom"]
  | .actionInvocation => ["type", "parameters"]
  | .ruleMetadata =>
    ["enabled", "category", "auto_generated", "event_type", "discovered_fields", "priority",
     "created_at", "updated_at"]
  | .rule => ["id", "name", "description", "conditions", "actions", "metadata"]
  | .ruleStep => ["id", "type", "rule_id"]
  | .actionStep => ["id", "type", "action"]
  | .conditionStep => ["id", "type", "condition"]
  | .transformSpec => ["type", "template", "function"]
  | .transformStep => ["id", "type", "input", "transform"]
  | .flowMetadata =>
    ["enabled", "category", "auto_generated", "event_type", "created_at", "updated_at"]
  | .flow => ["id", "name", "description", "steps", "metadata"]

/-- A dynamic value. The entries of maps and records are in insertion order. A number that is none
is told from others of its kind by a mark. A table is a map with keys that are not all texts. A
part of the input of a running flow is told by its path, as long as the flow may change it. -/
inductive Value
  | null
  | bool (b : Bool)
  | int (n : Int)
  | float (x : Float)
  | nan (mark : Nat)
  | text (s : String)
  | bytes (bs : List UInt8)
  | list (items : List Value)
  | tuple (items : List Value)
  | set (items : List Value)
  | map (fields : List (String × Value))
  | table (entries : List (Value × Value))
  | moment (m : Time.Moment)
  | function (name : String)
  | record (kind : RecordKind) (fields : List (String × Value))
  | inputPart (path : List String)
deriving Inhabited

/-- The entries of a map. -/
abbrev Fields := List (String × Value)

namespace Value

/-- The name of a value's type. -/
def typeName : Value → String
  | null => "NoneType"
  | bool _ => "bool"
  | int _ => "int"
  | float _ | nan _ => "float"
  | text _ => "str"
  | bytes _ => "bytes"
  | list _ => "list"
  | tuple _ => "tuple"
  | set _ => "set"
  | map _ | table _ => "dict"
  | moment _ => "datetime.datetime"
  | function _ => "function"
  | record kind _ => kind.name
  | inputPart _ => "dict"

/-- Empty and zero values count as false, all others as true. -/
def truthy : Value → Bool
  | null => false
  | bool b => b
  | int n => n != 0
  | float x => x != 0
  | text s => !s.isEmpty
  | bytes bs => !bs.isEmpty
  | list items | tuple items | set items => !items.isEmpty
  | map fields => !fields.isEmpty
  | table entries => !entries.isEmpty
  | nan _ | moment _ | function _ | record _ _ | inputPart _ => true

/-- Is the value absent? -/
def isNull : Value → Bool
  | null => true
  | _ => false

/-- A value that may be absent. -/
def ofOption : Option Value → Value
  | none => null
  | some v => v

/-- A text that may be absent. -/
def ofText? : Option String → Value
  | none => null
  | some s => text s

/-- The entries of a table whose keys are texts. -/
def textEntries : List (Value × Value) → Fields
  | [] => []
  | (text k, v) :: rest => (k, v) :: textEntries rest
  | _ :: rest => textEntries rest

/-- The entries of a map or table whose keys are texts. -/
def fields? : Value → Option Fields
  | map fields => some fields
  | table entries => some (textEntries entries)
  | _ => none

/-- The value of a key, an absent key counting as null. -/
def get (fields : Fields) (key : String) : Value := ofOption (Assoc.get? fields key)

/-- The value of a key, or a default when the key is absent. -/
def getOr (fields : Fields) (key : String) (default : Value) : Value :=
  (Assoc.get? fields key).getD default

/-- The value, or another one when it counts as false. -/
def orElse (v other : Value) : Value := if v.truthy then v else other

end Value

/-- The words of a name run together; `capital` tells that a word with a capital begins. -/
def joinWords (capital : Bool) : List Char → List Char
  | [] => []
  | c :: rest =>
    if c == '_' then joinWords true rest
    else (if capital then c.toUpper else c) :: joinWords false rest

/-- The wire name of a field: the words run together, all but the first with a capital. -/
def camelCase (name : String) : String := String.ofList (joinWords false name.toList)

/-- The fields of a record that are never written out: its functions. -/
def RecordKind.hides : RecordKind → String → Bool
  | .ruleConditions, "custom" => true
  | .transformSpec, "function" => true
  | _, _ => false

mutual

/-- The value with every record written out as a map under its own field names. -/
def Value.dump : Value → Value
  | .list items => .list (Value.dumpItems items)
  | .tuple items => .tuple (Value.dumpItems items)
  | .set items => .set (Value.dumpItems items)
  | .map fields => .map (Value.dumpFields fields)
  | .table entries => .table (Value.dumpEntries entries)
  | .record kind fields => .map (Value.dumpRecord kind fields)
  | v => v

/-- Every item written out. -/
def Value.dumpItems : List Value → List Value
  | [] => []
  | v :: rest => v.dump :: Value.dumpItems rest

/-- Every entry of a map written out. -/
def Value.dumpFields : List (String × Value) → List (String × Value)
  | [] => []
  | (k, v) :: rest => (k, v.dump) :: Value.dumpFields rest

/-- Every value of a table written out. -/
def Value.dumpEntries : List (Value × Value) → List (Value × Value)
  | [] => []
  | (k, v) :: rest => (k, v.dump) :: Value.dumpEntries rest

/-- Every shown field of a record written out. -/
def Value.dumpRecord (kind : RecordKind) : List (String × Value) → List (String × Value)
  | [] => []
  | (k, v) :: rest =>
    if kind.hides k then Value.dumpRecord kind rest
    else (k, v.dump) :: Value.dumpRecord kind rest

end

mutual

/-- The value with every record written out as a map under its wire names; with `compact` the
fields of records that are null are left out. -/
def Value.wire (compact : Bool) : Value → Value
  | .list items => .list (Value.wireItems compact items)
  | .tuple items => .tuple (Value.wireItems compact items)
  | .set items => .set (Value.wireItems compact items)
  | .map fields => .map (Value.wireFields compact fields)
  | .table entries => .table (Value.wireEntries compact entries)
  | .record kind fields => .map (Value.wireRecord compact kind fields)
  | v => v

/-- Every item written out. -/
def Value.wireItems (compact : Bool) : List Value → List Value
  | [] => []
  | v :: rest => v.wire compact :: Value.wireItems compact rest

/-- Every entry of a map written out. -/
def Value.wireFields (compact : Bool) : List (String × Value) → List (String × Value)
  | [] => []
  | (k, v) :: rest => (k, v.wire compact) :: Value.wireFields compact rest

/-- Every value of a table written out. -/
def Value.wireEntries (compact : Bool) : List (Value × Value) → List (Value × Value)
  | [] => []
  | (k, v) :: rest => (k, v.wire compact) :: Value.wireEntries compact rest

/-- Every shown field of a record written out. -/
def Value.wireRecord (compact : Bool) (kind : RecordKind) :
    List (String × Value) → List (String × Value)
  | [] => []
  | (k, v) :: rest =>
    if kind.hides k || (compact && v.isNull) then Value.wireRecord compact kind rest
    else (camelCase k, v.wire compact) :: Value.wireRecord compact kind rest

end

/-- The document of a value: wire names, and no null fields of records. -/
def Value.document (v : Value) : Value := v.wire true

theorem Value.dump_map (fields : Fields) : (Value.map fields).dump = .map (dumpFields fields) := by
  simp [Value.dump]

end EventHub
