import EventHub.Record.Event

/-!
# The discovered schema

For every event type the fields that its payloads had: as a set, which tells what is known, and as a
list, which keeps the order of their first appearance. The schema only grows.

* `Schema.observe`: records a payload and tells what was new in it.
-/

namespace EventHub

/-- The known fields by event type: the members of the set, and the list in order. -/
structure Schema where
  members : List (String × List String)
  order : List (String × List String)

/-- What was new in a payload. -/
structure SchemaChange where
  newType : Bool
  newFields : List DiscoveredField

/-- Was anything new? -/
def SchemaChange.changed (c : SchemaChange) : Bool := c.newType || !c.newFields.isEmpty

/-- What a value is called in a payload. -/
def fieldKind : Value → String
  | .null => "null"
  | .bool _ => "boolean"
  | .int _ | .float _ | .nan _ => "number"
  | .text _ => "string"
  | .map _ | .table _ => "object"
  | .list _ | .tuple _ | .set _ => "array"
  | .moment _ => "datetime"
  | v => v.typeName

/-- The fields of a type, as a set and in order. -/
structure KnownFields where
  members : List String
  order : List String

/-- Goes through a payload: a field that is no member becomes one, goes to the end of the list and
is reported. -/
def KnownFields.extend (known : KnownFields) : Fields → List DiscoveredField × KnownFields
  | [] => ([], known)
  | (k, v) :: rest =>
    if known.members.contains k then known.extend rest
    else
      let (new, known) := KnownFields.extend ⟨k :: known.members, known.order ++ [k]⟩ rest
      (⟨k, v, fieldKind v⟩ :: new, known)

namespace Schema

/-- Nothing is known. -/
def empty : Schema := ⟨[], []⟩

/-- Is the type known? -/
def isKnown (schema : Schema) (eventType : String) : Bool := Assoc.has schema.members eventType

/-- The known types, in order of discovery. -/
def eventTypes (schema : Schema) : List String := Assoc.keys schema.order

/-- The known fields of a type, in order. -/
def fieldsFor (schema : Schema) (eventType : String) : List String :=
  (Assoc.get? schema.order eventType).getD []

/-- The set of the known fields of a type. -/
def membersFor (schema : Schema) (eventType : String) : List String :=
  (Assoc.get? schema.members eventType).getD []

/-- The schema with the fields of a type. -/
def put (schema : Schema) (eventType : String) (known : KnownFields) : Schema :=
  ⟨Assoc.put schema.members eventType known.members, Assoc.put schema.order eventType known.order⟩

/-- Records a payload. The first payload of a type is its baseline; of later ones the fields not
seen before are reported. -/
def observe (schema : Schema) (eventType : String) (data : Fields) : SchemaChange × Schema :=
  match Assoc.get? schema.members eventType with
  | none => (⟨true, []⟩, schema.put eventType ⟨Assoc.keys data, Assoc.keys data⟩)
  | some members =>
    let (new, known) := KnownFields.extend ⟨members, schema.fieldsFor eventType⟩ data
    (⟨false, new⟩, schema.put eventType known)

/-- The schema as a value. -/
def toValue (schema : Schema) : Value :=
  .map (schema.order.map fun (t, names) => (t, .list (names.map .text)))

end Schema

end EventHub
