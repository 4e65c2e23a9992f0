import EventHub.Record.Event
import EventHub.Record.Rule
import EventHub.Value.Coerce

/-!
# Definitions made from discoveries

A newly seen event type gets a rule of its own, which logs its events and publishes them again on
the broker. Fields that are discovered later are appended to what that rule logs and remembers.
An event that no rule handles is logged by a flow of one step.

* `autoRule`: the rule of an event type.
* `mergeNewFields`: the update that records new fields, if there is anything to record.
* `genericFlow`: the flow of an event that no rule handles.
-/

namespace EventHub

/-- The id of the rule of an event type. -/
def autoRuleId (eventType : Value) : String := "auto-" ++ eventType.plain ++ "-rule"

/-- The category of synthesized rules. -/
def autoCategory : String := "auto-generated"

/-- The category of the flows of events that no rule handles. -/
def genericCategory : String := "generic"

/-- The topic under which events of a type are published again. -/
def republishTopic (eventType : String) : String := s!"unifi/events/{eventType}"

/-- A token of a template. -/
def tokenText (path : String) : String := "\x7b\x7b" ++ path ++ "\x7d\x7d"

/-- Metadata of a synthesized definition. -/
def autoMetadata (category : String) (eventType : Value) : Value :=
  .map [("enabled", .bool true), ("category", .text category), ("auto_generated", .bool true),
    ("event_type", eventType)]

/-- The definition of the rule of an event type. -/
def autoRule (eventType sample : Value) : Value :=
  let id := autoRuleId eventType
  let name := eventType.plain
  .map [
    ("id", .text id),
    ("name", .text s!"Auto-generated {name} Rule"),
    ("description", .text s!"Automatically generated rule for event type: {name}"),
    ("conditions", .map [("event_type", eventType)]),
    ("actions", .list [
      .map [
        ("type", .text "log_event"),
        ("parameters", .map [
          ("level", .text "info"),
          ("message", .text s!"Auto-generated rule triggered for {name}"),
          ("data", .map [("rule", .text id), ("event_type", eventType),
            ("sample_data", sample)])])],
      .map [
        ("type", .text "mqtt_publish"),
        ("parameters", .map [
          ("topic", .text (republishTopic name)),
          ("payload", .map [("type", eventType), ("source", .text (tokenText "source")),
            ("timestamp", .text (tokenText "timestamp")), ("data", .text (tokenText "data"))]),
          ("qos", .int 1)])]]),
    ("metadata", autoMetadata autoCategory eventType)]

/-- Appends the names that are not yet in the list, each once. -/
def appendUnique (target : List Value) : List String → List Value
  | [] => target
  | name :: rest =>
    if target.any (fun v => v.same (.text name)) then appendUnique target rest
    else appendUnique (target ++ [.text name]) rest

/-- Records the names in the parameters of a log action. Nothing is recorded when its data is no
map; the result tells whether there is a place for them, and whether any name was new. -/
def recordInLog (parameters : Fields) (names : List String) :
    Except Fault (Option (Bool × Fields)) :=
  match (Assoc.get? parameters "data").getD (.map []) with
  | .map data => do
    let field := Value.get data "new_fields"
    let logged ← (if field.truthy then field else .list []).toList
    let all := appendUnique logged names
    .ok (some (all.length != logged.length,
      Assoc.put parameters "data" (.map (Assoc.put data "new_fields" (.list all)))))
  | _ => .ok none

/-- Records the names in the first log action that has a place for them. -/
def recordInActions (names : List String) :
    List ActionInvocation → Except Fault (Bool × List ActionInvocation)
  | [] => .ok (false, [])
  | a :: rest => do
    let skip : Except Fault (Bool × List ActionInvocation) := do
      let (changed, more) ← recordInActions names rest
      .ok (changed, a :: more)
    if a.type != "log_event" then skip
    else match ← recordInLog a.parameters names with
      | none => skip
      | some (changed, parameters) => .ok (changed, { a with parameters } :: rest)

/-- The update of a rule that records new fields; none when every name is recorded already. -/
def mergeNewFields (r : Rule) (names : List String) : Except Fault (Option Value) := do
  let known := r.metadata.discoveredFields.map Value.text
  let discovered := appendUnique known names
  let (logged, actions) ← recordInActions names r.actions
  if logged || discovered.length != known.length then
    .ok (some (.map [("actions", .list (actions.map fun a => a.toValue.dump)),
      ("metadata", .map [("discovered_fields", .list discovered)])]))
  else .ok none

/-- The definition of the flow of an event that no rule handles. -/
def genericFlow (id : String) (e : Event) : Value :=
  .map [
    ("id", .text id),
    ("name", .text s!"Generic {e.type} Flow"),
    ("description", .text s!"Auto-generated flow for generic event type: {e.type}"),
    ("steps", .list [
      .map [
        ("id", .text "generic-log"),
        ("type", .text "action"),
        ("action", .map [
          ("type", .text "log_event"),
          ("parameters", .map [
            ("level", .text "info"),
            ("message", .text s!"Generic event {e.type} detected"),
            ("data", .map [("event_type", .text e.type), ("source", .text e.source),
              ("timestamp", .text e.timestamp), ("data", .map e.data)])])])]]),
    ("metadata", autoMetadata genericCategory (.text e.type))]

end EventHub
