/-!
# Topics

The channels of the bus: events in general, by type, and by source and type, and the
notifications of the hub about itself.
-/

namespace EventHub.Topic

/-- Every event. -/
def event : String := "event"

/-- An event type was seen for the first time. -/
def typeDiscovered : String := "eventType:discovered"

/-- Fields were seen for the first time. -/
def fieldsDiscovered : String := "fields:discovered"

/-- An event was handled by the generic flow. -/
def genericProcessed : String := "event:generic:processed"

/-- A rule was registered. -/
def ruleRegistered : String := "rule:registered"

/-- A rule was changed. -/
def ruleUpdated : String := "rule:updated"

/-- A rule was removed. -/
def ruleRemoved : String := "rule:removed"

/-- A rule was run. -/
def ruleExecuted : String := "rule:executed"

/-- A rule was made for a discovered event type. -/
def ruleAutoGenerated : String := "rule:auto-generated"

/-- A flow was registered. -/
def flowCreated : String := "flow:created"

/-- A flow was changed. -/
def flowUpdated : String := "flow:updated"

/-- A flow was removed. -/
def flowDeleted : String := "flow:deleted"

/-- A flow was run. -/
def flowExecuted : String := "flow:executed"

/-- A notification was sent. -/
def notification : String := "notification"

/-- The events of a type. -/
def ofType (eventType : String) : String := event ++ ":" ++ eventType

/-- The events of a type from a source. -/
def ofSource (source eventType : String) : String := event ++ ":" ++ source ++ ":" ++ eventType

end EventHub.Topic
