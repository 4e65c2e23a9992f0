import EventHub.Record.Predicate

/-!
# Rules

A rule binds conditions on events to the actions that they trigger.

* `RuleConditions.eventTypes`, `RuleConditions.sources`: the names that conditions give.
* `Rule.check`: a rule from a value.

-/

namespace EventHub

/-- A window of the day, open where an end is missing. -/
structure TimeRange where
  start : Option String
  «end» : Option String
deriving DecidableEq, Repr, Inhabited

/-- One name, or several. -/
inductive Names
  | one (name : String)
  | many (names : List String)
deriving DecidableEq, Repr

/-- The names as a list. -/
def Names.toList : Names → List String
  | one name => [name]
  | many names => names

/-- Clauses that all have to hold. `custom` is the name of a function of the application. -/
structure RuleConditions where
  eventType : Option Names
  source : Option Names
  data : Option Fields
  timeRange : Option TimeRange
  custom : Option String
deriving Inhabited

/-- A named action with the parameters of one call. -/
structure ActionInvocation where
  type : String
  parameters : Fields
deriving Inhabited

/-- What is kept about a rule besides what it does. -/
structure RuleMetadata where
  enabled : Bool
  category : Option String
  autoGenerated : Bool
  eventType : Option String
  discoveredFields : List String
  priority : Option Int
  createdAt : String
  updatedAt : String
deriving Inhabited

/-- A standing binding of conditions to actions. -/
structure Rule where
  id : Option String
  name : String
  description : String
  conditions : Option RuleConditions
  actions : List ActionInvocation
  metadata : RuleMetadata
deriving Inhabited

/-- The event types that the conditions name. -/
def RuleConditions.eventTypes (c : RuleConditions) : List String :=
  (c.eventType.map Names.toList).getD []

/-- The sources that the conditions name. -/
def RuleConditions.sources (c : RuleConditions) : List String :=
  (c.source.map Names.toList).getD []

/-- The event types that a rule names. -/
def Rule.eventTypes (r : Rule) : List String := (r.conditions.map RuleConditions.eventTypes).getD []

/-- The sources that a rule names. -/
def Rule.sources (r : Rule) : List String := (r.conditions.map RuleConditions.sources).getD []

/-- The function of the application that a rule asks. -/
def Rule.custom (r : Rule) : Option String := r.conditions.bind (·.custom)

/-- The rule with another function of the application, if it has conditions. -/
def Rule.withCustom (r : Rule) (custom : Option String) : Rule :=
  { r with conditions := r.conditions.map fun c => { c with custom := custom } }

/-! ## As values -/

/-- The window as a value. -/
def TimeRange.toValue (t : TimeRange) : Value :=
  .record .timeRange [("start", .ofText? t.start), ("end", .ofText? t.end)]

/-- The names as a value. -/
def Names.toValue : Names → Value
  | one name => .text name
  | many names => .list (names.map .text)

/-- The conditions as a value. -/
def RuleConditions.toValue (c : RuleConditions) : Value :=
  .record .ruleConditions [("event_type", .ofOption (c.eventType.map Names.toValue)),
    ("source", .ofOption (c.source.map Names.toValue)), ("data", .ofOption (c.data.map .map)),
    ("time_range", .ofOption (c.timeRange.map TimeRange.toValue)),
    ("custom", .ofOption (c.custom.map .function))]

/-- The invocation as a value. -/
def ActionInvocation.toValue (a : ActionInvocation) : Value :=
  .record .actionInvocation [("type", .text a.type), ("parameters", .map a.parameters)]

/-- The metadata as a value. -/
def RuleMetadata.toValue (m : RuleMetadata) : Value :=
  .record .ruleMetadata [("enabled", .bool m.enabled), ("category", .ofText? m.category),
    ("auto_generated", .bool m.autoGenerated), ("event_type", .ofText? m.eventType),
    ("discovered_fields", .list (m.discoveredFields.map .text)),
    ("priority", .ofOption (m.priority.map .int)), ("created_at", .text m.createdAt),
    ("updated_at", .text m.updatedAt)]

/-- The rule as a value. -/
def Rule.toValue (r : Rule) : Value :=
  .record .rule [("id", .ofText? r.id), ("name", .text r.name),
    ("description", .text r.description),
    ("conditions", .ofOption (r.conditions.map RuleConditions.toValue)),
    ("actions", .list (r.actions.map ActionInvocation.toValue)),
    ("metadata", r.metadata.toValue)]

/-! ## From values -/

/-- A window from a value. -/
def TimeRange.check (v : Value) : Checked TimeRange := do
  let fields ← recordEntries .timeRange v
  ((Checked.apply (.ok TimeRange.mk)
    (defaulted fields "start" none (optional checkText))).apply
    (defaulted fields "end" none (optional checkText)))

/-- A text or a list of texts. -/
def checkNames (v : Value) : Checked Names :=
  match checkText v with
  | .ok name => .ok (.one name)
  | .error asText =>
    match checkList checkText v with
    | .ok names => .ok (.many names)
    | .error asList =>
      .error (asText.map (Issue.within "str") ++ asList.map (Issue.within "list[str]"))

/-- Conditions from a value. -/
def RuleConditions.check (v : Value) : Checked RuleConditions := do
  let fields ← recordEntries .ruleConditions v
  (((((Checked.apply (.ok RuleConditions.mk)
    (defaulted fields "event_type" none (optional checkNames))).apply
    (defaulted fields "source" none (optional checkNames))).apply
    (defaulted fields "data" none (optional checkMap))).apply
    (defaulted fields "time_range" none (optional TimeRange.check))).apply
    (defaulted fields "custom" none (optional checkFunction)))

/-- The invocation that the fields describe. -/
def ActionInvocation.ofFields (fields : Fields) : Checked ActionInvocation :=
  ((Checked.apply (.ok ActionInvocation.mk)
    (required fields "type" checkName)).apply
    (defaulted fields "parameters" [] checkMapOrNull))

/-- An invocation from a value. -/
def ActionInvocation.check (v : Value) : Checked ActionInvocation := do
  ActionInvocation.ofFields (← recordEntries .actionInvocation v)

/-- Metadata from a value; the times default to `now`. -/
def RuleMetadata.check (now : String) (v : Value) : Checked RuleMetadata := do
  let fields ← recordEntries .ruleMetadata v
  ((((((((Checked.apply (.ok RuleMetadata.mk)
    (defaulted fields "enabled" true checkBool)).apply
    (defaulted fields "category" none (optional checkText))).apply
    (defaulted fields "auto_generated" false checkBool)).apply
    (defaulted fields "event_type" none (optional checkText))).apply
    (defaulted fields "discovered_fields" [] (checkList checkText))).apply
    (defaulted fields "priority" none (optional checkInt))).apply
    (defaulted fields "created_at" now checkText)).apply
    (defaulted fields "updated_at" now checkText))

/-- The metadata of a rule without any. -/
def RuleMetadata.fresh (now : String) : RuleMetadata :=
  { enabled := true, category := none, autoGenerated := false, eventType := none,
    discoveredFields := [], priority := none, createdAt := now, updatedAt := now }

/-- Metadata from a value, null standing for none. -/
def RuleMetadata.checkOrNull (now : String) : Value → Checked RuleMetadata
  | .null => .ok (RuleMetadata.fresh now)
  | v => RuleMetadata.check now v

/-- The rule that the fields describe. -/
def Rule.ofFields (now : String) (fields : Fields) : Checked Rule :=
  ((((((Checked.apply (.ok Rule.mk)
    (defaulted fields "id" none (optional checkText))).apply
    (required fields "name" checkName)).apply
    (defaulted fields "description" "" checkText)).apply
    (defaulted fields "conditions" none (optional RuleConditions.check))).apply
    (required fields "actions" (checkSome ActionInvocation.check))).apply
    (defaulted fields "metadata" (RuleMetadata.fresh now) (RuleMetadata.checkOrNull now)))

/-- A rule from a value. -/
def Rule.check (now : String) (v : Value) : Checked Rule := do
  Rule.ofFields now (← recordEntries .rule v)

end EventHub
