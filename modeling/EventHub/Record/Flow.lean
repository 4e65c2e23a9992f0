import EventHub.Record.Rule
import EventHub.Value.Show

/-!
# Flows

A flow is a list of steps that can be run by name: a step fires a rule, runs an action, tests a
condition or transforms data.

* `Step.ofRecord`, `Flow.ofRecord?`: a step and a flow as the records that they are, unchecked.
* `Step.check`: a step from a value, told by its `type`.
* `Flow.check`: a flow from a value.
-/

namespace EventHub

/-- How data is transformed: through a template, or by a function of the application. -/
inductive TransformKind
  | template | function
deriving DecidableEq, Repr

/-- The name of a kind of transform. -/
def TransformKind.name : TransformKind → String
  | template => "template"
  | function => "function"

/-- A transform; an absent template is null. -/
structure TransformSpec where
  type : TransformKind
  template : Value
  function : Option String

/-- A step of a flow. A record that was built without a check, and an object that is no record, are
kept as their attributes. -/
inductive Step
  | rule (id ruleId : String)
  | action (id : String) (call : ActionInvocation)
  | condition (id : String) (test : Value)
  | transform (id : String) (input : Value) (spec : TransformSpec)
  | unchecked (kind : RecordKind) (attributes : Fields)
  | irregular (attributes : Fields)

/-- What is kept about a flow besides what it does. -/
structure FlowMetadata where
  enabled : Bool
  category : Option String
  autoGenerated : Bool
  eventType : Option String
  createdAt : String
  updatedAt : String
deriving Inhabited

/-- A list of steps that is run by name. -/
structure Flow where
  id : Option String
  name : String
  description : String
  steps : List Step
  metadata : FlowMetadata
deriving Inhabited

/-! ## As values -/

/-- The transform as a value. -/
def TransformSpec.toValue (t : TransformSpec) : Value :=
  .record .transformSpec [("type", .text t.type.name), ("template", t.template),
    ("function", .ofOption (t.function.map .function))]

/-- The step as a value. -/
def Step.toValue : Step → Value
  | rule id ruleId =>
    .record .ruleStep [("id", .text id), ("type", .text "rule"), ("rule_id", .text ruleId)]
  | action id call =>
    .record .actionStep [("id", .text id), ("type", .text "action"), ("action", call.toValue)]
  | condition id test =>
    .record .conditionStep [("id", .text id), ("type", .text "condition"),
      ("condition", test)]
  | transform id input spec =>
    .record .transformStep [("id", .text id), ("type", .text "transform"), ("input", input),
      ("transform", spec.toValue)]
  | unchecked kind attributes => .record kind attributes
  | irregular attributes => .map attributes

/-- The metadata as a value. -/
def FlowMetadata.toValue (m : FlowMetadata) : Value :=
  .record .flowMetadata [("enabled", .bool m.enabled), ("category", .ofText? m.category),
    ("auto_generated", .bool m.autoGenerated), ("event_type", .ofText? m.eventType),
    ("created_at", .text m.createdAt), ("updated_at", .text m.updatedAt)]

/-- The flow as a value. -/
def Flow.toValue (f : Flow) : Value :=
  .record .flow [("id", .ofText? f.id), ("name", .text f.name),
    ("description", .text f.description), ("steps", .list (f.steps.map Step.toValue)),
    ("metadata", f.metadata.toValue)]

/-! ## From records -/

/-- The kinds of transforms by name. -/
def TransformKind.words : List (String × TransformKind) :=
  [("template", .template), ("function", .function)]

/-- The transform that a record is, if its fields are of their types. -/
def TransformSpec.ofRecord? : Value → Option TransformSpec
  | .record .transformSpec [("type", .text type), ("template", template), ("function", .null)] =>
    (TransformKind.words.lookup type).map fun kind => ⟨kind, template, none⟩
  | .record .transformSpec
      [("type", .text type), ("template", template), ("function", .function name)] =>
    (TransformKind.words.lookup type).map fun kind => ⟨kind, template, some name⟩
  | _ => none

/-- The invocation that a record is, if its fields are of their types. -/
def ActionInvocation.ofRecord? : Value → Option ActionInvocation
  | .record .actionInvocation [("type", .text type), ("parameters", .map parameters)] =>
    some ⟨type, parameters⟩
  | _ => none

/-- The step that a record is, if its fields are of their types. -/
def Step.ofRecord? : RecordKind → Fields → Option Step
  | .ruleStep, [("id", .text id), ("type", .text "rule"), ("rule_id", .text ruleId)] =>
    some (.rule id ruleId)
  | .actionStep, [("id", .text id), ("type", .text "action"), ("action", call)] =>
    (ActionInvocation.ofRecord? call).map (.action id)
  | .conditionStep, [("id", .text id), ("type", .text "condition"), ("condition", test)] =>
    some (.condition id test)
  | .transformStep,
      [("id", .text id), ("type", .text "transform"), ("input", input), ("transform", spec)] =>
    (TransformSpec.ofRecord? spec).map (.transform id input)
  | _, _ => none

/-- The step that a record is; one whose fields are of other types is kept as its attributes. -/
def Step.ofRecord (kind : RecordKind) (fields : Fields) : Step :=
  (Step.ofRecord? kind fields).getD (.unchecked kind fields)

/-- The type of the steps of a kind of record. -/
def RecordKind.stepType : RecordKind → Option String
  | .ruleStep => some "rule"
  | .actionStep => some "action"
  | .conditionStep => some "condition"
  | .transformStep => some "transform"
  | _ => none

/-- The step that a value is, if it is the record of one. -/
def Step.ofValue? : Value → Option Step
  | .record kind fields => kind.stepType.map fun _ => Step.ofRecord kind fields
  | _ => none

/-- A text, or null for none. -/
def textOrNull? : Value → Option (Option String)
  | .null => some none
  | .text s => some (some s)
  | _ => none

/-- The metadata that a record is, if its fields are of their types. -/
def FlowMetadata.ofRecord? : Value → Option FlowMetadata
  | .record .flowMetadata [("enabled", .bool enabled), ("category", category),
      ("auto_generated", .bool autoGenerated), ("event_type", eventType),
      ("created_at", .text createdAt), ("updated_at", .text updatedAt)] => do
    let category ← textOrNull? category
    let eventType ← textOrNull? eventType
    some { enabled, category, autoGenerated, eventType, createdAt, updatedAt }
  | _ => none

/-- The flow that a record is, if its fields are of their types. -/
def Flow.ofRecord? : Fields → Option Flow
  | [("id", id), ("name", .text name), ("description", .text description), ("steps", .list steps),
      ("metadata", metadata)] => do
    let id ← textOrNull? id
    let steps ← steps.mapM Step.ofValue?
    let metadata ← FlowMetadata.ofRecord? metadata
    some { id, name, description, steps, metadata }
  | _ => none

/-! ## From values -/

/-- A transform has what its kind needs. -/
def TransformSpec.complete (t : TransformSpec) : Checked TransformSpec :=
  match t.type, t.template, t.function with
  | .template, .null, _ => Checked.fail (.rejected "template transform requires a template")
  | .function, _, none =>
    Checked.fail (.rejected "function transform requires a callable function")
  | _, _, _ => .ok t

/-- A transform from a value. -/
def TransformSpec.check (v : Value) : Checked TransformSpec := do
  let fields ← recordEntries .transformSpec v
  let spec ← (((Checked.apply (.ok TransformSpec.mk)
    (required fields "type" (checkWord TransformKind.words))).apply
    (defaulted fields "template" .null checkAny)).apply
    (defaulted fields "function" none (optional checkFunction)))
  spec.complete

/-- The item of a list of conditions: a map or table is a predicate, all else stays as it is. -/
def checkConditionItem : Value → Checked Value
  | .map fields => (Predicate.check (.map fields)).map Predicate.toValue
  | .table entries => (Predicate.check (.table entries)).map Predicate.toValue
  | v => .ok v

/-- The condition of a step: a predicate, a list of predicates, or any other value but null. -/
def checkCondition : Value → Checked Value
  | .null => Checked.fail (.rejected "condition step requires a condition")
  | .list items => (items.mapM checkConditionItem).map .list
  | v => checkConditionItem v

/-- Exactly the given word. -/
def checkTag (tag : String) (v : Value) : Checked Unit := checkWord [(tag, ())] v

/-- A step that fires a rule. -/
def checkRuleStep (v : Value) : Checked Step := do
  let fields ← recordEntries .ruleStep v
  (((Checked.apply (.ok fun id _ ruleId => Step.rule id ruleId)
    (required fields "id" checkName)).apply
    (required fields "type" (checkTag "rule"))).apply
    (required fields "rule_id" checkName))

/-- A step that runs an action. -/
def checkActionStep (v : Value) : Checked Step := do
  let fields ← recordEntries .actionStep v
  (((Checked.apply (.ok fun id _ call => Step.action id call)
    (required fields "id" checkName)).apply
    (required fields "type" (checkTag "action"))).apply
    (required fields "action" ActionInvocation.check))

/-- A step that tests a condition. -/
def checkConditionStep (v : Value) : Checked Step := do
  let fields ← recordEntries .conditionStep v
  (((Checked.apply (.ok fun id _ test => Step.condition id test)
    (required fields "id" checkName)).apply
    (required fields "type" (checkTag "condition"))).apply
    (required fields "condition" checkCondition))

/-- A step that transforms data. -/
def checkTransformStep (v : Value) : Checked Step := do
  let fields ← recordEntries .transformStep v
  ((((Checked.apply (.ok fun id _ input spec => Step.transform id input spec)
    (required fields "id" checkName)).apply
    (required fields "type" (checkTag "transform"))).apply
    (defaulted fields "input" .null checkAny)).apply
    (required fields "transform" TransformSpec.check))

/-- The types of steps. -/
def stepTypes : List String := ["rule", "action", "condition", "transform"]

/-- A step from a value of a known type. -/
def checkStepOf (tag : Value) (v : Value) : Checked Step :=
  match tag with
  | .text "rule" => Checked.within "rule" (checkRuleStep v)
  | .text "action" => Checked.within "action" (checkActionStep v)
  | .text "condition" => Checked.within "condition" (checkConditionStep v)
  | .text "transform" => Checked.within "transform" (checkTransformStep v)
  | other => Checked.fail (.unknownTag other.plain stepTypes)

/-- A step from a record: one of the type of its kind is taken as it is. -/
def checkReadyStep (kind : RecordKind) (fields : Fields) (tag : Value) : Checked Step :=
  match kind.stepType, tag with
  | some type, .text t =>
    if t == type then .ok (Step.ofRecord kind fields)
    else checkStepOf tag (.record kind fields)
  | _, _ => checkStepOf tag (.record kind fields)

/-- A step from the entries that say its type. -/
def checkTagged (fields : Fields) (check : Value → Checked Step) : Checked Step :=
  match Assoc.get? fields "type" with
  | some tag => check tag
  | none => Checked.fail .noTag

theorem checkTagged_eq_ok {fields : Fields} {check : Value → Checked Step} {s : Step} :
    checkTagged fields check = .ok s ↔
      ∃ tag, Assoc.get? fields "type" = some tag ∧ check tag = .ok s := by
  unfold checkTagged
  cases Assoc.get? fields "type" with
  | none => simp [Checked.fail]
  | some tag => simp

/-- A step from a value; its field `type` tells which of the four it is. -/
def Step.check : Value → Checked Step
  | .map fields => checkTagged fields fun tag => checkStepOf tag (.map fields)
  | .table entries =>
    checkTagged (Value.textEntries entries) fun tag => checkStepOf tag (.table entries)
  | .record kind fields => checkTagged fields (checkReadyStep kind fields)
  | _ => Checked.fail .noFields

/-- Metadata from a value; the times default to `now`. -/
def FlowMetadata.check (now : String) (v : Value) : Checked FlowMetadata := do
  let fields ← recordEntries .flowMetadata v
  ((((((Checked.apply (.ok FlowMetadata.mk)
    (defaulted fields "enabled" true checkBool)).apply
    (defaulted fields "category" none (optional checkText))).apply
    (defaulted fields "auto_generated" false checkBool)).apply
    (defaulted fields "event_type" none (optional checkText))).apply
    (defaulted fields "created_at" now checkText)).apply
    (defaulted fields "updated_at" now checkText))

/-- The metadata of a flow without any. -/
def FlowMetadata.fresh (now : String) : FlowMetadata :=
  { enabled := true, category := none, autoGenerated := false, eventType := none,
    createdAt := now, updatedAt := now }

/-- Metadata from a value, null standing for none. -/
def FlowMetadata.checkOrNull (now : String) : Value → Checked FlowMetadata
  | .null => .ok (FlowMetadata.fresh now)
  | v => FlowMetadata.check now v

/-- The flow that the fields describe. -/
def Flow.ofFields (now : String) (fields : Fields) : Checked Flow :=
  (((((Checked.apply (.ok Flow.mk)
    (defaulted fields "id" none (optional checkText))).apply
    (required fields "name" checkName)).apply
    (defaulted fields "description" "" checkText)).apply
    (required fields "steps" (checkSome Step.check))).apply
    (defaulted fields "metadata" (FlowMetadata.fresh now) (FlowMetadata.checkOrNull now)))

/-- A flow from a value. -/
def Flow.check (now : String) (v : Value) : Checked Flow := do
  Flow.ofFields now (← recordEntries .flow v)

end EventHub
