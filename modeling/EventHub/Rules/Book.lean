import EventHub.Fault
import EventHub.Record.Rule
import EventHub.Text.SnakeCase
import EventHub.Value.Coerce

/-!
# The book of rules

The registered rules by id, in the order of registration, and an index of their ids by the event
types that they name. Rules that name no type are indexed under `*`.

* `RuleBook.register`, `RuleBook.update`, `RuleBook.remove`: the operations. Each gives a new book
  or a fault.
* `RuleBook.candidates`: the enabled rules that the index finds for an event type.
-/

namespace EventHub

/-- The index entry of the rules that name no event type. -/
def anyEventType : String := "*"

/-- What a record is made from: a document, or a record that was checked before. -/
inductive Definition (ρ : Type)
  | document (v : Value)
  | checked (r : ρ)

/-- The registered rules and the index of their ids by event type. -/
structure RuleBook where
  rules : List (String × Rule)
  index : List (String × List String)
deriving Inhabited

/-- The event types under which a rule is indexed. -/
def Rule.indexTypes (r : Rule) : List String :=
  if r.eventTypes.isEmpty then [anyEventType] else r.eventTypes

/-- Adds an id to the entry of an event type. -/
def indexAdd (index : List (String × List String)) (id eventType : String) :
    List (String × List String) :=
  let ids := (Assoc.get? index eventType).getD []
  Assoc.put index eventType (if ids.contains id then ids else ids ++ [id])

/-- Takes an id out of the entry of an event type; an empty entry is dropped. -/
def indexDrop (index : List (String × List String)) (id eventType : String) :
    List (String × List String) :=
  match Assoc.get? index eventType with
  | none => index
  | some ids =>
    let left := ids.filter (· != id)
    if left.isEmpty then Assoc.erase index eventType else Assoc.put index eventType left

/-- The items of a map of settings, with their names in snake case. -/
def snakeKeys (fields : Fields) : Fields :=
  Assoc.ofList (fields.map fun (k, v) => (Text.snakeCase k, v))

/-- The entries of a value that has to be a map because its items are asked for. -/
def itemsOf (v : Value) : Except Fault Fields :=
  match v with
  | .map fields => .ok fields
  | v => .error (.noMember v.typeName "items")

/-- Sets a key of a value that has to be a map. -/
def setItem (v : Value) (key : String) (item : Value) : Except Fault Value :=
  match v with
  | .map fields => .ok (.map (Assoc.put fields key item))
  | .list _ => .error (.type (.listIndex "str"))
  | v => .error (.type (.noItemAssignment v.typeName))

/-- One update on the entries of a record: metadata is merged key by key, all else is replaced. -/
def mergeUpdate (merged : Fields) (key : String) (value : Value) : Fields :=
  match key == "metadata", value, Assoc.get? merged "metadata" with
  | true, .map new, some (.map old) =>
    Assoc.put merged "metadata" (.map (Assoc.merge old (snakeKeys new)))
  | _, _, _ => Assoc.put merged key value

/-- Sets the id of the entries of a record, and the times in its metadata. -/
def sealUpdate (merged : Fields) (id createdAt now : String) : Except Fault Fields := do
  let merged := Assoc.put merged "id" (.text id)
  let metadata ← setItem (Value.get merged "metadata") "created_at" (.text createdAt)
  let metadata ← setItem metadata "updated_at" (.text now)
  .ok (Assoc.put merged "metadata" metadata)

/-- The rule that a definition describes. -/
def Definition.toRule (now : String) : Definition Rule → Except Fault Rule
  | .document v => do
    match Rule.check now (← v.toMap) with
    | .ok r => .ok r
    | .error issues => .error (.definition (.invalid .rule "Rule" issues))
  | .checked r =>
    match Rule.check now r.toValue.dump with
    | .ok copy => .ok (if r.custom.isSome then copy.withCustom r.custom else copy)
    | .error issues => .error (.definition (.invalid .rule "Rule" issues))

/-- A rule, or the value that may describe one. -/
def Definition.ofRuleValue (v : Value) : Definition Rule :=
  match v with
  | .record .rule _ => match Rule.check "" v with
    | .ok r => .checked r
    | .error _ => .document v
  | _ => .document v

namespace RuleBook

/-- A book without rules. -/
def empty : RuleBook := ⟨[], []⟩

/-- The rule of an id. -/
def get? (b : RuleBook) (id : String) : Option Rule := Assoc.get? b.rules id

/-- Puts a rule into the book and the index. -/
def insert (b : RuleBook) (id : String) (r : Rule) : RuleBook :=
  ⟨Assoc.put b.rules id r, r.indexTypes.foldl (fun index t => indexAdd index id t) b.index⟩

/-- Takes the ids of a rule out of the index. -/
def unindex (index : List (String × List String)) (id : String) (r : Rule) :
    List (String × List String) :=
  r.indexTypes.foldl (fun index t => indexDrop index id t) index

/-- Does registering the rule need a fresh id? -/
def needsId (r : Rule) : Bool := r.id.isNone

/-- Registers a rule; a rule without an id is given `fresh`. -/
def register (b : RuleBook) (now fresh : String) (r : Rule) :
    Except Fault (String × Rule × RuleBook) :=
  let r := { r with metadata := { r.metadata with createdAt := now, updatedAt := now } }
  match r.id with
  | none =>
    let r := { r with id := some fresh }
    .ok (fresh, r, b.insert fresh r)
  | some id =>
    if Assoc.has b.rules id then .error (.definition (.ruleExists id))
    else .ok (id, r, b.insert id r)

/-- The rule that the updates make of a rule. -/
def revise (now id : String) (current : Rule) (updates : Value) : Except Fault Rule := do
  let items ← itemsOf updates
  let dumped := (current.toValue.dump.fields?).getD []
  let merged := (snakeKeys items).foldl (fun acc (k, v) => mergeUpdate acc k v) dumped
  let merged ← sealUpdate merged id current.metadata.createdAt now
  match Rule.check now (.map merged) with
  | .error issues => .error (.definition (.invalid (.ruleUpdate id) "Rule" issues))
  | .ok updated =>
    if !Assoc.has items "conditions" && current.conditions.isSome then
      .ok (updated.withCustom current.custom)
    else .ok updated

/-- Merges updates into a registered rule, which keeps its place. -/
def update (b : RuleBook) (now id : String) (updates : Value) : Except Fault (Rule × RuleBook) :=
  match b.get? id with
  | none => .error (.ruleNotFound id)
  | some current => do
    let updated ← revise now id current updates
    let cleared : RuleBook := ⟨b.rules, unindex b.index id current⟩
    .ok (updated, cleared.insert id updated)

/-- Takes a rule out of the book. -/
def remove (b : RuleBook) (id : String) : Except Fault (Rule × RuleBook) :=
  match b.get? id with
  | none => .error (.ruleNotFound id)
  | some r => .ok (r, ⟨Assoc.erase b.rules id, unindex b.index id r⟩)

/-- The ids that the index has for an event type. -/
def indexed (b : RuleBook) (eventType : String) : List String :=
  (Assoc.get? b.index eventType).getD []

/-- The rules that the index has for an event type, in the order of registration. -/
def ofEventType (b : RuleBook) (eventType : String) : List Rule :=
  (b.rules.filter fun (id, _) => (b.indexed eventType).contains id).map (·.2)

/-- The enabled rules that may match an event of a type, in the order of registration. -/
def candidates (b : RuleBook) (eventType : String) : List Rule :=
  let ids := b.indexed eventType ++ b.indexed anyEventType
  (b.rules.filter fun (id, r) => ids.contains id && r.metadata.enabled).map (·.2)

end RuleBook

end EventHub
