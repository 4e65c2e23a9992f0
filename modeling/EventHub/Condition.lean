import EventHub.Record.Predicate
import EventHub.Value.Compare
import EventHub.Value.Path

/-!
# Conditions

A condition is a truth value, a predicate, a list of conditions that all have to hold, a path
whose value has to be true, or a function of the application.

* `Operator.holds`: what each comparison means.
* `Condition.holds`: the evaluation of a condition.
-/

namespace EventHub

/-- The relation that an ordering operator asks for. -/
def Operator.relation? : Operator → Option Relation
  | .gt => some .gt
  | .gte => some .ge
  | .lt => some .lt
  | .lte => some .le
  | _ => none

/-- Faults of type count as a comparison that does not hold. -/
def falseOnType : Except Fault Bool → Except Fault Bool
  | .error (.type _) => .ok false
  | other => other

/-- An expected container; everything that counts as false contains nothing. -/
def expectedContainer (expected : Value) : Value :=
  if expected.truthy then expected else .tuple []

/-- Does the comparison hold of a value? -/
def Operator.compare (op : Operator) (actual expected : Value) : Except Fault Bool :=
  match op with
  | .exists => .ok true
  | .eq => .ok (actual.same expected)
  | .ne => .ok (!actual.same expected)
  | .truthy => .ok actual.truthy
  | .among => (expectedContainer expected).holdsItem actual
  | .contains => falseOnType (actual.holdsItem expected)
  | .gt => orderedOrFalse .gt
  | .gte => orderedOrFalse .ge
  | .lt => orderedOrFalse .lt
  | .lte => orderedOrFalse .le
where
  /-- Values without an order are in no relation. -/
  orderedOrFalse (r : Relation) : Except Fault Bool :=
    match actual.ordered r expected with
    | .ok b => .ok b
    | .error _ => .ok false

/-- Does the comparison hold of what a path has led to? -/
def Operator.holds (op : Operator) (found : Option Value) (expected : Value) :
    Except Fault Bool :=
  match found with
  | some actual => op.compare actual expected
  | none => .ok false

/-- Does the predicate hold? -/
def Predicate.holds (p : Predicate) (values : Value) : Except Fault Bool := do
  p.op.holds (← values.lookup p.field) p.value

/-- Does a predicate hold that was built without a check? -/
def predicateRecordHolds (fields values : Value) : Except Fault Bool := do
  let path ← match ← fields.step "field" with
    | some (.text path) => .ok path
    | some v => .error (.noMember v.typeName "split")
    | none => .error (.noMember "Predicate" "field")
  let found ← values.lookup path
  let name := ((← fields.step "op").getD (.text "eq")).plain
  let expected := (← fields.step "value").getD .null
  match Operator.ofName? name, found with
  | some op, found => op.holds found expected
  | none, none => .ok false
  | none, some _ => .error (.definition (.unknownOperator name))

/-- Does the predicate hold that a map describes? -/
def predicateMapHolds (v values : Value) : Except Fault Bool :=
  match Predicate.check v with
  | .ok p => p.holds values
  | .error issues => .error (.validation "Predicate" issues)

namespace Condition

variable (ask : String → Value → Except Fault Value)

mutual

/-- Does the condition hold of the values? `ask` calls a function of the application. -/
def holds (values : Value) : Value → Except Fault Bool
  | .bool b => .ok b
  | .record .predicate fields => predicateRecordHolds (.map fields) values
  | .map fields => predicateMapHolds (.map fields) values
  | .table entries => predicateMapHolds (.table entries) values
  | .list items | .tuple items => allHold values items
  | .text path => do
    match ← values.lookup path with
    | some v => .ok v.truthy
    | none => .ok false
  | .function name => do .ok (← ask name values).truthy
  | .null => .error (.definition .missingCondition)
  | v => .ok v.truthy

/-- Do all conditions hold? The first that does not ends the evaluation. -/
def allHold (values : Value) : List Value → Except Fault Bool
  | [] => .ok true
  | c :: rest => do
    if ← holds values c then allHold values rest else .ok false

end

end Condition

end EventHub
