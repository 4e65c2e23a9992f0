import EventHub.Record.Check

/-!
# Predicates

A predicate is a comparison of what a path leads to with an expected value.

* `Operator.ofName?_name`: an operator is told by its name.
* `Predicate.check`: a predicate from a value.
-/

namespace EventHub

/-- The comparisons of predicates. -/
inductive Operator
  | exists | eq | ne | gt | gte | lt | lte | among | contains | truthy
deriving DecidableEq, Repr

/-- The name of an operator. -/
def Operator.name : Operator → String
  | .exists => "exists"
  | .eq => "eq"
  | .ne => "ne"
  | .gt => "gt"
  | .gte => "gte"
  | .lt => "lt"
  | .lte => "lte"
  | .among => "in"
  | .contains => "contains"
  | .truthy => "truthy"

/-- All operators. -/
def Operator.all : List Operator :=
  [.exists, .eq, .ne, .gt, .gte, .lt, .lte, .among, .contains, .truthy]

/-- The operators by name. -/
def Operator.words : List (String × Operator) := Operator.all.map fun op => (op.name, op)

/-- The operator of a name. -/
def Operator.ofName? (name : String) : Option Operator := Operator.words.lookup name

theorem Operator.ofName?_name (op : Operator) : Operator.ofName? op.name = some op := by
  cases op <;> decide

/-- A comparison of what a path leads to with a value. -/
structure Predicate where
  field : String
  op : Operator
  value : Value

/-- The predicate as a value. -/
def Predicate.toValue (p : Predicate) : Value :=
  .record .predicate [("field", .text p.field), ("op", .text p.op.name), ("value", p.value)]

/-- The predicate that the fields describe; equality is the comparison if none is named. -/
def Predicate.ofFields (fields : Fields) : Checked Predicate :=
  (((Checked.apply (.ok Predicate.mk)
    (required fields "field" checkText)).apply
    (defaulted fields "op" .eq (checkWord Operator.words))).apply
    (defaulted fields "value" .null checkAny))

/-- A predicate from a value. -/
def Predicate.check (v : Value) : Checked Predicate := do
  Predicate.ofFields (← recordEntries .predicate v)

end EventHub
