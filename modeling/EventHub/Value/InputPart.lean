import EventHub.Value.Path
import EventHub.Value.Table

/-!
# Parts of the input of a running flow

While a flow runs, functions may change its input. Results that hold the input, or an entry of
it, hold it as a part: what it is like when the result is read.

* `Value.settled`: a value with the parts put in.
-/

namespace EventHub.Value

/-- What a path leads to in the input; null where it leads nowhere. -/
def partOf (input : Value) (path : List String) : Value :=
  match walk path input with
  | .ok (some v) => v
  | _ => .null

mutual

/-- The value with the parts of the input put in. -/
def settled (input : Value) : Value → Value
  | inputPart path => partOf input path
  | list items => list (settledItems input items)
  | tuple items => tuple (settledItems input items)
  | map fields => map (settledFields input fields)
  | table entries => table (settledEntries input entries)
  | v => v
termination_by structural v => v

/-- Every item with the parts put in. -/
def settledItems (input : Value) : List Value → List Value
  | [] => []
  | v :: rest => settled input v :: settledItems input rest
termination_by structural items => items

/-- Every entry of a map with the parts put in. -/
def settledFields (input : Value) : List (String × Value) → List (String × Value)
  | [] => []
  | (k, v) :: rest => (k, settled input v) :: settledFields input rest
termination_by structural fields => fields

/-- Every entry of a table with the parts put in. -/
def settledEntries (input : Value) : List (Value × Value) → List (Value × Value)
  | [] => []
  | (k, v) :: rest => (k, settled input v) :: settledEntries input rest
termination_by structural entries => entries

end

/-- A map or table whose values are those parts of the input that have its keys. -/
def asParts : Value → Value
  | map fields => map (fields.map fun (k, _) => (k, inputPart [k]))
  | table entries => table (entries.map fun (k, v) => match k with
    | text name => (k, inputPart [name])
    | _ => (k, v))
  | v => v

theorem length_settledItems (input : Value) (items : List Value) :
    (settledItems input items).length = items.length := by
  induction items with
  | nil => simp [settledItems]
  | cons v rest ih => simp [settledItems, ih]

end EventHub.Value
