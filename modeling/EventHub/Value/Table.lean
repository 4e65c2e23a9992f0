import EventHub.Value.Compare

/-!
# Maps and tables

Maps and tables are built and changed alike. A table is only made where some key is not a text,
so that equal contents have one form.

* `Value.ofEntries`: the map or table of some entries.
* `Value.put`, `Value.update`: entries are set, known ones in their place.
-/

namespace EventHub.Value

/-- Sets a key, in its place when it is known and at the end when it is new. -/
def putEntry : List (Value × Value) → Value → Value → List (Value × Value)
  | [], key, value => [(key, value)]
  | (k, v) :: rest, key, value =>
    if k.alike key then (k, value) :: rest else (k, v) :: putEntry rest key value

/-- Sets every entry of the second row in the first. -/
def putEntries (entries updates : List (Value × Value)) : List (Value × Value) :=
  updates.foldl (fun acc e => putEntry acc e.1 e.2) entries

/-- The entries with their keys as texts, if all of them are. -/
def allText? : List (Value × Value) → Option Fields
  | [] => some []
  | (text k, v) :: rest => (allText? rest).map fun fields => (k, v) :: fields
  | _ :: _ => none

/-- The map or table of entries with distinct keys. -/
def ofDistinct (entries : List (Value × Value)) : Value :=
  match allText? entries with
  | some fields => map fields
  | none => table entries

/-- The map or table of entries, where a repeated key keeps its first place and its last value. -/
def ofEntries (entries : List (Value × Value)) : Value := ofDistinct (putEntries [] entries)

/-- The entries of a map or table. -/
def entries : Value → List (Value × Value)
  | map fields => fields.map fun (k, v) => (text k, v)
  | table entries => entries
  | _ => []

/-- A map or table with a key set. -/
def put (v : Value) (key : String) (item : Value) : Value :=
  match v with
  | map fields => map (Assoc.put fields key item)
  | table entries => table (putEntry entries (text key) item)
  | v => v

/-- A map or table with the entries of another one set. -/
def update (v w : Value) : Value :=
  match v, w with
  | map fields, map more => map (Assoc.merge fields more)
  | v, w => ofDistinct (putEntries v.entries w.entries)

/-- Is the value a map or table? -/
def isMap : Value → Bool
  | map _ | table _ => true
  | _ => false

end EventHub.Value
