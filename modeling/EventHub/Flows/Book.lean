import EventHub.Record.Flow
import EventHub.Rules.Book

/-!
# The book of flows

The registered flows by id, in the order of registration.

* `FlowBook.register`, `FlowBook.update`, `FlowBook.remove`: the operations. Each gives a new
  book or a fault.
-/

namespace EventHub

/-- The registered flows. -/
abbrev FlowBook := List (String × Flow)

/-- The flow that a definition describes. -/
def Definition.toFlow (now : String) : Definition Flow → Except Fault Flow
  | .checked f => .ok f
  | .document v => do
    match Flow.check now (← v.toMap) with
    | .ok f => .ok f
    | .error issues => .error (.definition (.invalid .flow "Flow" issues))

/-- A flow, or the value that may describe one. A record is taken as the flow that it is. -/
def Definition.ofFlowValue (v : Value) : Definition Flow :=
  match v with
  | .record .flow fields => match Flow.ofRecord? fields with
    | some f => .checked f
    | none => .document v
  | _ => .document v

namespace FlowBook

/-- Registers a flow; a flow without an id is given `fresh`. -/
def register (b : FlowBook) (now fresh : String) (f : Flow) :
    Except Fault (String × Flow × FlowBook) :=
  let f := { f with metadata := { f.metadata with createdAt := now, updatedAt := now } }
  match f.id with
  | none =>
    let f := { f with id := some fresh }
    .ok (fresh, f, Assoc.put b fresh f)
  | some id =>
    if Assoc.has b id then .error (.definition (.flowExists id))
    else .ok (id, f, Assoc.put b id f)

/-- The fields of a flow by name, its records kept as records. -/
def entries (f : Flow) : Fields :=
  match f.toValue with
  | .record _ fields => fields
  | _ => []

/-- One update on the fields and the metadata of a flow: metadata is merged key by key, the id
stays, all else is replaced. -/
def mergeUpdate (acc : Fields × Fields) (key : String) (value : Value) : Fields × Fields :=
  match key == "metadata", value with
  | true, .map new =>
    (acc.1, Assoc.merge acc.2 (new.map fun (k, v) => (Text.snakeCase k, v)))
  | _, _ => if key == "id" then acc else (Assoc.put acc.1 key value, acc.2)

/-- The flow that the updates make of a flow. -/
def revise (now id : String) (current : Flow) (updates : Value) : Except Fault Flow := do
  let items ← itemsOf updates
  let metadata := (current.metadata.toValue.dump.fields?).getD []
  let (merged, metadata) :=
    items.foldl (fun acc (k, v) => mergeUpdate acc (Text.snakeCase k) v)
      (entries current, metadata)
  let metadata := Assoc.put metadata "created_at" (.text current.metadata.createdAt)
  let metadata := Assoc.put metadata "updated_at" (.text now)
  match Flow.check now (.map (Assoc.put merged "metadata" (.map metadata))) with
  | .ok updated => .ok updated
  | .error issues => .error (.definition (.invalid (.flowUpdate id) "Flow" issues))

/-- Merges updates into a registered flow, which keeps its place. -/
def update (b : FlowBook) (now id : String) (updates : Value) : Except Fault (Flow × FlowBook) :=
  match Assoc.get? b id with
  | none => .error (.flowNotFound id)
  | some current => do
    let updated ← revise now id current updates
    .ok (updated, Assoc.put b id updated)

/-- Takes a flow out of the book. -/
def remove (b : FlowBook) (id : String) : Except Fault (Flow × FlowBook) :=
  match Assoc.get? b id with
  | none => .error (.flowNotFound id)
  | some f => .ok (f, Assoc.erase b id)

end FlowBook

end EventHub
