import EventHub.Actions.Run

/-!
# Sample functions

The functions of a small application: some of one value, for conditions and patterns, and some of
a value and a context, for transforms and actions. A function that is given too few or too many
values fails. They are what rehearsals of a hub run; nothing is proved of them in particular.

* `askSample`, `actSample`: the two kinds of calls.
* `repeated`: ten times a value.
-/

namespace EventHub.Rehearsal

variable {α : Type}

/-- The functions of one value. -/
def oneValueNames : List String :=
  ["event_speed_over_50", "event_raises", "event_data", "values_armed", "values_zero"]

/-- The functions of a value and a context. -/
def twoValueNames : List String :=
  ["times_ten", "sorted_keys", "flow_name", "transform_raises", "step_error", "echo", "boom",
   "inner_error", "tag", "mutate", "values", "notify", "null"]

/-! ## Parts of values -/

/-- The data of an event. -/
def dataOf (v : Value) : Except Fault Value :=
  match v with
  | .record kind fields => match Assoc.get? fields "data" with
    | some data => .ok data
    | none => .error (.noMember kind.name "data")
  | v => .error (.noMember v.typeName "data")

/-- The fault of asking a value that is no map for the entry of a text. -/
def notByText (v : Value) : Fault :=
  match v with
  | .list _ | .tuple _ =>
    .raised .type s!"{v.typeName} indices must be integers or slices, not str"
  | .bytes _ => .raised .type "byte indices must be integers or slices, not str"
  | .text _ => .raised .type "string indices must be integers, not 'str'"
  | v => .type (.notSubscriptable v.typeName)

/-- An entry of a value that has to be a map. -/
def entryOf (v : Value) (key : String) : Except Fault Value :=
  match v.fields? with
  | some fields => match Assoc.get? fields key with
    | some item => .ok item
    | none => .error (.key (.text key))
  | none => .error (notByText v)

/-- An entry of a map, or a default. -/
def entryOr (v : Value) (key : String) (default : Value) : Except Fault Value :=
  match v.fields? with
  | some fields => .ok (Value.getOr fields key default)
  | none => .error (.noMember v.typeName "get")

/-! ## Functions of one value -/

/-- How faults of calls name the functions. -/
def namelessFunction : String := "<lambda>"

/-- Is the speed of an event over 50? -/
def speedOver50 (v : Value) : Except Fault Value := do
  let speed ← entryOr (← dataOf v) "speed" (.int 0)
  match speed.ordered .gt (.int 50) with
  | .ok b => .ok (.bool b)
  | .error flaw => .error (.type flaw)

/-- Calls a function of one value. -/
def askSample (name : String) (v : Value) : Except Fault Value :=
  match name with
  | "event_speed_over_50" => speedOver50 v
  | "event_raises" => .error (.key (.text "speed"))
  | "event_data" => dataOf v
  | "values_armed" => do entryOf (← entryOf v "input") "armed"
  | "values_zero" => .ok (.int 0)
  | _ => .error (.type (.missingArgument namelessFunction "context"))

/-! ## Functions of a value and a context -/

/-- Ten copies of a row. -/
def tenfold {β : Type} (items : List β) : List β := (List.replicate 10 items).flatten

/-- Ten times a value: numbers are multiplied, rows repeated. -/
def repeated (v : Value) : Except Fault Value :=
  match v with
  | .bool b => .ok (.int (if b then 10 else 0))
  | .int n => .ok (.int (n * 10))
  | .float x => .ok (.float (x * 10))
  | .nan mark => .ok (.nan mark)
  | .text s => .ok (.text (String.ofList (tenfold s.toList)))
  | .bytes bs => .ok (.bytes (tenfold bs))
  | .list items => .ok (.list (tenfold items))
  | .tuple items => .ok (.tuple (tenfold items))
  | v => .error (.type (.unsupported "*" v.typeName "int"))

/-- The items of a value in order. -/
def sortedItems (v : Value) : Except Fault Value := do
  match sortRow (← v.toList) with
  | .ok items => .ok (.list items)
  | .error flaw => .error (.type flaw)

/-- Marks the payload among the parameters and gives it. -/
def markPayload (params : Value) : Except Fault Reply := do
  let payload ← entryOf params "payload"
  match payload with
  | .map _ | .table _ =>
    let marked := payload.put "injected" (.bool true)
    .ok ⟨marked, params.put "payload" marked, some ["payload"]⟩
  | .list _ => .error (notByText payload)
  | v => .error (.noMember v.typeName "__setitem__")

/-- Appends to the list among the parameters and gives the parameters. -/
def appendToList (params : Value) : Except Fault Reply :=
  match params.fields? with
  | none => .error (.noMember params.typeName "setdefault")
  | some fields =>
    match Value.getOr fields "list" (.list []) with
    | .list items =>
      let longer := params.put "list" (.list (items ++ [.text "x"]))
      .ok ⟨longer, longer, some []⟩
    | v => .error (.noMember v.typeName "append")

/-- Fails with the message among the parameters. -/
def failWith (params : Value) : Except Fault Value := do
  .error (.raised .runtime (← entryOr params "message" (.text "kaput")).plain)

/-- The name of the flow of a context. -/
def flowName (ctx : Context) : Except Fault Value :=
  match ctx.flow with
  | some f => .ok (.text f.name)
  | none => .error (.noMember "NoneType" "name")

/-- A reply with an answer of its own. -/
def answering (v : Value) (answer : Except Fault Value) : Task α Reply := do
  return .ofAnswer (← Task.ofExcept answer) v

/-- Calls a function of a value and a context. -/
def actSample (host : Host α) (name : String) (v : Value) (ctx : Context) : Task α Reply :=
  match name with
  | "times_ten" => answering v (repeated v)
  | "sorted_keys" => answering v (sortedItems v)
  | "flow_name" => answering v (flowName ctx)
  | "transform_raises" => Task.fail (.raised .runtime "bad transform")
  | "step_error" => Task.fail (.step (.text "inner") "raised inside" none)
  | "echo" => return ⟨v, v, some []⟩
  | "boom" => answering v (failWith v)
  | "inner_error" => Task.fail (.action "inner" "deep" none)
  | "tag" => Task.ofExcept (markPayload v)
  | "mutate" => Task.ofExcept (appendToList v)
  | "values" => return .ofAnswer ctx.keptValues v
  | "notify" => do
    emit host ctx.outlet "custom:topic" (.value v)
    return .ofAnswer .null v
  | "null" => return .ofAnswer .null v
  | _ => Task.fail
      (.raised .type s!"{namelessFunction}() takes 1 positional argument but 2 were given")

end EventHub.Rehearsal
