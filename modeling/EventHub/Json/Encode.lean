import EventHub.Fault
import EventHub.Json.Write
import EventHub.Value.Depth

/-!
# Values that have a JSON text

Every value is written somehow, but a table only has a JSON text when its keys are texts or plain
scalars, and a value that is sent has one when it is not nested too deep.

* `Value.jsonWithin`: the JSON text of a value in so many levels.
* `Value.json`: the JSON text of a value, if it has one.
-/

namespace EventHub

/-- The wording for lists and maps that are nested too deep to be written. -/
def Json.writeDepthMessage : String :=
  "maximum recursion depth exceeded while encoding a JSON object"

/-- A value as JSON in so many levels of lists and maps, if all keys in it have a form there. -/
def Value.jsonWithin (v : Value) (levels : Nat) : Except Fault (List Char) :=
  match Json.obstacle? v levels with
  | some (.key key) => .error (.type (.jsonKey key.typeName))
  | some .depth => .error (.raised .recursion Json.writeDepthMessage)
  | none => .ok (Json.chars v)

/-- A value as JSON, however deep it is, if all keys in it have a form there. -/
def Value.json (v : Value) : Except Fault (List Char) := v.jsonWithin v.depth

end EventHub
