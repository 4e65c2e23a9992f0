import EventHub.Hub.Effect
import EventHub.Value.InputPart

/-!
# Contexts of actions

What an action may read while it runs, and the table of values that the tokens of its templates
name.

* `Context.templateValues`: the table. The names of the event, the rule, the flow and the steps win over
  the keys of event data and flow input.
* `Context.keptValues`: the table as functions keep it, with the input of a running flow as parts.
-/

namespace EventHub

/-- Where notifications go: into the record of effects, or to the subscribers of the bus. -/
inductive Outlet
  | journal
  | bus
deriving DecidableEq, Repr

/-- What an action may read while it runs. `running` tells that the input is that of a flow that
is running, and that the event, if there is one, has the input as its data. -/
structure Context where
  event : Option Event
  rule : Option Rule
  flow : Option Flow
  input : Value
  steps : List Value
  connectors : List (String × Connector)
  cached : Bool
  broker : Option Broker
  outlet : Option Outlet
  timestamp : Value
  running : Bool

namespace Context

/-- A context of nothing but the time. -/
def bare (now : String) : Context :=
  { event := none, rule := none, flow := none, input := .map [], steps := [], connectors := [],
    cached := false, broker := none, outlet := none, timestamp := .text now, running := false }

/-- The entries that an event adds; `data` is its data. -/
def eventEntries (e : Event) (data : Value) : Fields :=
  [("id", .text e.id), ("type", .text e.type), ("source", .text e.source),
   ("timestamp", .text e.timestamp), ("data", data), ("metadata", .map e.metadata),
   ("event", e.toValue.dump)]

/-- The time, then the keys of the input, then the input. -/
def inputValues (timestamp input whole : Value) : Value :=
  let times : Value := .map [("timestamp", timestamp), ("now", timestamp)]
  (times.update input).put "input" whole

/-- Adds the keys of the event's data, then the event's own names. -/
def addEvent (values : Value) (parts : Bool) : Option Event → Value
  | none => values
  | some e =>
    let data : Value := if parts then (Value.map e.data).asParts else .map e.data
    (values.update data).update (.map (eventEntries e data))

/-- Adds the id and name of the rule. -/
def addRule (values : Value) : Option Rule → Value
  | none => values
  | some r => values.put "rule" (.map [("id", .ofText? r.id), ("name", .text r.name)])

/-- Adds the id and name of the flow. -/
def addFlow (values : Value) : Option Flow → Value
  | none => values
  | some f => values.put "flow" (.map [("id", .ofText? f.id), ("name", .text f.name)])

/-- The table of values; with `parts` the input and its entries are in it as parts. -/
def table (c : Context) (parts : Bool) : Value :=
  let input := if parts then inputValues c.timestamp c.input.asParts (.inputPart [])
    else inputValues c.timestamp c.input c.input
  let values := addFlow (addRule (addEvent input parts c.event) c.rule) c.flow
  (values.put "steps" (.list c.steps)).put "previous" (.ofOption c.steps.getLast?)

/-- The table of values that tokens name. -/
def templateValues (c : Context) : Value := c.table false

/-- The table of values as it is kept: the input of a running flow may still change. -/
def keptValues (c : Context) : Value := c.table c.running

/-- What is read of a result: the parts of the input as they are now. -/
def settled (c : Context) (v : Value) : Value := if c.running then Value.settled c.input v else v

end Context

end EventHub
