import EventHub.Assoc
import EventHub.Json.Read
import EventHub.Json.Encode
import EventHub.Text.Utf8
import EventHub.Value.Table

/-!
# Messages of the broker

A message carries bytes. What is sent is a text or bytes as they are, or JSON; what arrives is
read as JSON where it is JSON, and else as text. A message that describes an event becomes that
event, and any other becomes an event of its own type.

* `wireForm`: what is sent for a payload.
* `decodePayload`: what arrives.
* `messageToEvent`: the event of a message.
-/

namespace EventHub

/-- The type of the events of messages that describe none. -/
def messageEventType : String := "mqtt_message"

/-- What is sent for a payload: texts and bytes as they are, all else as JSON, in as many levels as
the reader of a message has. -/
def wireForm (payload : Value) : Except Fault Value :=
  match payload with
  | .text s => .ok (.text s)
  | .bytes bs => .ok (.bytes bs)
  | v => do .ok (.text (String.ofList (← v.jsonWithin Json.maxLevels)))

/-- The bytes of what is sent. -/
def wireBytes (message : Value) : List UInt8 :=
  match message with
  | .text s => Text.encode s.toList
  | .bytes bs => bs
  | _ => []

/-- The payload of the bytes of a message. Only JSON that is nested too deep has none. -/
def decodePayload (bytes : List UInt8) : Except Fault Value :=
  let text := Text.decodeLossy bytes
  match Json.read text with
  | .ok v => .ok v
  | .error stop =>
    let fault : Fault := .json stop text
    if fault.isA .value then .ok (.text text) else .error fault

/-- Sets an entry that is missing. -/
def putMissing (event : Value) (key : String) (v : Value) : Value :=
  if Assoc.has (event.fields?.getD []) key then event else event.put key v

/-- A message as an event. A map with a type is the event that it describes, with the topic for a
missing source and the present for a missing time. -/
def messageToEvent (now : String) (topic payload : Value) : Value :=
  let other : Value := .map [("type", .text messageEventType), ("source", topic),
    ("timestamp", .text now),
    ("data", .map [("topic", topic), ("payload", payload)])]
  if (Value.get (payload.fields?.getD []) "type").truthy then
    putMissing (putMissing payload "source" topic) "timestamp" (.text now)
  else other

end EventHub
