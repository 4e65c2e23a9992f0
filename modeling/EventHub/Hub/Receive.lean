import EventHub.Flows.Lifecycle
import EventHub.Link.Message

/-!
# Receiving notices

How a notice reaches each kind of subscriber. What receives a notice may publish others, which are
received one level deeper; the depth has a bound.

* `receive`: the reception of a notice with a number of levels below it.
* `Application.host`: an application with reception.
-/

namespace EventHub

variable {α : Type}

/-- Publishes a message of the broker as an event. -/
def takeMessage (host : Host α) (n : Notice) : Task α Unit := do
  match n with
  | .message topic payload =>
    let _ ← publishEvent host (.document (messageToEvent (← Task.now) (.text topic) payload))
  | _ => return ()

/-- Receives a notice for a subscriber; `depth` further levels are left. -/
def receive (app : Application α) : Nat → Receive α
  | 0 => fun _ _ => throw .tooDeep
  | depth + 1 => fun s n =>
    let host : Host α := { app, receive := receive app depth }
    match s with
    | .discoverType => discoverType host n
    | .discoverFields => discoverFields host n
    | .handleEvent => handleEvent host n
    | .takeMessage => takeMessage host n
    | .function name => do let _ ← Task.ofExcept (app.ask name n.toValue)
    | .client k => app.serve host.receive k n

/-- The number of levels to which notices may lead to notices. -/
def receptionDepth : Nat := 200

/-- An application with reception. -/
def Application.host (app : Application α) : Host α :=
  { app, receive := receive app receptionDepth }

end EventHub
