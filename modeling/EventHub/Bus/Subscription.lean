import EventHub.Fault
import EventHub.Pattern.Matcher
import EventHub.Record.Event

/-!
# Subscriptions

Who receives what is published: subscribers of topics, and subscribers of the events that a
pattern selects. Subscriptions are numbered in the order in which they are made.

* `Subscriptions.remove`: the first removal of a subscription succeeds, every later one does not.
-/

namespace EventHub

/-- Who receives: one of the hub's own listeners, a function of the application, or a client
that the application knows by number. `takeMessage` publishes the messages of the broker as
events. -/
inductive Subscriber
  | discoverType
  | discoverFields
  | handleEvent
  | takeMessage
  | function (name : String)
  | client (number : Nat)
deriving DecidableEq, Repr

/-- What selects events: a type or source, a search in both, or a function of the application. -/
inductive EventPattern
  | name (name : String)
  | search (pattern : Pattern)
  | function (name : String)

/-- What a subscription is for. -/
inductive Channel
  | topic (topic : String)
  | events (pattern : EventPattern)

/-- Is the channel the topic? -/
def Channel.isTopic (topic : String) : Channel → Bool
  | .topic t => t == topic
  | .events _ => false

/-- A numbered subscription. -/
structure Subscription where
  id : Nat
  channel : Channel
  subscriber : Subscriber

/-- The subscriptions in force, oldest first, and the number of the next one. -/
structure Subscriptions where
  entries : List Subscription
  next : Nat

namespace Subscriptions

/-- No subscriptions yet. -/
def none : Subscriptions := ⟨[], 1⟩

/-- Adds a subscription and gives its number. -/
def add (s : Subscriptions) (channel : Channel) (subscriber : Subscriber) : Nat × Subscriptions :=
  (s.next, ⟨s.entries ++ [⟨s.next, channel, subscriber⟩], s.next + 1⟩)

/-- Takes a subscription out and tells whether it was in force. -/
def remove (s : Subscriptions) (id : Nat) : Bool × Subscriptions :=
  (s.entries.any (·.id == id), { s with entries := s.entries.filter (·.id != id) })

/-- The subscribers of a topic in order. -/
def ofTopic (s : Subscriptions) (topic : String) : List Subscriber :=
  (s.entries.filter fun e => e.channel.isTopic topic).map (·.subscriber)

/-- The pattern of a subscription for events. -/
def pattern? (e : Subscription) : Option (Nat × EventPattern × Subscriber) :=
  match e.channel with
  | .events pattern => some (e.id, pattern, e.subscriber)
  | .topic _ => Option.none

/-- The subscribers of event patterns in order. -/
def ofEvents (s : Subscriptions) : List (Nat × EventPattern × Subscriber) :=
  s.entries.filterMap pattern?

/-- The number of subscriptions of a topic, or of all subscriptions. -/
def count (s : Subscriptions) : Option String → Nat
  | some topic => (s.ofTopic topic).length
  | Option.none => s.entries.length

end Subscriptions

/-- Does the pattern select the event? `ask` calls a function of the application. -/
def EventPattern.selects (ask : String → Value → Except Fault Value) (e : Event) :
    EventPattern → Except Fault Bool
  | name n => .ok (e.type == n || e.source == n)
  | search pattern => .ok (pattern.search e.type || pattern.search e.source)
  | function f => do .ok (← ask f e.toValue).truthy

end EventHub
