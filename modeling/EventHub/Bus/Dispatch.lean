import EventHub.Bus.Topic
import EventHub.Hub.State
import EventHub.Time.Span

/-!
# Publishing and dispatch

An event is recorded, then its type or new fields are announced, then it goes to the subscribers
of events in general, of its type, and of its source and type, and last to the subscribers whose
patterns select it. A subscriber that fails is logged and keeps nothing from the others.

While the dispatcher runs, published events wait in a queue and are dispatched one by one;
otherwise they are dispatched at once.

* `deliver`: one notice to a row of subscribers.
* `dispatchEvent`: the dispatch of one event.
* `publishEvent`: the entry of events.
* `drain`: the dispatcher at work.
-/

namespace EventHub

variable {α : Type}

/-- The part of the hub that these lines of the log are from. -/
def busPart : String := "EventBus"

/-- Changes the bus. -/
def modifyBus (f : Bus → Bus) : Task α Unit := modify fun h => { h with bus := f h.bus }

/-! ## Raw events -/

/-- The fields that a raw event has to have. -/
def eventNeeds : List String := ["type", "source", "timestamp"]

/-- The name of a value's class. -/
def className : Value → String
  | .moment _ => "datetime"
  | v => v.typeName

/-- The entries of a raw event, if it has what it needs. -/
def rawEventFields (v : Value) : Except Fault Fields :=
  match v.fields? with
  | some fields =>
    match eventNeeds.filter fun name => !(Value.get fields name).truthy with
    | [] => .ok fields
    | missing => .error (.invalidEvent (.missing missing))
  | none => .error (.invalidEvent (.notMap (className v)))

/-- The event that the entries describe. -/
def eventOfFields (freshId : String) (fields : Fields) : Except Fault Event :=
  match Event.check freshId (.map fields) with
  | .ok e => .ok e
  | .error issues => .error (.invalidEvent (.invalid issues))

/-- The event of a definition; an event without an id draws one. -/
def normalizeEvent : Definition Event → Task α Event
  | .checked e => return e
  | .document v => do
    let fields ← Task.ofExcept (rawEventFields v)
    let id ← if (field fields "id").isNone then Task.freshId "event" else pure ""
    Task.ofExcept (eventOfFields id fields)

/-- An event, or the value that may describe one. -/
def Definition.ofEventValue (v : Value) : Definition Event :=
  match v with
  | .record .event _ => match Event.check "" v with
    | .ok e => .checked e
    | .error _ => .document v
  | _ => .document v

/-! ## Delivery -/

/-- Gives the notice to every subscriber in order and counts those that took it. -/
def deliver (host : Host α) (topic : String) (n : Notice) : List Subscriber → Task α Nat
  | [] => return 0
  | s :: rest => do
    match ← Task.attempt (host.receive s n) with
    | .ok _ => return (← deliver host topic n rest) + 1
    | .error fault =>
      Task.logFault busPart "Subscriber failed" [("topic", .text topic)] fault
      deliver host topic n rest

/-- Publishes a notice and counts the subscribers that took it. -/
def publish (host : Host α) (topic : String) (n : Notice) : Task α Nat := do
  deliver host topic n ((← get).bus.subscriptions.ofTopic topic)

/-- Publishes a notice, whoever takes it. -/
def announce (host : Host α) (topic : String) (n : Notice) : Task α Unit :=
  discard (publish host topic n)

/-- Gives the event to a subscriber if the pattern selects it. -/
def offer (host : Host α) (e : Event) (pattern : EventPattern) (s : Subscriber) :
    Task α Unit := do
  if ← Task.ofExcept (pattern.selects host.app.ask e) then host.receive s (.event e)

/-- Offers the event to the subscribers of patterns in order. -/
def deliverSelected (host : Host α) (e : Event) :
    List (Nat × EventPattern × Subscriber) → Task α Unit
  | [] => return ()
  | (id, pattern, s) :: rest => do
    match ← Task.attempt (offer host e pattern s) with
    | .ok _ => pure ()
    | .error fault =>
      Task.logFault busPart "Subscriber failed"
        [("subscriber", .int id), ("event_id", .text e.id)] fault
    deliverSelected host e rest

/-- Announces what was new in an event. -/
def announceChange (host : Host α) (e : Event) (change : SchemaChange) : Task α Unit := do
  if change.newType then
    Task.log .warning busPart s!"New event type discovered: {e.type}"
    announce host Topic.typeDiscovered (.typeDiscovery ⟨e.type, e.timestamp, e.data⟩)
  if !change.newFields.isEmpty then
    let discovery : FieldsDiscovery := ⟨e.type, change.newFields, e.timestamp⟩
    Task.log .warning busPart
      (s!"New fields discovered for {e.type}: " ++ commaList discovery.fieldNames)
    announce host Topic.fieldsDiscovered (.fieldsDiscovery discovery)

/-- Records the fields of an event in the schema. -/
def observeEvent (e : Event) : Task α SchemaChange := do
  Task.inService .observe
  let (change, schema) := (← get).bus.schema.observe e.type e.data
  modifyBus fun b => { b with schema }
  return change

/-- Dispatches an event. -/
def dispatchEvent (host : Host α) (e : Event) : Task α Unit := do
  modifyBus fun b => { b with history := b.history.record e }
  announceChange host e (← observeEvent e)
  announce host Topic.event (.event e)
  announce host (Topic.ofType e.type) (.event e)
  announce host (Topic.ofSource e.source e.type) (.event e)
  deliverSelected host e (← get).bus.subscriptions.ofEvents

/-! ## The queue -/

/-- Is there no room for another event? A capacity of zero or less is none. -/
def Bus.full (b : Bus) : Bool := 0 < b.capacity && b.capacity ≤ b.pending.length

/-- Has every event been dispatched? -/
def Bus.idle (b : Bus) : Bool := !b.busy && b.pending.isEmpty

/-- Puts an event at the end of the queue. -/
def Bus.enqueue (b : Bus) (e : Event) : Bus := { b with pending := b.pending ++ [e] }

/-- Dispatches an event from the queue; a fault is logged. -/
def dispatchQueued (host : Host α) (e : Event) : Task α Unit := do
  modifyBus fun b => { b with busy := true }
  match ← Task.attempt (dispatchEvent host e) with
  | .ok _ => pure ()
  | .error fault =>
    Task.logFault busPart "Event dispatch failed"
      [("event_id", .text e.id), ("type", .text e.type)] fault
  modifyBus fun b => { b with busy := false }

/-- Dispatches up to `n` waiting events, while the dispatcher runs. -/
def drain (host : Host α) : Nat → Task α Unit
  | 0 => return ()
  | n + 1 => do
    let b := (← get).bus
    if b.running && !b.busy then
      match b.pending with
      | [] => return ()
      | e :: rest =>
        modifyBus fun b => { b with pending := rest }
        dispatchQueued host e
        drain host n

/-- More events than any run of the dispatcher between two operations dispatches. -/
def drainLimit : Nat := 1000000

/-- Puts an event into the queue. When there is no room, the dispatcher is given time to make
some, which it cannot do while it is at work on the event that is being published from. -/
def enqueueEvent (host : Host α) (e : Event) : Task α Unit := do
  let b := (← get).bus
  if 0 < b.capacity && b.patience < 0 then
    throw (.raised .value "'timeout' must be a non-negative number")
  if b.full then drain host drainLimit
  if (← get).bus.full then
    Task.log .error busPart s!"Event queue full; rejecting event {e.id} type={e.type}"
    throw (.busFull e.id)
  modifyBus (·.enqueue e)

/-- Publishes an event. -/
def publishEvent (host : Host α) (raw : Definition Event) : Task α Event := do
  let e ← normalizeEvent raw
  if (← get).bus.running then enqueueEvent host e else dispatchEvent host e
  return e

/-- Starts the dispatcher. -/
def startBus : Task α Unit := do
  let b := (← get).bus
  if !b.running then
    modifyBus fun b => { b with running := true }
    Task.log .info busPart s!"Event bus dispatcher started queue_size={b.capacity}"

/-- Stops the dispatcher. Events that still wait stay in the queue. -/
def stopBus : Task α Unit := do
  let b := (← get).bus
  if b.running then
    if !b.idle then
      Task.log .warning busPart s!"Stopping event bus with {b.pending.length} events still queued"
    modifyBus fun b => { b with running := false }
    Task.log .info busPart "Event bus dispatcher stopped"

/-! ## Subscriptions -/

/-- Subscribes to a topic. Only what can be called can receive. -/
def subscribe (topic : String) (subscriber : Option Subscriber) : Task α Nat := do
  match subscriber with
  | none => throw (.type .uncallableHandler)
  | some s =>
    let (id, subscriptions) := (← get).bus.subscriptions.add (.topic topic) s
    modifyBus fun b => { b with subscriptions }
    return id

/-- Subscribes to the events that a pattern selects. -/
def subscribeEvents (pattern : Option EventPattern) (subscriber : Option Subscriber) :
    Task α Nat := do
  match subscriber, pattern with
  | none, _ => throw (.type .uncallableHandler)
  | _, none => throw (.type .badPattern)
  | some s, some p =>
    let (id, subscriptions) := (← get).bus.subscriptions.add (.events p) s
    modifyBus fun b => { b with subscriptions }
    return id

/-- Ends a subscription and tells whether it was in force. -/
def unsubscribe (id : Nat) : Task α Bool := do
  let (found, subscriptions) := (← get).bus.subscriptions.remove id
  modifyBus fun b => { b with subscriptions }
  return found

/-! ## History and counters -/

/-- Takes out the events older than a number of seconds and counts them. -/
def clearOldEvents (maxAge : Value) : Task α Nat := do
  let h ← get
  let cutoff ← Task.ofExcept (do Time.instantBefore h.now (← Time.spanOf maxAge))
  let (removed, history) := h.bus.history.clear cutoff
  modifyBus fun b => { b with history }
  if removed != 0 then Task.log .info busPart s!"Cleared {removed} old events"
  return removed

/-- Counts as a value. -/
def countsValue (counts : List (String × Nat)) : Value :=
  .map (counts.map fun (k, n) => (k, .int n))

/-- The counters of the bus. -/
def Bus.stats (b : Bus) : Value :=
  .map [("total_events", .int b.history.total), ("events_by_type", countsValue b.history.byType),
    ("events_by_source", countsValue b.history.bySource),
    ("last_event_time", .ofText? b.history.lastTime), ("queue_length", .int b.pending.length),
    ("subscriber_count", .int (b.subscriptions.count none))]

end EventHub
