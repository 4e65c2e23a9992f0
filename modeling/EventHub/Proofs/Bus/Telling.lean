import EventHub.Proofs.Discovery.Dispatch

/-!
# Telling

Who is told of an event, and in what order, whatever being told means.

* **Bulletins** (`Event.bulletins`): what there is to tell of an event, and under which topics.
* **Addressees** (`Subscriptions.toTell`, `Subscriptions.toTellOf`): who is to be told.
* **Tellings** (`Telling`): a relation of hubs that adds up those who are told. If every reception adds the
  one that it is of, then a dispatch adds everyone who is to be told, in order (`Telling.dispatch`).
-/

namespace EventHub

open EventHub.Task

variable {α : Type} {host : Host α} {h h' : Hub α} {s : Subscriptions}

/-! ## Bulletins -/

/-- What there is to tell of a change of the schema. -/
def SchemaChange.bulletins (change : SchemaChange) (e : Event) : List (String × Notice) :=
  (if change.newType then
    [(Topic.typeDiscovered, .typeDiscovery ⟨e.type, e.timestamp, e.data⟩)] else []) ++
  (if change.newFields.isEmpty then [] else
    [(Topic.fieldsDiscovered, .fieldsDiscovery ⟨e.type, change.newFields, e.timestamp⟩)])

/-- What there is to tell of an event, and under which topics: what the schema did not know, then the event
itself. -/
def Event.bulletins (e : Event) (schema : Schema) : List (String × Notice) :=
  (schema.observe e.type e.data).1.bulletins e ++ (eventTopics e).map fun topic => (topic, .event e)

/-! ## Addressees -/

/-- The subscriber of a pattern, if the pattern selects the event. A function that raises selects
nothing. -/
def EventPattern.chooses (ask : String → Value → Except Fault Value) (e : Event) :
    Nat × EventPattern × Subscriber → Option Subscriber
  | (_, pattern, k) => match pattern.selects ask e with
    | .ok true => some k
    | _ => none

namespace Subscriptions

variable (s : Subscriptions)

/-- Who is to be told of a notice under the topic. -/
def toTell (topic : String) (n : Notice) : List (Subscriber × Notice) :=
  (s.ofTopic topic).map fun k => (k, n)

/-- Who is to be told of an event, and what: the subscribers of topics of what there is to tell, and those
whose patterns select the event. -/
def toTellOf (ask : String → Value → Except Fault Value) (schema : Schema) (e : Event) :
    List (Subscriber × Notice) :=
  (e.bulletins schema).flatMap (fun b => s.toTell b.1 b.2) ++
    (s.ofEvents.filterMap (EventPattern.chooses ask e)).map fun k => (k, .event e)

end Subscriptions

/-! ## Tellings -/

variable (host) in
/-- After an offer the others are made, whatever becomes of it; a fault is logged. -/
theorem hub_deliverSelected_cons (e : Event) (o : Nat × EventPattern × Subscriber)
    (rest : List (Nat × EventPattern × Subscriber)) (h : Hub α) : ∃ lines,
      (outcome (deliverSelected host e (o :: rest)) h).2 =
        (outcome (deliverSelected host e rest)
          { (outcome (offer host e o.2.1 o.2.2) h).2 with log := lines }).2 := by
  obtain ⟨id, pattern, x⟩ := o
  rw [deliverSelected, outcome_bind_ok (outcome_attempt _ h)]
  cases (outcome (offer host e pattern x) h).1 with
  | ok _ => exact ⟨(outcome (offer host e pattern x) h).2.log, rfl⟩
  | error fault => exact ⟨_, congrArg Prod.snd (outcome_bind_ok (outcome_log rfl _ _ _))⟩

/-- A relation of hubs that adds up who is told what. Hubs that are ready have the subscriptions and stay
ready. Lines of the log tell nobody, and what a subscriber does that is told adds no more than that it was
told. -/
structure Telling (host : Host α) (s : Subscriptions) (ready : Hub α → Prop)
    (adds : List (Subscriber × Notice) → Hub α → Hub α → Prop) : Prop where
  subscriptions : ∀ {h}, ready h → h.bus.subscriptions = s
  keeps : ∀ {told h h'}, adds told h h' → ready h → ready h'
  log : ∀ h lines, adds [] h { h with log := lines }
  trans : ∀ {told more h h₁ h₂}, adds told h h₁ → adds more h₁ h₂ → adds (told ++ more) h h₂
  each : ∀ x ∈ s.entries, ∀ n h, adds [(x.subscriber, n)] h (outcome (host.receive x.subscriber n) h).2

namespace Telling

variable {ready : Hub α → Prop} {adds : List (Subscriber × Notice) → Hub α → Hub α → Prop}
  (ht : Telling host s ready adds)
include ht

theorem nobody (h : Hub α) : adds [] h h := ht.log h h.log

/-- A notice that is announced under a topic is told to those subscribed to it. -/
theorem announce (hr : ready h) (topic : String) (n : Notice) :
    adds (s.toTell topic n) h (outcome (announce host topic n) h).2 := by
  have hone : ∀ x ∈ s.ofTopic topic, ∀ h, adds [(x, n)] h (outcome (host.receive x n) h).2 := by
    intro x hx h
    obtain ⟨e, he, -, rfl⟩ := Subscriptions.mem_ofTopic.1 hx
    exact ht.each e he n h
  have hall := deliver_adds ht.log ht.trans topic hone h
  rw [← List.map_eq_flatMap] at hall
  rw [outcome_announce, ht.subscriptions hr]
  exact hall

/-- An event is told to a subscriber that it is offered to, if the pattern selects it. -/
theorem offer (e : Event) {o : Nat × EventPattern × Subscriber} (ho : o ∈ s.ofEvents) (h : Hub α) :
    adds ((EventPattern.chooses host.app.ask e o).toList.map fun k => (k, .event e)) h
      (outcome (offer host e o.2.1 o.2.2) h).2 := by
  obtain ⟨id, pattern, x⟩ := o
  rw [EventHub.offer, outcome_bind, outcome_ofExcept, EventPattern.chooses]
  dsimp only
  cases pattern.selects host.app.ask e with
  | error fault => exact ht.nobody h
  | ok selected =>
    cases selected with
    | false => exact ht.nobody h
    | true => exact ht.each _ (Subscriptions.mem_ofEvents.1 ho) (.event e) h

/-- An event is offered to one pattern after the other. -/
theorem deliverSelected (e : Event) {offers : List (Nat × EventPattern × Subscriber)}
    (ho : ∀ o ∈ offers, o ∈ s.ofEvents) (h : Hub α) :
    adds ((offers.filterMap (EventPattern.chooses host.app.ask e)).map fun k => (k, .event e)) h
      (outcome (deliverSelected host e offers) h).2 := by
  induction offers generalizing h with
  | nil => exact ht.nobody h
  | cons o rest ih =>
    obtain ⟨lines, hd⟩ := hub_deliverSelected_cons host e o rest h
    have hrest := ih (fun o' ho' => ho o' (List.mem_cons_of_mem o ho'))
      { (outcome (EventHub.offer host e o.2.1 o.2.2) h).2 with log := lines }
    have htold : (o :: rest).filterMap (EventPattern.chooses host.app.ask e) =
        (EventPattern.chooses host.app.ask e o).toList ++
          rest.filterMap (EventPattern.chooses host.app.ask e) := by
      rw [List.filterMap_cons]
      cases EventPattern.chooses host.app.ask e o <;> rfl
    rw [hd, htold, List.map_append]
    exact ht.trans (ht.offer e (ho o List.mem_cons_self) h) (ht.trans (ht.log _ lines) hrest)

/-- A line of the log before what is told. -/
theorem logged {told : List (Subscriber × Notice)} {t : Task α Unit}
    (htold : ∀ h, ready h → adds told h (outcome t h).2) (hr : ready h) (text : String) :
    adds told h (outcome (do Task.log .warning busPart text; t) h).2 := by
  have hlog := ht.log h (⟨.warning, busPart, text⟩ :: h.log)
  rw [outcome_bind_ok (outcome_log rfl busPart text h)]
  exact ht.trans hlog (htold _ (ht.keeps hlog hr))

/-- What was new in an event is told. -/
theorem announceChange (hr : ready h) (e : Event) (change : SchemaChange) :
    adds ((change.bulletins e).flatMap fun b => s.toTell b.1 b.2) h
      (outcome (announceChange host e change) h).2 := by
  have hfields (h : Hub α) (hr : ready h) : adds
      (((if change.newFields.isEmpty then [] else
        [(Topic.fieldsDiscovered, .fieldsDiscovery ⟨e.type, change.newFields, e.timestamp⟩)] :
          List (String × Notice))).flatMap fun b => s.toTell b.1 b.2) h
      (outcome (EventHub.announceChange host e ⟨false, change.newFields⟩) h).2 := by
    rw [announceChange_false]
    split
    · exact ht.nobody h
    · rw [List.flatMap_singleton]
      exact ht.logged (fun h hr => ht.announce hr _ _) hr _
  obtain ⟨newType, newFields⟩ := change
  cases newType with
  | false => exact hfields h hr
  | true =>
    rw [SchemaChange.bulletins, if_pos rfl, List.flatMap_append, List.flatMap_singleton,
      announceChange_true]
    refine ht.logged (fun h hr => ?_) hr _
    have htype := ht.announce hr Topic.typeDiscovered (.typeDiscovery ⟨e.type, e.timestamp, e.data⟩)
    rw [outcome_bind_ok (outcome_announce_ok _ _ _)]
    exact ht.trans htype (hfields _ (ht.keeps htype hr))

/-- An event is told to those subscribed to its topics, and then to those whose patterns select it. -/
theorem tellEvent (hr : ready h) (e : Event) :
    adds (((eventTopics e).map fun topic => (topic, Notice.event e)).flatMap
        (fun b => s.toTell b.1 b.2) ++
      (s.ofEvents.filterMap (EventPattern.chooses host.app.ask e)).map fun k => (k, .event e)) h
      (outcome (tellEvent host e) h).2 := by
  have hone {h : Hub α} (hr : ready h) (topic : String) := ht.announce hr topic (.event e)
  have hevent := hone hr Topic.event
  have hready₁ := ht.keeps hevent hr
  have htype := hone hready₁ (Topic.ofType e.type)
  have hready₂ := ht.keeps htype hready₁
  have hsource := hone hready₂ (Topic.ofSource e.source e.type)
  have hready₃ := ht.keeps hsource hready₂
  rw [EventHub.tellEvent, outcome_bind_ok (outcome_announce_ok _ _ _),
    outcome_bind_ok (outcome_announce_ok _ _ _), outcome_bind_ok (outcome_announce_ok _ _ _),
    outcome_bind_ok (outcome_get _), ht.subscriptions hready₃]
  have hoffers (h : Hub α) := ht.deliverSelected e (fun _ ho => ho) h
  have hall := ht.trans (ht.trans hevent (ht.trans htype hsource)) (hoffers _)
  simpa [eventTopics] using hall

/-- An event that is dispatched is told to everyone it is to be told to, beginning when it was observed. -/
theorem dispatch (ho : h.outages = []) {e : Event} (hr : ready (h.observed e)) : ∃ h',
    outcome (dispatchEvent host e) h = (.ok (), h') ∧
      adds (s.toTellOf host.app.ask h.bus.schema e) (h.observed e) h' := by
  have hchange := ht.announceChange hr e (h.bus.schema.observe e.type e.data).1
  have htell := ht.tellEvent (ht.keeps hchange hr) e
  have hrun := outcome_dispatchEvent ho (outcome_announceChange_ok host e _ (h.observed e))
  rw [outcome_tellEvent_ok] at hrun
  refine ⟨_, hrun, ?_⟩
  rw [Subscriptions.toTellOf, Event.bulletins, List.flatMap_append, List.append_assoc]
  exact ht.trans hchange htell

end Telling

end EventHub
