import EventHub.Proofs.Bus.Telling

/-!
# What subscribers find

Subscribers that may do anything but change subscriptions and have subscribers called. Every call of one is
noted with the bus that it found and the bus that it left.

* **Notes** (`Call`, `noting`): a receiver whose calls are noted.
* **Chains** (`Chained`): a call finds what the call before it left, since nothing between two calls changes
  the bus.
* **News** (`Schema.meetsNew`): whether an event has fields that are new to its type.
* `publishEvent_calls`: who is called when an event is published, in what order, and what they find. A
  history without room does not keep the event (`publishEvent_without_room`).
-/

namespace EventHub

open EventHub.Task

variable {σ : Type}

/-! ## Notes -/

/-- A call of a subscriber with a notice: the bus that the call found, the bus that it left, and whether it
returned. -/
structure Call where
  subscriber : Subscriber
  notice : Notice
  found : Bus
  left : Bus
  returned : Bool

/-- Who was called, and with what. -/
def Call.told (c : Call) : Subscriber × Notice := (c.subscriber, c.notice)

/-- A state and the calls that were made, oldest first. -/
structure Logbook (σ : Type) where
  state : σ
  calls : List Call

/-- Receives as the receiver does, and notes the call. -/
def noting (receive : Receive (Logbook σ)) : Receive (Logbook σ) := fun s n => do
  let found := (← get).bus
  let r ← Task.attempt (receive s n)
  modify fun h =>
    { h with host := { h.host with calls := h.host.calls ++ [⟨s, n, found, h.bus, r.isOk⟩] } }
  Task.ofExcept r

theorem outcome_noting (receive : Receive (Logbook σ)) (s : Subscriber) (n : Notice)
    (h : Hub (Logbook σ)) : outcome (noting receive s n) h =
      let run := outcome (receive s n) h
      (run.1, { run.2 with host := { run.2.host with
        calls := run.2.host.calls ++ [⟨s, n, h.bus, run.2.bus, run.1.isOk⟩] } }) := by
  unfold noting
  rw [outcome_bind_ok (outcome_get h), outcome_bind_ok (outcome_attempt _ _),
    outcome_bind_ok (outcome_modify _ _), outcome_ofExcept]

/-- The subscribers may do anything, and raise, but they change no subscriptions, and nobody is called by
what they do. -/
def Undisturbing (receive : Receive (Logbook σ)) : Prop := ∀ s n h,
  (outcome (receive s n) h).2.bus.subscriptions = h.bus.subscriptions ∧
    (outcome (receive s n) h).2.host.calls = h.host.calls

/-! ## Chains -/

/-- The first call found the first bus, each later one what the one before it left, and the last left the
last bus. -/
def Chained : Bus → List Call → Bus → Prop
  | b, [], b' => b' = b
  | b, c :: rest, b' => c.found = b ∧ Chained c.left rest b'

theorem Chained.append {b b₁ b₂ : Bus} {calls later : List Call} (h : Chained b calls b₁)
    (h' : Chained b₁ later b₂) : Chained b (calls ++ later) b₂ := by
  induction calls generalizing b with
  | nil =>
    obtain rfl : b₁ = b := h
    exact h'
  | cons c rest ih => exact ⟨h.1, ih h.2⟩

/-- The history with its counters, and the schema. -/
def Bus.account (b : Bus) : History × Schema := (b.history, b.schema)

/-- A call finds the account that there was at first, if the calls before it left it alone. -/
theorem Chained.account_found {b b' : Bus} {before after : List Call} {c : Call}
    (h : Chained b (before ++ c :: after) b')
    (hleft : ∀ d ∈ before, d.left.account = d.found.account) : c.found.account = b.account := by
  induction before generalizing b with
  | nil => exact congrArg Bus.account h.1
  | cons d rest ih =>
    obtain ⟨hfound, hrest⟩ := h
    have hd := hleft d List.mem_cons_self
    rw [ih hrest fun d' hd' => hleft d' (List.mem_cons_of_mem d hd'), hd, hfound]

/-- What happens leaves the subscriptions, and notes calls that are chained. -/
def Hub.Notes (told : List (Subscriber × Notice)) (h h' : Hub (Logbook σ)) : Prop :=
  h'.bus.subscriptions = h.bus.subscriptions ∧ ∃ calls, h'.host.calls = h.host.calls ++ calls ∧
    calls.map Call.told = told ∧ Chained h.bus calls h'.bus

/-- Everyone who is told is noted. -/
theorem Undisturbing.telling {receive : Receive (Logbook σ)} (hq : Undisturbing receive)
    (app : Application (Logbook σ)) (s : Subscriptions) :
    Telling ⟨app, noting receive⟩ s (fun h => h.bus.subscriptions = s) Hub.Notes where
  subscriptions hs := hs
  keeps hn hs := hn.1.trans hs
  log h _ := ⟨rfl, [], (List.append_nil _).symm, rfl, rfl⟩
  trans := by
    rintro told more h h₁ h₂ ⟨hs, calls, hcalls, rfl, hchain⟩ ⟨hs', later, hlater, rfl, hchain'⟩
    exact ⟨hs'.trans hs, calls ++ later, by rw [hlater, hcalls, List.append_assoc], List.map_append,
      hchain.append hchain'⟩
  each x _ n h := by
    obtain ⟨hs, hcalls⟩ := hq x.subscriber n h
    rw [outcome_noting]
    exact ⟨hs, [⟨x.subscriber, n, h.bus, _, _⟩], congrArg (· ++ _) hcalls, rfl, rfl, rfl⟩

/-! ## News -/

/-- Is the type of the event known, and has the event a field that the type did not have? -/
def Schema.meetsNew (schema : Schema) (e : Event) : Bool :=
  schema.isKnown e.type && (Assoc.keys e.data).any fun name => !(schema.membersFor e.type).contains name

theorem Schema.newType_observe (schema : Schema) (e : Event) :
    (schema.observe e.type e.data).1.newType = !schema.isKnown e.type := by
  rw [observe, isKnown, Assoc.has]
  cases Assoc.get? schema.members e.type <;> rfl

theorem Schema.isEmpty_newFields_observe (schema : Schema) (e : Event) :
    (schema.observe e.type e.data).1.newFields.isEmpty = !schema.meetsNew e := by
  rw [observe, meetsNew, isKnown, Assoc.has, membersFor]
  cases Assoc.get? schema.members e.type with
  | none => rfl
  | some members =>
    dsimp only
    rw [Bool.eq_iff_iff, List.isEmpty_iff, KnownFields.extend_eq_nil]
    simp

/-- What was observed of an event is known of its type. -/
theorem Schema.mem_membersFor_observe (schema : Schema) (e : Event) {name : String}
    (hn : name ∈ Assoc.keys e.data) :
    name ∈ (schema.observe e.type e.data).2.membersFor e.type := by
  rw [observe]
  cases Assoc.get? schema.members e.type with
  | none => rwa [membersFor_put_self]
  | some members =>
    dsimp only
    rw [membersFor_put_self, KnownFields.mem_members_extend]
    exact .inr hn

/-- The newest event is in a history that has room for any. -/
theorem History.getLast?_record {history : History} (hc : history.capacity ≠ some 0) (e : Event) :
    (history.record e).events.getLast? = some e := by
  change (fit history.capacity (history.events ++ [e])).getLast? = some e
  cases hcapacity : history.capacity with
  | none => simp [fit]
  | some n =>
    have hn : n ≠ 0 := fun he => hc (he ▸ hcapacity)
    rw [fit, lastItems, List.getLast?_drop, List.length_append, List.length_singleton,
      if_neg (by omega)]
    simp

/-! ## Dispatch -/

/-- Who is to be told of an event, phase by phase. -/
theorem Subscriptions.toTellOf_eq (s : Subscriptions) (ask : String → Value → Except Fault Value)
    (schema : Schema) (e : Event) : s.toTellOf ask schema e =
      (if schema.isKnown e.type then [] else
        s.toTell Topic.typeDiscovered (.typeDiscovery ⟨e.type, e.timestamp, e.data⟩)) ++
      (if schema.meetsNew e then s.toTell Topic.fieldsDiscovered
        (.fieldsDiscovery ⟨e.type, (schema.observe e.type e.data).1.newFields, e.timestamp⟩) else []) ++
      s.toTell Topic.event (.event e) ++ s.toTell (Topic.ofType e.type) (.event e) ++
      s.toTell (Topic.ofSource e.source e.type) (.event e) ++
      (s.ofEvents.filterMap (EventPattern.chooses ask e)).map fun k => (k, .event e) := by
  rw [toTellOf, Event.bulletins, SchemaChange.bulletins, schema.newType_observe,
    schema.isEmpty_newFields_observe, eventTopics]
  cases schema.isKnown e.type <;> cases schema.meetsNew e <;> simp

/-- What cannot be made an event is an invalid event. -/
theorem normalizeEvent_error {raw : Definition Event} {h : Hub σ} {fault : Fault}
    (hn : (outcome (normalizeEvent raw) h).1 = .error fault) :
    ∃ problem, fault = .invalidEvent problem := by
  have hfields {v : Value} (hv : rawEventFields v = .error fault) :
      ∃ problem, fault = .invalidEvent problem := by
    unfold rawEventFields at hv
    split at hv
    · split at hv
      · cases hv
      · exact ⟨_, (Except.error.inj hv).symm⟩
    · exact ⟨_, (Except.error.inj hv).symm⟩
  have hevent {id : String} {fields : Fields} (hv : eventOfFields id fields = .error fault) :
      ∃ problem, fault = .invalidEvent problem := by
    unfold eventOfFields at hv
    split at hv
    · cases hv
    · exact ⟨_, (Except.error.inj hv).symm⟩
  -- A document fails where its fields are read, or where they are checked, under an id given or drawn.
  cases raw with
  | checked e => cases hn
  | document v =>
    rw [normalizeEvent, outcome_bind, outcome_ofExcept] at hn
    cases hv : rawEventFields v with
    | error problem =>
      rw [hv] at hn
      cases hn
      exact hfields hv
    | ok fields =>
      rw [hv] at hn
      dsimp only at hn
      split at hn
      · rw [outcome_bind_ok (t := Task.freshId "event") rfl, outcome_ofExcept] at hn
        exact hevent hn
      · rw [outcome_bind_ok (outcome_pure _ _), outcome_ofExcept] at hn
        exact hevent hn

/-- Publishing a valid event to a bus that is not started never fails, whatever the subscribers do that
disturb neither subscriptions nor calls. Called are, each once for each subscription, in order: those
subscribed to discoveries of types, if the type is not known; those subscribed to discoveries of fields, if
the type is known and the event has a field that is new to it; those subscribed to all events, to the type,
and to the source; and those whose patterns select the event. Who is called while those called before have
left history and schema alone finds the history with the event recorded, and the schema with its fields. If
the history has room for any event, this one is the newest. What cannot be made an event is refused, and at
most an id was drawn. -/
theorem publishEvent_calls (app : Application (Logbook σ)) {receive : Receive (Logbook σ)}
    (hq : Undisturbing receive) {h : Hub (Logbook σ)} (ho : h.outages = []) (hr : h.bus.running = false)
    (raw : Definition Event) :
    let host : Host (Logbook σ) := ⟨app, noting receive⟩
    let s := h.bus.subscriptions
    (∀ fault h', outcome (publishEvent host raw) h = (.error fault, h') →
      (∃ problem, fault = .invalidEvent problem) ∧ ∃ serial, h' = { h with serial }) ∧
    ∀ e, (outcome (normalizeEvent raw) h).1 = .ok e → ∃ h' calls,
      outcome (publishEvent host raw) h = (.ok e, h') ∧ h'.host.calls = h.host.calls ++ calls ∧
      calls.map Call.told =
        (if h.bus.schema.isKnown e.type then [] else
          s.toTell Topic.typeDiscovered (.typeDiscovery ⟨e.type, e.timestamp, e.data⟩)) ++
        (if h.bus.schema.meetsNew e then s.toTell Topic.fieldsDiscovered (.fieldsDiscovery
          ⟨e.type, (h.bus.schema.observe e.type e.data).1.newFields, e.timestamp⟩) else []) ++
        s.toTell Topic.event (.event e) ++ s.toTell (Topic.ofType e.type) (.event e) ++
        s.toTell (Topic.ofSource e.source e.type) (.event e) ++
        ((s.ofEvents.filterMap (EventPattern.chooses app.ask e)).map fun k => (k, .event e)) ∧
      ∀ before c after, calls = before ++ c :: after →
        (∀ d ∈ before, d.left.account = d.found.account) →
        c.found.history = h.bus.history.record e ∧
        c.found.schema = (h.bus.schema.observe e.type e.data).2 ∧
        (∀ name ∈ Assoc.keys e.data, name ∈ c.found.schema.membersFor e.type) ∧
        (h.bus.history.capacity ≠ some 0 → c.found.history.events.getLast? = some e) := by
  intro host s
  -- Making the event draws at most an id: all that follows begins at a hub that differs in the serial
  -- only.
  obtain ⟨serial, hserial⟩ := normalizeEvent_hub raw h
  have hinline : ¬ ({ h with serial } : Hub (Logbook σ)).bus.running = true := by simp [hr]
  cases hn : outcome (normalizeEvent raw) h with
  | mk r h₁ =>
  obtain rfl : h₁ = { h with serial } := by rw [← hserial, hn]
  cases r with
  | error fault =>
    have hrun : outcome (publishEvent host raw) h = (.error fault, { h with serial }) :=
      outcome_bind_error hn
    refine ⟨fun fault' h' hp => ?_, fun e he => nomatch he⟩
    rw [hrun] at hp
    cases hp
    exact ⟨normalizeEvent_error (congrArg Prod.fst hn), serial, rfl⟩
  | ok e =>
    -- The bus is not started, so the event is dispatched at once, and the dispatch tells what `toTellOf`
    -- lists.
    obtain ⟨h', hdispatch, -, calls, hcalls, htold, hchain⟩ :=
      (hq.telling app s).dispatch (h := { h with serial }) (e := e) ho rfl
    have hrun : outcome (publishEvent host raw) h = (.ok e, h') := by
      rw [publishEvent, outcome_bind_ok hn, outcome_bind_ok (outcome_get _), if_neg hinline,
        outcome_bind_ok hdispatch]
      rfl
    refine ⟨fun fault h' hp => ?_, fun e' he => ?_⟩
    · rw [hrun] at hp
      cases hp
    · cases he
      refine ⟨h', calls, hrun, hcalls, htold.trans (s.toTellOf_eq app.ask h.bus.schema e), ?_⟩
      -- The calls before this one hand its account on, from the record that the dispatch began with.
      rintro before c after rfl hleft
      obtain ⟨hhistory, hschema⟩ := Prod.mk.inj (hchain.account_found hleft)
      refine ⟨hhistory, hschema, fun name hname => ?_, fun hc => ?_⟩
      · rw [hschema]
        exact h.bus.schema.mem_membersFor_observe e hname
      · rw [hhistory]
        exact History.getLast?_record hc e

/-- Motion at a camera. -/
def cameraMotion : Event := ⟨"e1", "motion", "cam", "2024-01-01T00:00:00", [("zone", .text "z1")], []⟩

/-- A bus with room for so many events, whose subscribers are told of new types, of all events, and of
events that patterns select. -/
def Hub.attended (room : Option Nat) : Hub (Logbook Unit) :=
  { Hub.atMidnight ⟨(), []⟩ with
    bus := { Bus.unbounded with
      history := .empty room
      subscriptions := ⟨[⟨1, .topic Topic.typeDiscovered, .client 1⟩, ⟨2, .topic Topic.event, .client 2⟩,
        ⟨3, .events (.function "armed"), .client 3⟩, ⟨4, .events (.name "cam"), .client 4⟩], 5⟩ } }

/-- Functions all of which raise. -/
def Application.raising : Application (Logbook Unit) where
  ask _ _ := .error (.raised .runtime "no")
  act _ _ _ _ := throw (.raised .runtime "no")
  serve _ _ _ := throw (.raised .runtime "no")

/-- The second subscriber raises, and the others do nothing. -/
def secondRaises : Receive (Logbook Unit)
  | .client 2, _ => throw (.raised .runtime "no")
  | _, _ => return ()

theorem secondRaises_undisturbing : Undisturbing secondRaises := by
  intro s n h
  unfold secondRaises
  split <;> exact ⟨rfl, rfl⟩

/-- The first, the second and the last subscriber are called, and find the event. -/
theorem publishEvent_calls_attended : ∃ h' calls,
    outcome (publishEvent ⟨.raising, noting secondRaises⟩ (.checked cameraMotion)) (Hub.attended none) =
      (.ok cameraMotion, h') ∧ h'.host.calls = [] ++ calls ∧
    calls.map Call.told = [(.client 1, .typeDiscovery ⟨"motion", "2024-01-01T00:00:00", cameraMotion.data⟩),
      (.client 2, .event cameraMotion), (.client 4, .event cameraMotion)] ∧
    ∀ c rest, calls = c :: rest → c.found.history.events.getLast? = some cameraMotion := by
  obtain ⟨-, hpublished⟩ := publishEvent_calls .raising secondRaises_undisturbing
    (h := Hub.attended none) rfl rfl (.checked cameraMotion)
  obtain ⟨h', calls, hrun, hcalls, htold, hfound⟩ := hpublished cameraMotion rfl
  refine ⟨h', calls, hrun, hcalls, htold, fun c rest hc => ?_⟩
  exact (hfound [] c rest hc (by simp)).2.2.2 (by decide)

/-- The first subscriber takes the events up to now out of the history. -/
def firstClears : Receive (Logbook Unit)
  | .client 1, _ => discard (clearOldEvents (.int 0))
  | _, _ => return ()

theorem clearOldEvents_undisturbing (maxAge : Value) (h : Hub (Logbook σ)) :
    (outcome (clearOldEvents maxAge) h).2.bus.subscriptions = h.bus.subscriptions ∧
      (outcome (clearOldEvents maxAge) h).2.host.calls = h.host.calls := by
  rw [clearOldEvents, outcome_bind_ok (outcome_get h), outcome_bind, outcome_ofExcept]
  cases (do Time.instantBefore h.now (← Time.spanOf maxAge) : Except Fault Int) with
  | error fault => exact ⟨rfl, rfl⟩
  | ok cutoff =>
    dsimp only
    rw [modifyBus, outcome_bind_ok (outcome_modify _ _)]
    split <;> exact ⟨rfl, rfl⟩

theorem firstClears_undisturbing : Undisturbing firstClears := by
  intro s n h
  unfold firstClears
  split
  · rw [hub_discard]
    exact clearOldEvents_undisturbing _ h
  · exact ⟨rfl, rfl⟩

/-- The subscribers that are called when the event is published, each with the number of events that it
finds in the history. -/
def eventsFound (receive : Receive (Logbook Unit)) (h : Hub (Logbook Unit)) : List (Subscriber × Nat) :=
  (outcome (publishEvent ⟨.raising, noting receive⟩ (.checked cameraMotion)) h).2.host.calls.map fun c =>
    (c.subscriber, c.found.history.events.length)

/-- A history without room has lost the event when the subscribers are called. So has a history with room
when a subscriber was called that cleared it. -/
theorem publishEvent_without_room :
    (Undisturbing secondRaises ∧ eventsFound secondRaises (Hub.attended (some 0)) =
      [(.client 1, 0), (.client 2, 0), (.client 4, 0)]) ∧
    Undisturbing firstClears ∧ eventsFound firstClears (Hub.attended none) =
      [(.client 1, 1), (.client 2, 0), (.client 4, 0)] :=
  ⟨⟨secondRaises_undisturbing, by decide +kernel⟩, firstClears_undisturbing, by decide +kernel⟩

end EventHub
