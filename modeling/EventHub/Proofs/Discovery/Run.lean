import EventHub.Proofs.Discovery.Dispatch
import EventHub.Proofs.Hub.Start
import EventHub.Proofs.Rules.Selection

/-!
# Discovery over a run

* **Policies** (`RunPolicy.sparing`): runs in which nobody names the id of the rule of an event type.
  The calls of the registry heed this (`RegistryCall.heeds_sparing`).
* **Starts** (`Hub.Fresh.tracks_start`) and **calls** (`Hub.Tracks.call`): the book tracks the schema
  when the hub has started, and still does after every call.
* **Runs** (`HubRun.discovered`): so in every hub of a run there is one rule for every known type, and
  it knows the fields after those of the first event of the type.

No function of the application may publish events: the hub adds new fields to the rules of a type one
after the other, to copies that it took of them before, and a function that is told of the first of these
updates may publish an event with another field. The hub adds that field to all of the rules, and then
writes the second of the copies over what has been added to it (`HubRun.discovered_overwritten`).
-/

namespace EventHub

open EventHub.Task

variable {α : Type} {app : Application α} {host : Host α} {h h' : Hub α} {seen : List Event}

/-! ## Policies -/

/-- No id of the rule of an event type is named, and no event has a field twice. -/
def RunPolicy.sparing : RunPolicy where
  names id := ¬ IsAutoId id
  events e := (Assoc.keys e.data).Nodup

/-- Definitions that name none of those ids are registered under none of them. -/
theorem IdPolicy.sparing_heededBy {d : Definition Rule} (hd : d.Names RunPolicy.sparing.names)
    (h : Hub α) : IdPolicy.sparing.HeededBy d h := fun r hr =>
  ⟨hd _ r hr, fun hn => not_isAutoId_drawnRuleId hn⟩

theorem IdPolicy.sparing_heededByAll {definitions : List (Definition Rule)}
    (hd : ∀ d ∈ definitions, d.Names RunPolicy.sparing.names) (h : Hub α) :
    IdPolicy.sparing.HeededByAll host definitions h := by
  induction definitions generalizing h with
  | nil => trivial
  | cons d rest ih =>
    exact ⟨IdPolicy.sparing_heededBy (hd d List.mem_cons_self) h, fun _ h' _ =>
      ih (fun d hd' => hd d (List.mem_cons_of_mem _ hd')) h'⟩

theorem RegistryCall.heeds_sparing {c : RegistryCall} (hc : c.Names RunPolicy.sparing.names)
    (h : Hub α) : c.Heeds .sparing host h := by
  cases c with
  | register d => exact IdPolicy.sparing_heededBy hc h
  | load definitions => exact IdPolicy.sparing_heededByAll hc h
  | update | setEnabled | delete => exact hc

/-! ## Subscriptions -/

/-- What others subscribe to is of no account. -/
theorem Hub.Tracks.withSubscriptions (hh : h.Tracks seen) {s : Subscriptions}
    (ha : ∀ e ∈ s.entries, e.Apt) (ho : s.own = h.bus.subscriptions.own) :
    Tracks seen { h with bus := { h.bus with subscriptions := s } } := by
  obtain ⟨types, fields, events, hown, hlisteners⟩ := hh.listening
  exact ⟨⟨⟨hh.steady.inOrder, hh.steady.outlet, ha⟩, hh.keyed,
    types, fields, events, ho.trans hown, hlisteners⟩, hh.types, hh.agrees, hh.waiting⟩

theorem Hub.Tracks.subscribed (hh : h.Tracks seen) (channel : Channel) {s : Subscriber}
    (hs : s.Foreign) : Tracks seen
      { h with bus := { h.bus with subscriptions := (h.bus.subscriptions.add channel s).2 } } := by
  refine hh.withSubscriptions (Subscriptions.apt_add hh.steady.apt fun _ => .of_foreign hs) ?_
  simp [Subscriptions.own, Subscriptions.add, hs]

theorem Hub.Tracks.unsubscribed (hh : h.Tracks seen) {id : Nat} (hid : id ∉ h.flows.listeners) :
    Tracks seen
      { h with bus := { h.bus with subscriptions := (h.bus.subscriptions.remove id).2 } } := by
  obtain ⟨types, fields, events, hown, hlisteners⟩ := hh.listening
  have hfilter : (h.bus.subscriptions.remove id).2.own =
      h.bus.subscriptions.own.filter fun e => e.id != id := by
    rw [Subscriptions.own, Subscriptions.own, Subscriptions.remove, List.filter_filter,
      List.filter_filter]
    exact List.filter_congr fun e _ => Bool.and_comm _ _
  refine hh.withSubscriptions (Subscriptions.apt_remove hh.steady.apt id) ?_
  rw [hfilter, List.filter_eq_self]
  intro e he
  rw [hlisteners] at hid
  rw [hown] at he
  simp only [List.mem_cons, List.not_mem_nil, or_false, not_or] at he hid
  obtain ⟨htypes, hfields, hevents⟩ := hid
  rcases he with rfl | rfl | rfl
  · simpa using Ne.symm htypes
  · simpa using Ne.symm hfields
  · simpa using Ne.symm hevents

/-! ## Starts -/

/-- A fresh hub that listens tracks the schema: nothing was seen, and there are no rules. -/
theorem Hub.Fresh.tracks_listening (hh : h.Fresh) (actions : List (String × EngineHandler)) :
    (h.listening actions).Tracks [] where
  steady :=
    { inOrder := hh.inOrder
      outlet := hh.outlet
      apt := by
        intro s hs
        simp only [Hub.listening, hh.subscriptions, Subscriptions.none, Subscriptions.add,
          List.nil_append, List.cons_append, List.mem_cons, List.not_mem_nil, or_false] at hs
        rcases hs with rfl | rfl | rfl <;> rfl }
  keyed := by
    change h.engine.book.Keyed
    rw [hh.rules]
    exact .empty
  listening := by
    refine ⟨1, 2, 3, ?_, ?_⟩ <;>
      simp [Hub.listening, hh.subscriptions, Subscriptions.none, Subscriptions.add,
        Subscriptions.own, Subscriber.Foreign]
  types t := by
    change h.engine.book.TracksAt t none (Assoc.get? h.bus.schema.order t)
    rw [hh.rules, hh.schema]
    exact .unseen rfl fun u hu => by cases hu
  agrees := by
    change h.bus.schema.Agrees
    rw [hh.schema]
    exact Schema.agrees_empty
  waiting e he := by
    change e ∈ h.bus.pending at he
    rw [hh.pending] at he
    cases he

section Runs

variable (happ : app.StaysForeign .sparing)
include happ

theorem tells_registry (depth : Nat) : ∀ topic ∈ registryTopics,
    Host.ReportsWithin ⟨app, receive app depth⟩ .sparing topic := fun topic ht =>
  have hunheard : ∀ topic ∈ registryTopics, topic ∉ listenedTopics := by decide
  (tells_sparing happ depth (hunheard topic ht)).reports

/-- Starting spares the rules of event types, when the configuration names none of their ids. -/
theorem Hub.Fresh.spares_start (fresh : h.Fresh)
    (configured : ∀ rules, h.settings.rules.toList = .ok rules →
      ∀ v ∈ rules, (Definition.ofRuleValue v).Names RunPolicy.sparing.names)
    (started : outcome (start app.host) h = (.ok (), h')) : Frame.sparing.allows
      (h.listening (sharing h.desk.available h.engine.actions)) h' := by
  have hc : Within .sparing (configure app.host h.settings) :=
    within_configure Frame.sparing_openToEdits Frame.sparing_openToFlows
      (tells_registry happ receptionDepth) (tells_sparing happ receptionDepth (by decide)).reports
      fun rules hr => IdPolicy.sparing_heededByAll fun d hd => by
        obtain ⟨v, hv, rfl⟩ := List.mem_map.1 hd
        exact configured rules hr v hv
  refine fresh.allows_start started hc (fun h lines hh => ?_) fun h₁ ha =>
    (ha (fresh.tracks_listening _).steady).1.inOrder
  exact ⟨⟨hh.inOrder, hh.outlet, hh.apt⟩, rfl, .rfl⟩

/-- A hub that has been started tracks the schema. -/
theorem Hub.Fresh.tracks_start (fresh : h.Fresh)
    (configured : ∀ rules, h.settings.rules.toList = .ok rules →
      ∀ v ∈ rules, (Definition.ofRuleValue v).Names RunPolicy.sparing.names)
    (started : outcome (start app.host) h = (.ok (), h')) : h'.Tracks [] :=
  (fresh.tracks_listening _).of_sparing (fresh.spares_start happ configured started)

/-! ## Calls -/

omit happ in
/-- The frame in which the book goes on tracking the schema while nothing is observed. -/
theorem Frame.ofTracks_free : (Frame.ofInvariant (Hub.Tracks (α := α) seen)).Free where
  log h lines hh := hh.of_sparing (Frame.sparing_free.log h lines)
  effects h e hh := hh.of_sparing (Frame.sparing_free.effects h e)
  serial h n hh := hh.of_sparing (Frame.sparing_free.serial h n)
  cache h c hh := hh.of_sparing (Frame.sparing_free.cache h c)
  deskCounters h a b c d hh := hh.of_sparing (Frame.sparing_free.deskCounters h a b c d)
  engineCounters h a b c d hh := hh.of_sparing (Frame.sparing_free.engineCounters h a b c d)

/-- A call that is none of the bus spares the rules of event types. -/
theorem HubCall.spares {c : HubCall} (hb : ¬ c.OfBus) (hc : c.Permitted .sparing h) :
    Frame.sparing.allows h (outcome (c.run app.host) h).2 := by
  have hfree := Frame.sparing_free (α := α)
  have hflows := Frame.sparing_openToFlows (α := α)
  have hacts := happ.acts receptionDepth
  have tells {topic : String} (ht : topic ∉ listenedTopics) : app.host.ReportsWithin .sparing topic :=
    (tells_sparing happ receptionDepth ht).reports
  cases c with
  | registry c =>
    exact allows_call Frame.sparing_openToEdits (tells_registry happ receptionDepth)
      (RegistryCall.heeds_sparing hc h)
  | executeRule r e ctx =>
    exact Within.discard
      (within_executeRule hfree hacts (tells (by decide)) (tells (by decide)) r e ctx) h
  | processEvent raw ctx =>
    exact Within.discard
      (within_processEvent hfree hacts (tells (by decide)) (tells (by decide)) raw ctx) h
  | createFlow d => exact Within.discard (within_createFlow hfree hflows (tells (by decide)) d) h
  | updateFlow id updates =>
    exact Within.discard (within_updateFlow hfree hflows (tells (by decide)) id updates) h
  | deleteFlow id => exact within_deleteFlow hfree hflows (tells (by decide)) id h
  | executeFlow id input =>
    exact Within.discard (within_executeFlow hfree hflows hacts (tells (by decide)) (tells (by decide))
      (tells (by decide)) id input) h
  | _ => exact absurd trivial hb

/-- After every call the book tracks the schema, with what the call made the hub observe. -/
theorem Hub.Tracks.call (hh : h.Tracks seen) {c : HubCall} (hc : c.Permitted .sparing h) :
    (outcome (c.run app.host) h).2.Tracks (seen ++ c.observed h) := by
  have hnone (ho : c.observed h = []) (hh' : (outcome (c.run app.host) h).2.Tracks seen) :
      (outcome (c.run app.host) h).2.Tracks (seen ++ c.observed h) := by
    rwa [ho, List.append_nil]
  have hqueue (h : Hub α) (running : Bool) (hh : h.Tracks seen) :
      Hub.Tracks seen { h with bus := { h.bus with running } } :=
    hh.withQueue hh.waiting h.bus.busy running
  cases c with
  | publish raw =>
    rw [HubCall.run, hub_discard]
    exact hh.publish happ (receptionDepth - 1) hc
  | subscribe topic s => exact hnone rfl (hh.subscribed (.topic topic) hc)
  | subscribeEvents pattern s => exact hnone rfl (hh.subscribed (.events pattern) hc)
  | unsubscribe id => exact hnone rfl (hh.unsubscribed hc)
  | startBus => exact hnone rfl (within_startBus Frame.ofTracks_free hqueue h hh)
  | stopBus => exact hnone rfl (within_stopBus Frame.ofTracks_free hqueue h hh)
  | drain n =>
    obtain ⟨h', hrun, hh'⟩ := hh.drain happ (receptionDepth - 1) n
    have hd : outcome ((HubCall.drain n).run app.host) h = (.ok (), h') := hrun
    rw [hd]
    exact hh'
  | _ => exact hnone rfl (hh.of_sparing (HubCall.spares happ id hc))

/-! ## Runs -/

omit happ in
/-- What happens beside the calls is of no account. -/
theorem Hub.Tracks.passes (hh : h.Tracks seen) (hp : h.Passes h') : h'.Tracks seen := by
  obtain ⟨types, fields, events, hown, hlisteners⟩ := hh.listening
  refine ⟨⟨hh.steady.passes hp, ?_, types, fields, events, ?_, ?_⟩, ?_, ?_, ?_⟩
  · rw [hp.book]
    exact hh.keyed
  · rw [hp.bus]
    exact hown
  · rw [hp.flows]
    exact hlisteners
  · rw [hp.book, hp.bus]
    exact hh.types
  · rw [hp.bus]
    exact hh.agrees
  · rw [hp.bus]
    exact hh.waiting

theorem HubRun.tracks (run : HubRun app .sparing seen h) : h.Tracks seen := by
  induction run with
  | start fresh configured started => exact fresh.tracks_start happ configured started
  | call c run permitted ih => exact ih.call happ permitted
  | pass run passes ih => exact ih.passes passes

end Runs

/-- Where no function of the application publishes events (module doc), there is in every hub of a run one
rule with the id that belongs to a type of the schema. It is for events of the type, and it knows the
fields that were discovered after the first event of the type, which the hub knows with those of that
event, each once. The action of the rule that logs carries them, if there are any. -/
theorem HubRun.discovered (happ : app.StaysForeign .sparing) (run : HubRun app .sparing seen h)
    {t : String} (ht : t ∈ h.bus.schema.eventTypes) :
    ∃ (first : Event) (r : Rule), firstOf seen t = some first ∧
      (Assoc.values h.engine.book.rules).filter (fun r => r.id == some (autoRuleId (.text t))) = [r] ∧
      r.eventTypes = [t] ∧
      h.bus.schema.fieldsFor t = Assoc.keys first.data ++ r.metadata.discoveredFields ∧
      (h.bus.schema.fieldsFor t).Nodup ∧
      ∃ logged data, r.actions.filter (·.type == "log_event") = [⟨"log_event", logged⟩] ∧
        Assoc.get? logged "data" = some (.map data) ∧
        Assoc.get? data "new_fields" =
          if r.metadata.discoveredFields = [] then none
          else some (.list (r.metadata.discoveredFields.map .text)) := by
  have htracks := run.tracks happ
  have htypes := htracks.types t
  obtain ⟨names, hnames⟩ : ∃ names, Assoc.get? h.bus.schema.order t = some names := by
    refine Option.ne_none_iff_exists'.1 fun hnone => ?_
    exact (Assoc.get?_eq_none_iff _ _).1 hnone ht
  rw [hnames] at htypes
  generalize hfirst : firstOf seen t = first at htypes
  -- The type is known, so it was seen: the rule has the form that the hub gave it, with the fields since.
  cases htypes with
  | @seen first known r distinct rule form indexed =>
    obtain ⟨logged, data, hactions, hdata, hnew, -⟩ := form.actions
    have hfields : h.bus.schema.fieldsFor t = Assoc.keys first.data ++ known := by
      rw [Schema.fieldsFor, hnames, Option.getD_some]
    refine ⟨first, r, rfl, htracks.keyed.filter_id rule, form.eventTypes, ?_, ?_, logged, data, ?_,
      hdata, ?_⟩
    · rw [hfields, form.fields]
    · rw [hfields]
      exact distinct
    · rw [hactions]
      rfl
    · rw [hnew, form.fields]
      rfl

/-- While the dispatcher does not run, an event is observed when it is published. -/
theorem HubCall.observed_publish (hr : h.bus.running = false) (e : Event) :
    (HubCall.publish (.checked e)).observed h = [e] := by
  have ho : (HubCall.publish (.checked e)).observed h = h.bus.observedBy e := rfl
  rw [ho, Bus.observedBy, hr]
  rfl

/-- Two events of a type, of which the second has a new field. -/
def plainEvent : Event := ⟨"e1", "a", "probe", "2024-01-01T00:00:00", [("x", .int 1)], []⟩

@[inherit_doc plainEvent]
def grownEvent : Event :=
  ⟨"e2", "a", "probe", "2024-01-01T00:01:00", [("x", .int 2), ("y", .int 3)], []⟩

/-- A rule of a user for the type of the events. -/
def mineRule (metadata : Fields) : Definition Rule :=
  .document (loggingRule "mine" [("event_type", .text "a")] metadata)

theorem mineRule_names (metadata : Fields) : (mineRule metadata).Names RunPolicy.sparing.names := by
  intro now r hr id hid
  have hmine : r.id = some "mine" := Definition.id_of_toRule rfl hr
  rw [hmine] at hid
  rintro ⟨t, ht⟩
  rw [autoRuleId_text, ← Option.some.inj hid, ← String.toList_inj] at ht
  simp [String.toList_append] at ht

/-- The hub after a user has registered a rule for the type of the first event. -/
def Hub.withPlain : Hub Nat :=
  (outcome ((HubCall.registry (.register (mineRule []))).run Application.silent.host)
    (outcome ((HubCall.publish (.checked plainEvent)).run Application.silent.host) Hub.started).2).2

/-- The hub after the second event. -/
def Hub.withGrown : Hub Nat :=
  (outcome ((HubCall.publish (.checked grownEvent)).run Application.silent.host) Hub.withPlain).2

theorem Application.silent_staysForeign (F : Frame α) : Application.silent.StaysForeign F where
  act _ _ _ _ _ := Within.pure _
  serve _ _ _ _ := Within.pure _

/-- While the dispatcher does not run, publishing an event whose fields are distinct goes on with a run. -/
theorem HubRun.publish (run : HubRun app .sparing seen h) {e : Event} (he : (Assoc.keys e.data).Nodup)
    (hr : h.bus.running = false) :
    HubRun app .sparing (seen ++ [e]) (outcome ((HubCall.publish (.checked e)).run app.host) h).2 := by
  have hnext := run.call (.publish (.checked e)) fun e' he' => by
    cases he'
    exact he
  rwa [HubCall.observed_publish hr] at hnext

theorem HubRun.withGrown :
    HubRun Application.silent .sparing [plainEvent, grownEvent] Hub.withGrown := by
  have hfirst : HubRun Application.silent .sparing [plainEvent] _ :=
    (HubRun.started _ _).publish (e := plainEvent) (by decide) (by decide +kernel)
  exact (hfirst.call (.registry (.register (mineRule []))) (mineRule_names _)).publish (e := grownEvent)
    (by decide) (by decide +kernel)

theorem HubRun.discovered_withGrown : ∃ r,
    (Assoc.values Hub.withGrown.engine.book.rules).filter
      (fun r => r.id == some (autoRuleId (.text "a"))) = [r] ∧
    r.metadata.discoveredFields = ["y"] := by
  have hknown : "a" ∈ Hub.withGrown.bus.schema.eventTypes := by decide +kernel
  have hnames : Hub.withGrown.bus.schema.fieldsFor "a" = ["x", "y"] := by decide +kernel
  obtain ⟨first, r, hfirst, hrule, -, hfields, -⟩ :=
    HubRun.discovered (Application.silent_staysForeign _) HubRun.withGrown hknown
  obtain rfl : plainEvent = first := Option.some.inj hfirst
  rw [hnames] at hfields
  have hrest : ["x"] ++ ["y"] = ["x"] ++ r.metadata.discoveredFields := hfields
  exact ⟨r, hrule, (List.append_cancel_left hrest).symm⟩

/-- Another event of the type, with a field of its own. -/
def strayEvent : Event :=
  ⟨"e3", "a", "probe", "2024-01-01T00:02:00", [("x", .int 1), ("z", .int 3)], []⟩

/-- The hub after a user has registered a rule that counts as generated, after the first event, and after the
client has subscribed to updates of rules. -/
def Hub.beforeStray : Hub Nat :=
  (outcome ((HubCall.subscribe Topic.ruleUpdated (.client 0)).run (Application.straying strayEvent).host)
    (outcome ((HubCall.publish (.checked plainEvent)).run (Application.straying strayEvent).host)
      (outcome ((HubCall.registry (.register (mineRule [("autoGenerated", .bool true)]))).run
        (Application.straying strayEvent).host) Hub.started).2).2).2

/-- The hub after the second event. -/
def Hub.afterStray : Hub Nat :=
  (outcome ((HubCall.publish (.checked grownEvent)).run (Application.straying strayEvent).host) Hub.beforeStray).2

theorem HubRun.afterStray :
    HubRun (.straying strayEvent) .sparing [plainEvent, grownEvent] Hub.afterStray := by
  have hrule := (HubRun.started (.straying strayEvent) .sparing).call
    (.registry (.register (mineRule [("autoGenerated", .bool true)]))) (mineRule_names _)
  have hfirst := hrule.publish (e := plainEvent) (by decide) (by decide +kernel)
  exact (hfirst.call (.subscribe Topic.ruleUpdated (.client 0)) trivial).publish (e := grownEvent) (by decide)
    (by decide +kernel)

/-- The client is told that the rule of the user has got the field `y`, and publishes an event with `z`. The
rule of the type gets `z`, and then the copy that was taken of it before is written back with `y` alone. -/
theorem HubRun.discovered_overwritten :
    HubRun (.straying strayEvent) .sparing [plainEvent, grownEvent] Hub.afterStray ∧
    firstOf [plainEvent, grownEvent] "a" = some plainEvent ∧ Assoc.keys plainEvent.data = ["x"] ∧
    Hub.afterStray.bus.schema.fieldsFor "a" = ["x", "y", "z"] ∧
    (Assoc.get? Hub.afterStray.engine.book.rules (autoRuleId (.text "a"))).map
      (·.metadata.discoveredFields) = some ["y"] :=
  ⟨HubRun.afterStray, rfl, rfl, by decide +kernel, by decide +kernel⟩

end EventHub
