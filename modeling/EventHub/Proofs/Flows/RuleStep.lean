import EventHub.Proofs.Rules.Judgement
import EventHub.Proofs.Time.RoundTrip

/-!
# Steps that fire rules

A step that fires a rule makes an event that the rule selects, and hands it to the engine as any other.

* **The event** (`Rule.eventFor`, `ruleStepEvent_eq`): of the first type and source that the rule names,
  with the input of the flow as its data.
* **Acceptance** (`Rule.Fireable.selects_eventFor`): a rule that a step can fire selects its event where
  the input is as the rule wants it, whichever form its names have.
* **Steps** (`RegistryRun.runStep_fires`): the step runs the rules that a scan of the stored rules selects
  for the event. It tells nobody of the event and does not record it: of what the bus has seen, only
  handlers and subscribers that the rules reach change anything.
-/

namespace EventHub

open EventHub.Task

variable {α : Type} {host : Host α}

/-! ## The event -/

/-- The first of several names, or the one to use where there is none, is among those wanted. -/
theorem amongNames_headD (names : List String) (name : String) :
    amongNames names (names.headD name) = true := by
  cases names <;> simp [amongNames]

theorem headD_ne_empty {names : List String} {name : String} (hnames : ∀ n ∈ names, n ≠ "")
    (hname : name ≠ "") : names.headD name ≠ "" := by
  cases names with
  | nil => exact hname
  | cons n rest => exact hnames n List.mem_cons_self

/-- The event with which a step fires the rule. -/
def Rule.eventFor (r : Rule) (id now : String) (data metadata : Fields) : Event where
  id
  type := r.eventTypes.headD flowEventType
  source := r.sources.headD flowEventSource
  timestamp := now
  data
  metadata

/-- A step can fire the rule: it is enabled, asks no function, is bound to no time of the day, and every
type and source that it names is a name. -/
structure Rule.Fireable (r : Rule) : Prop where
  enabled : r.metadata.enabled = true
  asksNone : ∀ c ∈ r.conditions, c.custom = none
  anyTime : ∀ c ∈ r.conditions, c.timeRange = none
  types : ∀ t ∈ r.eventTypes, t ≠ ""
  sources : ∀ s ∈ r.sources, s ≠ ""

/-- Every path that the rule names leads to what the rule wants there. -/
def Rule.MetBy (r : Rule) (data : Fields) : Prop :=
  ∀ c ∈ r.conditions, ∀ entry ∈ c.data.getD [], IsAsWanted (.map data) entry

instance (r : Rule) : Decidable r.Fireable :=
  decidable_of_iff (r.metadata.enabled = true ∧ (∀ c ∈ r.conditions, c.custom = none) ∧
      (∀ c ∈ r.conditions, c.timeRange = none) ∧ (∀ t ∈ r.eventTypes, t ≠ "") ∧
      ∀ s ∈ r.sources, s ≠ "")
    ⟨fun ⟨he, hc, hw, ht, hs⟩ => ⟨he, hc, hw, ht, hs⟩, fun h => ⟨h.1, h.2, h.3, h.4, h.5⟩⟩

instance (r : Rule) (data : Fields) : Decidable (r.MetBy data) :=
  inferInstanceAs (Decidable (∀ c ∈ r.conditions, ∀ entry ∈ c.data.getD [], IsAsWanted (.map data) entry))

variable {r : Rule} {id now : String} {data : Fields}

/-- Fields that are all given, the names with words, are an event. -/
theorem Event.check_given (id : String) (data metadata : Fields) {type source : String}
    (htype : type ≠ "") (hsource : source ≠ "") (hnow : now ≠ "") :
    Event.check id (.map [("id", .text id), ("type", .text type), ("source", .text source),
      ("timestamp", .text now), ("data", .map data), ("metadata", .map metadata)]) =
      .ok ⟨id, type, source, now, data, metadata⟩ :=
  Event.ofFields_eq_ok.2 ⟨rfl, required_eq_ok.2 ⟨"type", _, rfl, checkName_text htype⟩,
    required_eq_ok.2 ⟨"source", _, rfl, checkName_text hsource⟩,
    required_eq_ok.2 ⟨"timestamp", _, rfl, checkName_text hnow⟩, rfl, rfl⟩

theorem ruleStepEvent_eq (hr : r.Fireable) (hnow : now ≠ "") (flowId stepId : Value) :
    ruleStepEvent id now r (.map data) flowId stepId =
      .ok (r.eventFor id now data [("flow_id", flowId), ("step_id", stepId)]) := by
  have htype := headD_ne_empty hr.types (by decide : flowEventType ≠ "")
  have hsource := headD_ne_empty hr.sources (by decide : flowEventSource ≠ "")
  have hcheck := Event.check_given id data [("flow_id", flowId), ("step_id", stepId)] htype hsource hnow
  unfold ruleStepEvent
  rw [hcheck]
  rfl

/-! ## Acceptance -/

theorem Rule.Fireable.selects_eventFor (hr : r.Fireable) (hdata : r.MetBy data)
    (ask : String → Value → Except Fault Value) (id now : String) (metadata : Fields) :
    r.selects ask (r.eventFor id now data metadata) = true := by
  unfold Rule.selects
  cases hc : r.conditions with
  | none => rfl
  | some c =>
    have hmem : c ∈ r.conditions := hc
    have htypes : r.eventTypes = c.eventTypes := by simp [Rule.eventTypes, hc]
    have hsources : r.sources = c.sources := by simp [Rule.sources, hc]
    have hwindow : c.windowHolds (r.eventFor id now data metadata) = .ok true := by
      rw [RuleConditions.windowHolds, hr.anyTime c hmem]
    have hmet : dataMatches (.map data) (c.data.getD []) = .ok true :=
      dataMatches_eq_true.2 (hdata c hmem)
    have hadmits : c.Admits (r.eventFor id now data metadata) := by
      unfold RuleConditions.Admits Rule.eventFor
      rw [htypes, hsources]
      exact ⟨amongNames_headD _ _, amongNames_headD _ _⟩
    rw [matchesEvent, RuleConditions.matchesEvent_eq, hadmits.1, hadmits.2, hwindow, hr.asksNone c hmem]
    simp [Rule.eventFor, hmet, bind, Except.bind, customHolds]

/-! ## Steps -/

theorem outcome_findRule {h : Hub α} (ho : h.outages = []) (hget : h.engine.book.get? id = some r) :
    outcome (findRule (.text id)) h = (.ok r, h) := by
  have hg : outcome (getRule (.text id)) h = (.ok (some r), h) := by
    rw [getRule, outcome_bind_ok (outcome_engineOperation_ok ho), ← hget]
    rfl
  rw [findRule, outcome_bind_ok hg]
  rfl

theorem inputEntries_map (data : Fields) : inputEntries (.map data) = .ok (.map data) := by
  unfold inputEntries
  cases data <;> rfl

/-- The event with which a step fires the rule at the hub. -/
def Hub.eventFor (h : Hub α) (r : Rule) (data : Fields) (flowId stepId : Value) : Event :=
  r.eventFor s!"flow-event-{Task.idDigits (h.serial + 1)}" h.now.text data
    [("flow_id", flowId), ("step_id", stepId)]

/-- A step hands the event of its rule to the engine. -/
theorem outcome_runRuleStep {h h' : Hub α} {ctx : Context} {stepId : Value} {runs : RuleRuns}
    (ho : h.outages = []) (hget : h.engine.book.get? id = some r) (hr : r.Fireable)
    (hinput : ctx.input = .map data)
    (hevent : outcome (processEvent host
      (.checked (h.eventFor r data (.ofText? (ctx.flow.bind (·.id))) stepId)) (some ctx))
      { h with serial := h.serial + 1 } = (.ok runs, h')) :
    outcome (runRuleStep host stepId (.text id) ctx) h = (.ok (RuleRuns.toValue runs), h') := by
  have hdraw : outcome (Task.freshId "flow-event") h =
      (.ok s!"flow-event-{Task.idDigits (h.serial + 1)}", { h with serial := h.serial + 1 }) := rfl
  unfold runRuleStep
  rw [outcome_bind_ok (outcome_findRule ho hget), outcome_bind_ok hdraw,
    outcome_bind_ok (outcome_now _), hinput, inputEntries_map, outcome_bind, outcome_ofExcept]
  dsimp only
  rw [ruleStepEvent_eq hr (Time.Moment.text_ne_empty _), outcome_bind, outcome_ofExcept]
  exact outcome_bind_ok hevent

/-- The rule that a step fires is among those that the event of the step selects. -/
theorem Rule.Fireable.mem_scan {h : Hub α} (hr : r.Fireable) (hkeyed : h.engine.book.Keyed)
    (hget : h.engine.book.get? id = some r) (hmet : r.MetBy data)
    (ask : String → Value → Except Fault Value) (flowId stepId : Value) :
    r ∈ h.engine.book.scan ask (h.eventFor r data flowId stepId) := by
  refine List.mem_filter.2 ⟨List.mem_map_of_mem (hkeyed.mem_iff.2 hget), ?_⟩
  rw [hr.enabled, Hub.eventFor, hr.selects_eventFor hmet]
  rfl

/-- The ids of the rules that a scan selects are distinct texts. -/
theorem RuleBook.Keyed.nodup_scanned {b : RuleBook} (hb : b.Keyed)
    (ask : String → Value → Except Fault Value) (e : Event) :
    ((b.scan ask e).map (·.id.getD "")).Nodup := by
  have hsome : ∀ r ∈ b.scan ask e, r.id = some (r.id.getD "") := fun r hm => by
    obtain ⟨⟨id, _⟩, hstored, rfl⟩ := List.mem_map.1 (List.mem_filter.1 hm).1
    rw [hb.id _ _ hstored]
    rfl
  have hids : (b.scan ask e).map (·.id) = ((b.scan ask e).map (·.id.getD "")).map some := by
    rw [List.map_map]
    exact List.map_congr_left hsome
  exact List.Nodup.of_map some (hids ▸ hb.nodup_scan e)

/-- Let calls of the registry lead to a hub, and let a step of a flow fire a rule that is stored there,
with an input that is as the rule wants it. The step runs exactly the rules that a plain scan of the
stored rules selects for the event of the step: the enabled ones that match it, in the order of
registration, each once, and the rule is one of them.

The event is not published. Beyond lines of the log, effects, ids, the cache and counters, which a free
frame does not see, the step changes nothing itself: the schema that was discovered and the history of the
bus change only as the functions of the application that actions run, and the subscribers that are told of
notifications and of executed rules, change them. -/
theorem RegistryRun.runStep_fires {h : Hub α} {ctx : Context} (hs : host.EditsWithin .any)
    (hrun : RegistryRun host .any h) (ho : h.outages = []) (hk : host.KeepsOrder)
    (hget : h.engine.book.get? id = some r) (hr : r.Fireable) (hinput : ctx.input = .map data)
    (hmet : r.MetBy data) (stepId : String) :
    ∃ lines runs h',
      let e := h.eventFor r data (.ofText? (ctx.flow.bind (·.id))) (.text stepId)
      let selected := h.engine.book.scan host.app.ask e
      let judged := Hub.afterFailures { h with serial := h.serial + 1 }
        (h.engine.book.failing host.app.ask e).length lines
      outcome (runStep host (.rule stepId id) ctx) h = (.ok (.ofResult ctx (RuleRuns.toValue runs)), h') ∧
      RulesEnd host e (some ctx) selected judged runs h' ∧
      r ∈ selected ∧ (runs.map (·.ruleId)).Nodup ∧ (runs.map (·.ruleId)).count id = 1 ∧
      ∀ F : Frame α, F.Free → host.ActsWithin F → host.ReportsWithin F Topic.notification →
        host.ReportsWithin F Topic.ruleExecuted → F.allows h h' := by
  obtain ⟨hkeyed, hcovered⟩ := hrun.covered hs
  let e := h.eventFor r data (.ofText? (ctx.flow.bind (·.id))) (.text stepId)
  have hn : outcome (normalizeEvent (.checked e)) { h with serial := h.serial + 1 } =
    (.ok e, { h with serial := h.serial + 1 }) := rfl
  obtain ⟨lines, runs, h', hevent, hends⟩ :=
    outcome_processEvent hk (h := { h with serial := h.serial + 1 }) ho hcovered hn (some ctx)
  have hstep : outcome (runStep host (.rule stepId id) ctx) h =
      (.ok (.ofResult ctx (RuleRuns.toValue runs)), h') :=
    outcome_asStep_ok (outcome_bind_ok (outcome_runRuleStep ho hget hr hinput hevent))
  -- The event is made to meet the conditions, so the index leads to the rule.
  have hselected : r ∈ h.engine.book.scan host.app.ask e :=
    hr.mem_scan hkeyed hget hmet host.app.ask _ _
  have hids := RuleRun.ids_of_isOf hends.isOf
  -- A rule is executed once for each id, and the ids in the book are distinct.
  have hnodup : (runs.map (·.ruleId)).Nodup := hids ▸ hkeyed.nodup_scanned host.app.ask e
  have hfired : id ∈ runs.map (·.ruleId) := by
    rw [hids, List.mem_map]
    exact ⟨r, hselected, by rw [hkeyed.id id r (hkeyed.mem_iff.2 hget)]; rfl⟩
  refine ⟨lines, runs, h', hstep, hends, hselected, hnodup, List.count_eq_one_of_mem hnodup hfired,
    fun F hF ha hn hx => ?_⟩
  exact (within_runStep hF ha hn hx (.rule stepId id) ctx).of_outcome hstep

/-- A rule for motion and doors in a zone, one for every event, one whose condition fails, and one that is
disabled. -/
def zoneRules : List (Definition Rule) :=
  [.document (loggingRule "every" [] []),
   .document (loggingRule "zone" [("event_type", .list [.text "motion", .text "door"]),
     ("source", .text "cam-9"), ("data", .map [("zone", .text "z1")])] []),
   .document (loggingRule "broken" [("custom", .function "broken")] []),
   .document (loggingRule "off" [] [("enabled", .bool false)])]

/-- A hub that publishes what its engine does, with a listener for executed rules, after the rules were
loaded. -/
def Hub.withZoneRules (app : Application Unit) : Hub Unit :=
  (outcome ((RegistryCall.load zoneRules).run app.host)
    { Hub.atMidnight () with
      engine := .empty (some .bus)
      bus := { Bus.unbounded with subscriptions := ⟨[⟨1, .topic Topic.ruleExecuted, .client 1⟩], 2⟩ } }).2

theorem RegistryRun.withZoneRules (app : Application Unit) :
    RegistryRun app.host .any (Hub.withZoneRules app) :=
  .call (.load zoneRules) (.start rfl) (RegistryCall.heeds_any _ _)

/-- An input that names the zone. -/
def zoneData : Fields := [("zone", .text "z1")]

/-- The context of a flow with the input. -/
def zoneContext : Context := { Context.bare "2024-01-01T00:00:00" with input := .map zoneData }

/-- An application whose one function fails, and which answers every notice with an event. -/
def Application.answering (e : Event) : Application Unit :=
  { Application.failing with
    serve := fun receive _ _ => discard (publishEvent ⟨.failing, receive⟩ (.checked e)) }

theorem Application.answering_staysWithin {F : Frame Unit} (hF : F.OpenToEvents) (e : Event) :
    (Application.answering e).StaysWithin F where
  act := (Application.failing_staysWithin F).act
  serve _ hs _ _ := Within.discard (within_publishEvent hF hs _)

/-- An event of someone at the door. -/
def knock : Event := ⟨"knock", "knock", "door", "2024-01-01T00:00:00", [], []⟩

/-- The subscribers of the bus, in the order of their subscriptions. -/
def Hub.subscribers (h : Hub α) : List Subscriber := h.bus.subscriptions.entries.map (·.subscriber)

/-- The frame in which a hub with the one listener keeps it, and the bus sees no event. -/
def Frame.eventless : Frame Unit where
  allows h h' := h.subscribers = [.client 1] → h'.subscribers = [.client 1] ∧
    h'.bus.schema = h.bus.schema ∧ h'.bus.history = h.bus.history
  refl _ hs := ⟨hs, rfl, rfl⟩
  trans h₁₂ h₂₃ hs :=
    have ⟨hs, hschema, hhistory⟩ := h₁₂ hs
    have ⟨hs', hschema', hhistory'⟩ := h₂₃ hs
    ⟨hs', hschema'.trans hschema, hhistory'.trans hhistory⟩

theorem Frame.eventless_free : Frame.eventless.Free where
  log _ _ hs := ⟨hs, rfl, rfl⟩
  effects _ _ hs := ⟨hs, rfl, rfl⟩
  serial _ _ hs := ⟨hs, rfl, rfl⟩
  cache _ _ hs := ⟨hs, rfl, rfl⟩
  deskCounters _ _ _ _ _ hs := ⟨hs, rfl, rfl⟩
  engineCounters _ _ _ _ _ hs := ⟨hs, rfl, rfl⟩

/-- The listener does nothing. -/
theorem Application.failing_tells (topic : String) :
    (Application.host .failing).TellsWithin .eventless topic := by
  intro n h hs
  refine allows_announce Frame.eventless_free.openToActions.openToTraces (fun s hm => ?_) hs
  have hclient : s ∈ h.subscribers := List.map_subset _ (List.filter_subset_self _) hm
  rw [hs, List.mem_singleton] at hclient
  rw [hclient]
  exact Within.pure _

/-- The step runs the rules for every event and for the zone, in this order, and the bus keeps nothing. -/
theorem RegistryRun.runStep_fires_zone : ∃ r runs h',
    (Hub.withZoneRules .failing).engine.book.get? "zone" = some r ∧ r.Fireable ∧ r.MetBy zoneData ∧
    outcome (runStep (Application.host .failing) (.rule "step" "zone") zoneContext)
      (Hub.withZoneRules .failing) = (.ok (.ofResult zoneContext (RuleRuns.toValue runs)), h') ∧
    runs.map (·.ruleId) = ["every", "zone"] ∧
    h'.bus.schema = (Hub.withZoneRules .failing).bus.schema ∧
    h'.bus.history = (Hub.withZoneRules .failing).bus.history := by
  obtain ⟨hstored, horder, hlistener, hzone⟩ :
      ((Hub.withZoneRules .failing).engine.book.get? "zone").isSome ∧
      (Hub.withZoneRules .failing).outages = [] ∧
      (Hub.withZoneRules .failing).subscribers = [.client 1] ∧
      ∀ r ∈ (Hub.withZoneRules .failing).engine.book.get? "zone", (r.Fireable ∧ r.MetBy zoneData) ∧
        ((Hub.withZoneRules .failing).engine.book.scan (Application.ask .failing)
          ((Hub.withZoneRules .failing).eventFor r zoneData .null (.text "step"))).map (·.id.getD "") =
            ["every", "zone"] := by decide +kernel
  obtain ⟨r, hget⟩ := Option.isSome_iff_exists.1 hstored
  obtain ⟨⟨hfire, hmet⟩, hids⟩ := hzone r hget
  have happ (F : Frame Unit) := Application.failing_staysWithin F
  obtain ⟨lines, runs, h', hstep, hends, -, -, -, hframe⟩ := RegistryRun.runStep_fires
    (Application.editsWithin (fun _ => trivial) (happ _)) (RegistryRun.withZoneRules .failing)
    horder (Application.keepsOrder (happ _)) hget hfire (rfl : zoneContext.input = _) hmet "step"
  have hkept := hframe .eventless Frame.eventless_free (fun _ _ _ => Within.pure _)
    (Application.failing_tells _).reports (Application.failing_tells _).reports
  obtain ⟨-, hschema, hhistory⟩ := hkept hlistener
  exact ⟨r, runs, h', hget, hfire, hmet, hstep, (RuleRun.ids_of_isOf hends.isOf).trans hids, hschema,
    hhistory⟩

/-- Where the listener answers the notice of each executed rule with an event, the bus has seen these events
after the step. -/
theorem runStep_answered :
    (Application.answering knock).host.EditsWithin .any ∧
    (Application.answering knock).host.KeepsOrder ∧
    RegistryRun (Application.answering knock).host .any (Hub.withZoneRules (.answering knock)) ∧
    (Hub.withZoneRules (.answering knock)).outages = [] ∧
    (∃ r, (Hub.withZoneRules (.answering knock)).engine.book.get? "zone" = some r ∧
      r.Fireable ∧ r.MetBy zoneData) ∧
    (Hub.withZoneRules (.answering knock)).bus.history.events.map (·.id) = [] ∧
    (outcome (runStep (Application.answering knock).host (.rule "step" "zone") zoneContext)
      (Hub.withZoneRules (.answering knock))).2.bus.history.events.map (·.id) = ["knock", "knock"] := by
  have happ (F : Frame Unit) (hF : F.OpenToEvents) := Application.answering_staysWithin hF knock
  obtain ⟨hstored, horder, hzone, hnothing⟩ :
      ((Hub.withZoneRules (.answering knock)).engine.book.get? "zone").isSome ∧
      (Hub.withZoneRules (.answering knock)).outages = [] ∧
      (∀ r ∈ (Hub.withZoneRules (.answering knock)).engine.book.get? "zone",
        r.Fireable ∧ r.MetBy zoneData) ∧
      (Hub.withZoneRules (.answering knock)).bus.history.events.map (·.id) = [] := by decide +kernel
  obtain ⟨r, hget⟩ := Option.isSome_iff_exists.1 hstored
  exact ⟨Application.editsWithin (fun _ => trivial)
      (happ _ (Frame.ofEdits_openToHub fun _ => trivial).openToEvents),
    Application.keepsOrder (happ _ Frame.inOrder_openToHub.openToEvents), RegistryRun.withZoneRules _,
    horder, ⟨r, hget, hzone r hget⟩, hnothing, by decide +kernel⟩

end EventHub
