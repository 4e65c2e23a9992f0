import EventHub.Proofs.Hub.Run
import EventHub.Proofs.Rules.Execution

/-!
# Starting a hub

A hub that starts listens first, shares the actions of the desk with its engine, and then takes in
the configured rules and flows (`configure`). It is `Hub.listening` when they are taken in, so its
listeners hear of nothing before.

* `within_configure`: taking in a configuration stays in frames that are open to rules and flows.
* `outcome_started`: a hub whose configuration is taken in has been started.
* `Hub.Fresh.allows_start`: a fresh hub that has been started is what that left of one that listens.
-/

namespace EventHub

open EventHub.Task

variable {α : Type} {host : Host α}

/-- Takes in the configured rules and flows. -/
def configure (host : Host α) (settings : Settings) : Task α Unit := do
  let rules ← Task.ofExcept settings.rules.toList
  let _ ← loadRules host (rules.map .ofRuleValue)
  createFlows host (← Task.ofExcept settings.flows.toList)

/-- Taking in a configuration stays in the frame when its rules are heeded. -/
theorem within_configure {F : Frame α} {p : IdPolicy} (hF : F.OpenToEdits p) (ho : F.OpenToFlows)
    (ht : ∀ topic ∈ registryTopics, host.ReportsWithin F topic)
    (hc : host.ReportsWithin F Topic.flowCreated) {settings : Settings}
    (hd : ∀ rules, settings.rules.toList = .ok rules →
      ∀ h, p.HeededByAll host (rules.map Definition.ofRuleValue) h) :
    Within F (configure host settings) := by
  intro h
  unfold configure
  rw [outcome_bind, outcome_ofExcept]
  cases hr : settings.rules.toList with
  | error fault => exact F.refl h
  | ok rules =>
    have hload := within_loadRules hF ht (hd rules hr)
    refine Within.bind hload (fun _ => Within.bind (Within.ofExcept _) fun flows => ?_) h
    exact within_createFlows hF.free ho hc flows

/-- The hub that listens to the bus, with the actions of its engine. -/
def Hub.listening (h : Hub α) (actions : List (String × EngineHandler)) : Hub α :=
  let (types, s₁) := h.bus.subscriptions.add (.topic Topic.typeDiscovered) .discoverType
  let (fields, s₂) := s₁.add (.topic Topic.fieldsDiscovered) .discoverFields
  let (events, s₃) := s₂.add (.topic Topic.event) .handleEvent
  { h with
    bus := { h.bus with subscriptions := s₃ }
    flows := { h.flows with listeners := [types, fields, events] }
    engine := { h.engine with actions } }

/-- The hub that has been started, with its log. -/
def Hub.initialized (h : Hub α) (lines : List LogLine) : Hub α :=
  { h with flows := { h.flows with initialized := true }, log := lines }

/-- The actions of an engine that shares the named actions of the desk, too. -/
def sharing (names : List String) (actions : List (String × EngineHandler)) :
    List (String × EngineHandler) :=
  names.foldl (fun actions name => Assoc.put actions name (.shared name)) actions

theorem get?_sharing (names : List String) (actions : List (String × EngineHandler)) (name : String) :
    Assoc.get? (sharing names actions) name =
      if name ∈ names then some (.shared name) else Assoc.get? actions name := by
  induction names generalizing actions with
  | nil => rfl
  | cons first rest ih =>
    have hstep : sharing (first :: rest) actions =
      sharing rest (Assoc.put actions first (.shared first)) := rfl
    rw [hstep, ih, Assoc.get?_put]
    by_cases hrest : name ∈ rest
    · simp [hrest]
    · by_cases hfirst : first = name
      · simp [hfirst]
      · simp [hrest, hfirst, Ne.symm hfirst]

theorem outcome_shareActions (names : List String) {h : Hub α} (ho : h.outages = []) :
    outcome (shareActions names) h =
      (.ok (), { h with engine := { h.engine with actions := sharing names h.engine.actions } }) := by
  induction names generalizing h with
  | nil => rfl
  | cons name rest ih =>
    have hs : outcome (setEngineAction (α := α) name (some (.shared name))) h = (.ok (), _) :=
      outcome_bind_ok (outcome_engineOperation_ok ho)
    unfold shareActions
    rw [outcome_bind_ok hs]
    exact ih ho

variable (host) in
/-- A hub that starts takes its configuration in while it listens. -/
theorem outcome_wire {h : Hub α} (ho : h.outages = []) :
    outcome (wire host) h = outcome (configure host h.settings)
      (h.listening (sharing h.desk.available h.engine.actions)) := by
  have hl : outcome (startListening (α := α)) h = (.ok (), h.listening h.engine.actions) := rfl
  have hs := outcome_shareActions (h.listening h.engine.actions).desk.available
    (h := h.listening h.engine.actions) ho
  have hsync : outcome (syncActions (α := α)) (h.listening h.engine.actions) =
      (.ok (), h.listening (sharing h.desk.available h.engine.actions)) :=
    (outcome_bind_ok (outcome_get _)).trans hs
  unfold wire
  rw [outcome_bind_ok (outcome_get h)]
  exact (outcome_bind_ok hl).trans (outcome_bind_ok hsync)

/-- A hub that has been started has taken in its configuration. -/
theorem wire_of_start_eq_ok {h h' : Hub α} (hi : h.flows.initialized = false)
    (hs : outcome (start host) h = (.ok (), h')) : ∃ h₁, outcome (wire host) h = (.ok (), h₁) := by
  unfold start at hs
  rw [outcome_bind_ok (outcome_get h), hi, if_neg Bool.false_ne_true,
    outcome_bind_ok (outcome_attempt _ h)] at hs
  generalize outcome (wire host) h = run at hs ⊢
  obtain ⟨r, h₁⟩ := run
  cases r with
  | ok _ => exact ⟨h₁, rfl⟩
  | error fault =>
    obtain ⟨_, _, -, hs⟩ := bind_outcome_eq_ok hs
    obtain ⟨_, _, -, hs⟩ := bind_outcome_eq_ok hs
    cases hs

/-- A hub whose configuration is taken in has been started. -/
theorem outcome_started {h h₁ : Hub α} (hi : h.flows.initialized = false)
    (hw : outcome (wire host) h = (.ok (), h₁)) (ho : h₁.outages = []) :
    ∃ lines, outcome (start host) h = (.ok (), h₁.initialized lines) := by
  have hg (h : Hub α) (ho : h.outages = []) : outcome (getRules (α := α)) h =
      (.ok (Assoc.values h.engine.book.rules), h) := by
    unfold getRules
    rw [outcome_bind_ok (outcome_engineOperation_ok ho)]
    rfl
  let h₂ : Hub α := { h₁ with flows := { h₁.flows with initialized := true } }
  have hm : outcome (modifyFlows (α := α) fun d => { d with initialized := true }) h₁ =
    (.ok (), h₂) := rfl
  have hw' : outcome (Task.attempt (wire host)) h = (.ok (.ok ()), h₁) := by
    rw [outcome_attempt, hw]
  have hlog (text : String) : outcome (Task.log .info flowPart text) h₂ =
    (.ok (), h₁.initialized (⟨.info, flowPart, text⟩ :: h₁.log)) := outcome_log rfl _ _ h₂
  unfold start
  rw [outcome_bind_ok (outcome_get h), hi, if_neg Bool.false_ne_true, outcome_bind_ok hw']
  dsimp only
  rw [outcome_bind_ok hm, outcome_bind_ok (hg h₂ ho), outcome_bind_ok (outcome_get h₂)]
  exact ⟨_, hlog _⟩

/-- A fresh hub that has been started took in its configuration while it listened, and nothing else. -/
theorem Hub.Fresh.allows_start {F : Frame α} {h h' : Hub α} (fresh : h.Fresh)
    (started : outcome (start host) h = (.ok (), h')) (hc : Within F (configure host h.settings))
    (hi : ∀ (h : Hub α) lines, F.allows h (h.initialized lines))
    (ho : ∀ h₁, F.allows (h.listening (sharing h.desk.available h.engine.actions)) h₁ →
      h₁.outages = []) :
    F.allows (h.listening (sharing h.desk.available h.engine.actions)) h' := by
  have hunready : h.flows.initialized = false := by
    rw [fresh.flows]
    rfl
  have hwire := outcome_wire host fresh.inOrder
  obtain ⟨h₁, hconfigured⟩ := wire_of_start_eq_ok hunready started
  have hin := hc.of_outcome (hwire.symm.trans hconfigured)
  obtain ⟨lines, hstarted⟩ := outcome_started hunready hconfigured (ho h₁ hin)
  obtain rfl := congrArg Prod.snd (started.symm.trans hstarted)
  exact F.trans hin (hi h₁ lines)

/-- A hub that was assembled from the standard settings. -/
def Hub.assembled : Hub Nat := (outcome (assemble .standard none) (Hub.atMidnight 0)).2

/-- The hub that has been started, but for its actions and its log. -/
def Hub.started : Hub Nat := (Hub.assembled.listening []).initialized []

theorem HubRun.started (app : Application Nat) (p : RunPolicy) : HubRun app p [] Hub.started := by
  have hassembled : outcome (assemble .standard none) (Hub.atMidnight 0) = (.ok (), Hub.assembled) :=
    outcome_of_isOk (by decide +kernel)
  have fresh := fresh_of_assemble rfl hassembled
  have hw := outcome_wire app.host fresh.inOrder
  obtain ⟨lines, hs⟩ := outcome_started (by decide +kernel) hw rfl
  have hrun : HubRun app p [] _ :=
    .start fresh (fun rules hrules v hv => by cases hrules; cases hv) hs
  exact .pass hrun ⟨rfl, rfl, rfl, rfl, rfl⟩

/-- An application whose clients publish the event, the first time that one of them is told of anything. -/
def Application.straying (e : Event) : Application Nat where
  ask _ _ := .ok .null
  act _ _ v _ := return ⟨.null, v, none⟩
  serve receive _ _ := do
    if (← get).host = 0 then
      modify fun h => { h with host := 1 }
      discard (publishEvent ⟨.silent, receive⟩ (.checked e))

end EventHub
