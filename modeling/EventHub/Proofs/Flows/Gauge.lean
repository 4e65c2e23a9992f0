import EventHub.Proofs.Discovery.Generic
import EventHub.Proofs.Hub.Steady
import EventHub.Proofs.Rules.Execution
import Mathlib.Algebra.GroupWithZero.Nat
import Mathlib.Algebra.Order.BigOperators.Group.List
import Mathlib.Algebra.Order.Ring.Nat

/-!
# Gauges

A gauge reads off a hub how many notices were received, and tells what a notice of a topic adds to
the reading. While the hub runs the rules of an event, or steps of a flow, only the notices that the
hub itself sends move the gauge, and the counters of flows stay as they are.

* **Readings** (`Gauge.Adds`): what a part of a run adds. Additions of two parts add up.
* **Telling** (`Gauge.adds_announce`): a notice adds the weight of its topic.
* **Rules** (`Gauge.adds_executeAll`): rules add the weight of one notice each, whatever their actions
  do.
-/

namespace EventHub

open EventHub.Task

variable {α : Type}

/-- The counters of flows: begun, active, completed and failed. -/
def FlowDesk.tally (d : FlowDesk) : Int × Int × Int × Int := (d.total, d.active, d.completed, d.failed)

/-- The hub with another flow desk. -/
def Hub.withFlows (h : Hub α) (d : FlowDesk) : Hub α := { h with flows := d }

/-- What has to hold of the subscriptions and the registered flows for the gauge to be read, what the
application has noted, what the reception of a notice by a subscriber adds, and what a notice of a
topic adds. -/
structure Gauge (α : Type) where
  keeps : Subscriptions → FlowBook → Prop
  noted : α → Nat
  share : Subscriber → Nat
  weight : String → Nat

/-- Does the step fail at the hub? -/
def stepFails (host : Host α) (s : Step) (ctx : Context) (h : Hub α) : Bool :=
  !(outcome (runStep host s ctx) h).1.isOk

/-- The context of the only step of a flow. -/
def oneStepContext (h : Hub α) (f : Flow) (entries : Value) : Context :=
  { flowContext h f entries with input := entries, steps := [] }

/-- The entries that the flow of an event that no rule handles is given. -/
def genericEntries (e : Event) : Value := .map [("event", e.toValue.document), ("data", .map e.data)]

/-- Does the flow fail that logs the event at the hub, which draws an id for it? -/
def genericFails (host : Host α) (e : Event) (h : Hub α) : Bool :=
  let h₁ : Hub α := { h with serial := h.serial + 1 }
  stepFails host (genericStep e)
    (oneStepContext h₁ (genericFlowOf h.now.text (h.genericId e) e) (genericEntries e)) h₁

/-- The faults of a step are faults of steps. -/
theorem ofStep_of_asStep {β : Type} {stepId : Value} {t : Task α β} {h h' : Hub α} {fault : Fault}
    (hr : outcome (asStep stepId t) h = (.error fault, h')) : fault.ofStep = true := by
  have hs (f : Fault) : (stepFault stepId f).ofStep = true := by
    unfold stepFault
    split
    · assumption
    · rfl
  generalize ht : outcome t h = run
  obtain ⟨r, h₁⟩ := run
  cases r with
  | ok v =>
    rw [outcome_asStep_ok ht] at hr
    cases hr
  | error f =>
    rw [outcome_asStep_error ht] at hr
    cases hr
    exact hs f

namespace Gauge

variable {g : Gauge α} {host : Host α}

/-- The gauge can be read at the hub. -/
structure Ready (g : Gauge α) (h : Hub α) : Prop where
  steady : h.Steady
  keeps : g.keeps h.bus.subscriptions h.flows.book

/-- The reading grows by `n`, and the counters of flows stay. -/
def Adds (g : Gauge α) (n : Nat) (h h' : Hub α) : Prop :=
  g.Ready h → g.Ready h' ∧ h'.flows.tally = h.flows.tally ∧ g.noted h'.host = g.noted h.host + n

theorem Adds.trans {m n : Nat} {h₁ h₂ h₃ : Hub α} (h₁₂ : g.Adds m h₁ h₂) (h₂₃ : g.Adds n h₂ h₃) :
    g.Adds (m + n) h₁ h₃ := by
  intro hr
  obtain ⟨hr₂, ht₂, hn₂⟩ := h₁₂ hr
  obtain ⟨hr₃, ht₃, hn₃⟩ := h₂₃ hr₂
  exact ⟨hr₃, ht₃.trans ht₂, by omega⟩

theorem Adds.after {n : Nat} {h₁ h₂ h₃ : Hub α} (h₁₂ : g.Adds 0 h₁ h₂) (h₂₃ : g.Adds n h₂ h₃) :
    g.Adds n h₁ h₃ := by
  have := h₁₂.trans h₂₃
  rwa [Nat.zero_add] at this

/-- The frame in which the gauge does not move. -/
def still (g : Gauge α) : Frame α where
  allows := g.Adds 0
  refl _ hr := ⟨hr, rfl, rfl⟩
  trans h₁ h₂ := h₁.trans h₂

theorem Ready.of_same {h h' : Hub α} (hr : g.Ready h) (ho : h'.outages = h.outages)
    (hb : h'.bus.subscriptions = h.bus.subscriptions) (he : h'.engine.outlet = h.engine.outlet)
    (hf : h'.flows.book = h.flows.book) : g.Ready h' where
  steady := ⟨ho ▸ hr.steady.inOrder, he ▸ hr.steady.outlet, hb ▸ hr.steady.apt⟩
  keeps := hb ▸ hf ▸ hr.keeps

theorem still_free (g : Gauge α) : g.still.Free where
  log _ _ hr := ⟨hr.of_same rfl rfl rfl rfl, rfl, rfl⟩
  effects _ _ hr := ⟨hr.of_same rfl rfl rfl rfl, rfl, rfl⟩
  serial _ _ hr := ⟨hr.of_same rfl rfl rfl rfl, rfl, rfl⟩
  cache _ _ hr := ⟨hr.of_same rfl rfl rfl rfl, rfl, rfl⟩
  deskCounters _ _ _ _ _ hr := ⟨hr.of_same rfl rfl rfl rfl, rfl, rfl⟩
  engineCounters _ _ _ _ _ hr := ⟨hr.of_same rfl rfl rfl rfl, rfl, rfl⟩

/-- A topic weighs what its subscribers share. -/
def Weighs (g : Gauge α) : Prop :=
  ∀ s b, g.keeps s b → ∀ topic, ((s.ofTopic topic).map g.share).sum = g.weight topic

/-- The gauge fits the host: only the hub's own notices move it. -/
structure Fits (g : Gauge α) (host : Host α) : Prop where
  acts : host.ActsWithin g.still
  hears : ∀ s : Subscriber, s.Foreign → ∀ n h, g.Adds (g.share s) h (outcome (host.receive s n) h).2
  weighs : g.Weighs
  silent : g.weight Topic.notification = 0

/-! ## Telling -/

theorem adds_deliver (hg : g.Fits host) (topic : String) (n : Notice) {subscribers : List Subscriber}
    (hs : ∀ s ∈ subscribers, s.Foreign) (h : Hub α) :
    g.Adds (subscribers.map g.share).sum h (outcome (deliver host topic n subscribers) h).2 := by
  induction subscribers generalizing h with
  | nil => exact g.still.refl h
  | cons s rest ih =>
    obtain ⟨lines, hd⟩ := hub_deliver_cons host topic n s rest h
    have hone := hg.hears s (hs s List.mem_cons_self) n h
    have hrest := ih fun s' hs' => hs s' (List.mem_cons_of_mem s hs')
    have hlog := hone.trans (g.still_free.log _ lines)
    rw [Nat.add_zero] at hlog
    rw [hd, List.map_cons, List.sum_cons]
    exact hlog.trans (hrest _)

/-- A notice adds the weight of its topic. -/
theorem adds_announce (hg : g.Fits host) {topic : String} (ht : topic ∉ listenedTopics) (n : Notice)
    (h : Hub α) : g.Adds (g.weight topic) h (outcome (announce host topic n) h).2 := by
  intro hr
  rw [outcome_announce, ← hg.weighs _ _ hr.keeps topic]
  exact adds_deliver hg topic n (fun s hs => hr.steady.foreign ht hs) h hr

/-- A topic without weight does not move the gauge when those who share nothing leave it. -/
theorem tells_still (hweighs : g.Weighs)
    (hs : ∀ s : Subscriber, s.Foreign → g.share s = 0 → ∀ n, Within g.still (host.receive s n))
    {topic : String} (ht : topic ∉ listenedTopics) (hw : g.weight topic = 0) :
    host.TellsWithin g.still topic := by
  intro n h hr
  refine allows_announce g.still_free (fun s hmem => hs s (hr.steady.foreign ht hmem) ?_ n) hr
  have hsum := (hweighs _ _ hr.keeps topic).trans hw
  exact List.sum_eq_zero_iff.1 hsum _ (List.mem_map_of_mem hmem)

theorem tells_of_weight (hg : g.Fits host) {topic : String} (ht : topic ∉ listenedTopics)
    (hw : g.weight topic = 0) : host.TellsWithin g.still topic :=
  tells_still hg.weighs (fun s hs hshare n h => by
    have := hg.hears s hs n h
    rwa [hshare] at this) ht hw

theorem tells_notification (hg : g.Fits host) : host.TellsWithin g.still Topic.notification :=
  tells_of_weight hg (by decide) hg.silent

/-! ## Rules -/

theorem adds_executeRule (hg : g.Fits host) (r : Rule) (e : Event) (ctx : Option Context) {h : Hub α}
    (hr : g.Ready h) :
    ∃ run h', RuleEnds host e ctx r h run h' ∧ g.Adds (g.weight Topic.ruleExecuted) h h' := by
  obtain ⟨outcomes, h₁, lines, hacts, hends⟩ :=
    executeRule_ok host r e ctx hr.steady.inOrder
  refine ⟨_, _, hends, ?_⟩
  have h01 : g.Adds 0 h h₁ :=
    (within_runActions g.still_free hg.acts (tells_notification hg).reports _ _).of_outcome hacts
  rw [(h01 hr).1.steady.outlet]
  let run : RuleRun := ⟨r.id.getD "", r.name, e.id, outcomes, h.now.text⟩
  have hcount : g.Adds 0 h₁ { h₁ with engine := h₁.engine.count run } :=
    g.still_free.engineCounters h₁ _ _ _ _
  have h12 : g.Adds 0 h₁ { h₁ with engine := h₁.engine.count run, log := lines } :=
    hcount.trans (g.still_free.log { h₁ with engine := h₁.engine.count run } lines)
  have h23 := adds_announce hg (by decide : Topic.ruleExecuted ∉ listenedTopics)
    (.value ((h.ruleContext ctx r e).settled run.toValue))
    { h₁ with engine := h₁.engine.count run, log := lines }
  exact (h01.trans h12).after h23

/-- Rules add the weight of one notice each. -/
theorem adds_executeAll (hg : g.Fits host) (e : Event) (ctx : Option Context) (rules : List Rule)
    {h : Hub α} (hr : g.Ready h) :
    ∃ runs h', outcome (executeAll host e ctx rules) h = (.ok runs, h') ∧
      runs.length = rules.length ∧ g.Adds (rules.length * g.weight Topic.ruleExecuted) h h' := by
  have hthen {run : RuleRun} {runs : RuleRuns} {h h₁ h₂ : Hub α}
      (hfirst : g.Adds ([run].length * g.weight Topic.ruleExecuted) h h₁)
      (hrest : g.Adds (runs.length * g.weight Topic.ruleExecuted) h₁ h₂) :
      g.Adds ((run :: runs).length * g.weight Topic.ruleExecuted) h h₂ := by
    have hboth := hfirst.trans hrest
    rwa [← Nat.add_mul, Nat.add_comm] at hboth
  have hone (r : Rule) (h : Hub α) (hr : g.Ready h) : ∃ run h', RuleEnds host e ctx r h run h' ∧
      g.Adds ([run].length * g.weight Topic.ruleExecuted) h h' := by
    obtain ⟨run, h', hends, hadds⟩ := adds_executeRule hg r e ctx hr
    exact ⟨run, h', hends, by rwa [List.length_singleton, Nat.one_mul]⟩
  obtain ⟨runs, h', hends, hadds⟩ := rulesEnd_adds
    (fun runs h h' => g.Adds (runs.length * g.weight Topic.ruleExecuted) h h')
    (fun h => by rw [List.length_nil, Nat.zero_mul]; exact g.still.refl h) hthen
    (fun hadds hr => (hadds hr).1) hone rules hr
  have hlength := hends.isOf.length_eq.symm
  exact ⟨runs, h', hends.outcome_eq, hlength, hlength ▸ hadds⟩

/-! ## Steps -/

/-- A step that runs an action has a result, whatever comes of the action. -/
theorem adds_stepResult (hg : g.Fits host) (flowId : Option String) (id : String)
    (call : ActionInvocation) (ctx : Context) (h : Hub α) :
    ∃ reply h', outcome (stepResult host flowId (.action id call) ctx) h =
        (.ok (reply, stepFails host (.action id call) ctx h), h') ∧ g.Adds 0 h h' := by
  have hrun : g.Adds 0 h (outcome (runStep host (.action id call) ctx) h).2 :=
    within_asStep _ (Within.bind (within_executeCall g.still_free hg.acts (tells_notification hg).reports _ _ _)
      fun _ => Within.pure _) h
  unfold stepResult stepFails
  rw [outcome_bind_ok (outcome_attempt _ h)]
  generalize hr : outcome (runStep host (.action id call) ctx) h = run at hrun
  obtain ⟨r, h'⟩ := run
  cases r with
  | ok reply => exact ⟨reply, h', rfl, hrun⟩
  | error fault =>
    have hof : fault.ofStep = true := ofStep_of_asStep hr
    dsimp only
    rw [hof]
    refine ⟨_, _, outcome_bind_ok (outcome_log rfl _ _ h'), ?_⟩
    exact hrun.trans (g.still_free.log h' _)

/-- A flow of one step that runs an action is reported once, and tells whether the step failed. -/
theorem adds_executeSteps (hg : g.Fits host) {f : Flow} {id : String} {call : ActionInvocation}
    (hf : f.steps = [.action id call]) {input entries : Value} (hi : inputEntries input = .ok entries)
    (h : Hub α) :
    ∃ results h', outcome (executeSteps host f input) h =
        (.ok (results, if stepFails host (.action id call) (oneStepContext h f entries) h then 1 else 0),
          h') ∧
      g.Adds (g.weight Topic.flowExecuted) h h' := by
  obtain ⟨reply, h₁, hone, h01⟩ := adds_stepResult hg f.id id call (oneStepContext h f entries) h
  generalize stepFails host (.action id call) (oneStepContext h f entries) h = failed at hone ⊢
  let state : FlowState := (FlowState.mk [] entries 0).add reply failed
  have hsteps : outcome (runSteps host f.id (flowContext h f entries) ⟨[], entries, 0⟩ f.steps) h =
      (.ok state, h₁) := by
    rw [hf]
    unfold runSteps
    exact outcome_bind_ok hone
  have hfail : state.failures = if failed then 1 else 0 := rfl
  unfold executeSteps
  rw [outcome_bind, outcome_ofExcept, hi]
  dsimp only
  rw [outcome_bind_ok (outcome_get h), outcome_bind_ok hsteps,
    outcome_bind_ok (outcome_log rfl _ _ h₁), outcome_bind_ok (outcome_now _),
    outcome_bind_ok (outcome_announce_ok _ _ _), hfail]
  refine ⟨_, _, rfl, h01.after (Adds.after ?_ (adds_announce hg (by decide) _ _))⟩
  exact g.still_free.log h₁ _

/-! ## Events -/

/-- The flow of an event that no rule handles runs once: it is reported, and then the event is. -/
theorem adds_processGeneric (hg : g.Fits host) (e : Event) (h : Hub α) :
    ∃ lines run h', outcome (processGeneric host e) h = (.ok run, h') ∧
      run.failures = (if genericFails host e { h with log := lines } then 1 else 0) ∧
      g.Adds (g.weight Topic.flowExecuted + g.weight Topic.genericProcessed) h h' := by
  let h₀ : Hub α := { h with serial := h.serial + 1 }
  let line : LogLine := ⟨.info, flowPart, s!"Processing generic event {e.type} from {e.source}"⟩
  let h₁ : Hub α := { h₀ with log := line :: h.log }
  let f := genericFlowOf h.now.text (h.genericId e) e
  have h01 : g.Adds 0 h h₁ := Adds.trans (g.still_free.serial h _) (g.still_free.log h₀ (line :: h.log))
  obtain ⟨results, h₂, hsteps, h12⟩ := adds_executeSteps hg (f := f) rfl
    (rfl : inputEntries (genericEntries e) = .ok (genericEntries e)) h₁
  have hlog : outcome (Task.log .info flowPart
      s!"Processing generic event {e.type} from {e.source}") h₀ = (.ok (), h₁) := outcome_log rfl _ _ _
  have hrun : outcome (processGeneric host e) h = _ :=
    (outcome_bind_ok (outcome_makeGenericFlow e h)).trans <| (outcome_bind_ok hlog).trans <|
      (outcome_bind_ok hsteps).trans (outcome_bind_ok (outcome_announce_ok _ _ _))
  refine ⟨line :: h.log, _, _, hrun, rfl, h01.after (h12.trans ?_)⟩
  exact adds_announce hg (by decide) _ _

end Gauge

end EventHub
