import EventHub.Flows.Listen
import EventHub.Proofs.Frame.Rules

/-!
# Frames of flows and listeners

* **Delivery** (`allows_announce`): what is told stays in the frame when it does for each of the
  subscribers of the topic.
* **Steps** (`within_runStep`, `within_runSteps`, `within_executeSteps`): the steps of a flow stay
  in every free frame in which the actions of the application stay and in which notifications, runs
  of rules and runs of flows are told.
* **Flows** (`within_executeFlow`, `within_createFlow`, …, `within_handleEvent`): running flows,
  the registry of flows and the handling of events stay in such a frame if it also lets flows be
  counted and registered (`Frame.OpenToFlows`).
-/

namespace EventHub

open EventHub.Task

variable {α β : Type} {F : Frame α} {host : Host α}

/-! ## Delivery -/

/-- What is delivered stays in the frame when it does for every subscriber. -/
theorem within_deliver {topic : String} {n : Notice} {subscribers : List Subscriber}
    (hF : F.OpenToTraces) (hs : ∀ s ∈ subscribers, Within F (host.receive s n)) :
    Within F (deliver host topic n subscribers) := by
  induction subscribers with
  | nil => exact Within.pure _
  | cons s rest ih =>
    have ih := ih fun s' hs' => hs s' (List.mem_cons_of_mem s hs')
    refine Within.bind (Within.attempt (hs s List.mem_cons_self)) fun r => ?_
    grind

theorem outcome_announce (topic : String) (n : Notice) (h : Hub α) :
    (outcome (announce host topic n) h).2 =
      (outcome (deliver host topic n (h.bus.subscriptions.ofTopic topic)) h).2 := by
  have hp : outcome (publish host topic n) h =
      outcome (deliver host topic n (h.bus.subscriptions.ofTopic topic)) h := by
    unfold publish
    rw [outcome_bind_ok (outcome_get h)]
  rw [← hp]
  exact hub_discard _ h

theorem allows_announce {topic : String} {n : Notice} {h : Hub α} (hF : F.OpenToTraces)
    (hs : ∀ s ∈ h.bus.subscriptions.ofTopic topic, Within F (host.receive s n)) :
    F.allows h (outcome (announce host topic n) h).2 := by
  rw [outcome_announce]
  exact within_deliver hF hs h

/-- A frame that every reception stays in is one that every topic is told in. -/
theorem Host.TellsWithin.of_receive (hF : F.OpenToTraces) (hs : ∀ s n, Within F (host.receive s n))
    (topic : String) : host.TellsWithin F topic :=
  fun n _ => allows_announce hF fun s _ => hs s n

/-! ## Steps -/

section Steps

variable (hF : F.Free) (ha : host.ActsWithin F) (hn : host.ReportsWithin F Topic.notification)
  (hr : host.ReportsWithin F Topic.ruleExecuted) (hx : host.ReportsWithin F Topic.flowExecuted)

@[grind ←]
theorem within_getRule (id : Value) : Within F (getRule (α := α) id) := by
  unfold getRule
  grind

@[grind ←]
theorem within_findRule (id : Value) : Within F (findRule (α := α) id) := by
  unfold findRule
  grind

@[grind ←]
theorem within_runConditionStep (condition : Value) (ctx : Context) :
    Within F (runConditionStep host condition ctx) := by
  unfold runConditionStep
  grind

@[grind ←]
theorem within_asStep (stepId : Value) {t : Task α β} (ht : Within F t) :
    Within F (asStep stepId t) := by
  unfold asStep
  grind

include ha in
@[grind ←]
theorem within_runTransformStep (input type template function : Value) (ctx : Context) :
    Within F (runTransformStep host input type template function ctx) := by
  unfold runTransformStep transformInput transformResult
  grind

include hF ha hn hr

@[grind ←]
theorem within_runRuleStep (stepId ruleId : Value) (ctx : Context) :
    Within F (runRuleStep host stepId ruleId ctx) := by
  refine Within.bind (within_findRule _) fun r => ?_
  refine Within.bind (Within.freshId hF _) fun id => ?_
  grind

theorem within_runLoose {owner : String} {attributes : Fields} {stepType : Value} {ctx : Context}
    {t : Task α StepReply} (h : runLoose host owner attributes stepType ctx = some t) : Within F t := by
  unfold runLoose at h
  dsimp only at h
  split at h <;> cases h
  · refine Within.bind (Within.ofExcept _) fun ruleId => ?_
    exact Within.bind (within_runRuleStep hF ha hn hr _ _ _) fun _ => Within.pure _
  · refine Within.bind (Within.ofExcept _) fun action => ?_
    exact Within.bind (within_executeAction hF ha hn _ _ _) fun _ => Within.pure _
  · refine Within.bind (Within.ofExcept _) fun condition => ?_
    exact Within.bind (within_runConditionStep _ _) fun _ => Within.pure _
  · refine Within.bind (Within.ofExcept _) fun input => ?_
    refine Within.bind (Within.ofExcept _) fun spec => ?_
    refine Within.bind (Within.ofExcept _) fun type => ?_
    refine Within.bind (Within.ofExcept _) fun template => ?_
    refine Within.bind (Within.ofExcept _) fun function => ?_
    exact within_runTransformStep ha _ _ _ _ _

theorem within_runIrregular (owner : String) (attributes : Fields) (ctx : Context) :
    Within F (runIrregular host owner attributes ctx) := by
  unfold runIrregular
  dsimp only
  split
  · exact Within.throw _
  · rename_i hu
    split
    · rename_i t ht
      exact within_asStep _ (within_runLoose hF ha hn hr ht)
    · exact Within.throw _

@[grind ←]
theorem within_runStep (s : Step) (ctx : Context) : Within F (runStep host s ctx) := by
  cases s with
  | rule id ruleId =>
    exact within_asStep _ (Within.bind (within_runRuleStep hF ha hn hr _ _ _) fun _ => Within.pure _)
  | action id call =>
    exact within_asStep _ (Within.bind (within_executeCall hF ha hn _ _ _) fun _ => Within.pure _)
  | condition id test =>
    exact within_asStep _ (Within.bind (within_runConditionStep _ _) fun _ => Within.pure _)
  | transform id input spec => exact within_asStep _ (within_runTransformStep ha _ _ _ _ _)
  | unchecked kind attributes => exact within_runIrregular hF ha hn hr _ _ _
  | irregular attributes => exact within_runIrregular hF ha hn hr _ _ _

@[grind ←]
theorem within_stepResult (flowId : Option String) (s : Step) (ctx : Context) :
    Within F (stepResult host flowId s ctx) := by
  refine Within.bind (Within.attempt (within_runStep hF ha hn hr s ctx)) fun r => ?_
  grind

@[grind ←]
theorem within_runSteps (flowId : Option String) (ctx : Context) (state : FlowState)
    (steps : List Step) : Within F (runSteps host flowId ctx state steps) := by
  induction steps generalizing ctx state with
  | nil => exact Within.pure _
  | cons s rest ih => exact Within.bind (within_stepResult hF ha hn hr _ _ _) fun _ => ih _ _

include hx

@[grind ←]
theorem within_executeSteps (f : Flow) (input : Value) : Within F (executeSteps host f input) := by
  refine Within.bind (Within.ofExcept _) fun entries => ?_
  refine Within.bind Within.get fun h => ?_
  refine Within.bind (within_runSteps hF ha hn hr _ _ _ _) fun state => ?_
  refine Within.bind (Within.log hF _ _ _) fun _ => ?_
  refine Within.bind Within.now fun now => ?_
  exact Within.bind (hx _ rfl) fun _ => Within.pure _

end Steps

/-! ## Flows -/

/-- The frame lets flows be counted and registered. -/
structure Frame.OpenToFlows (F : Frame α) : Prop where
  tallied : ∀ {β : Type} (flowId : Option String) (t : Task α (β × Option String × Nat)),
    Within F t → Within F (tallied flowId t)
  book : ∀ (h : Hub α) book, F.allows h { h with flows := { h.flows with book } }

/-- A frame that sees nothing of the flow desk but its listeners lets flows be counted and
registered. -/
theorem Frame.OpenToFlows.of_flows (hf : ∀ (h : Hub α) d, d.listeners = h.flows.listeners →
    F.allows h { h with flows := d }) : F.OpenToFlows where
  book h book := hf h _ rfl
  tallied flowId t ht := by
    have hm (f : FlowDesk → FlowDesk) (hl : ∀ d, (f d).listeners = d.listeners) :
        Within F (modifyFlows (α := α) f) := Within.change fun h => hf h _ (hl _)
    refine Within.bind Within.now fun started => ?_
    refine Within.bind (hm _ fun _ => rfl) fun _ => ?_
    refine Within.bind (Within.attempt ht) fun r => ?_
    cases r with
    | ok run => exact Within.bind (hm _ fun _ => rfl) fun _ => Within.pure _
    | error fault => exact Within.bind (hm _ fun _ => rfl) fun _ => Within.throw _

section Flows

variable (hF : F.Free) (ho : F.OpenToFlows) (ha : host.ActsWithin F)
  (hn : host.ReportsWithin F Topic.notification) (hr : host.ReportsWithin F Topic.ruleExecuted)
  (hx : host.ReportsWithin F Topic.flowExecuted)

section Registry

include ho

theorem within_setFlows (book : FlowBook) :
    Within F (modifyFlows (α := α) fun d => { d with book }) :=
  Within.change fun h => ho.book h book

include hF

theorem within_createFlow (ht : host.ReportsWithin F Topic.flowCreated) (d : Definition Flow) :
    Within F (createFlow host d) := by
  have hk (id : String) (f : Flow) (book : FlowBook) : Within F (do
      modifyFlows fun d => { d with book }
      Task.log .info flowPart ("Flow created: " ++ f.title)
      announce host Topic.flowCreated (.flow f)
      return id) := by
    refine Within.bind (within_setFlows ho _) fun _ => ?_
    exact Within.bind (Within.log hF _ _ _) fun _ => Within.bind (ht _ rfl) fun _ => Within.pure _
  refine Within.bind Within.now fun now => ?_
  refine Within.bind (Within.ofExcept _) fun f => ?_
  dsimp only
  split
  · refine Within.bind (Within.freshId hF _) fun fresh => Within.bind Within.get fun h => ?_
    exact Within.bind (Within.ofExcept _) fun made => hk made.1 made.2.1 made.2.2
  · refine Within.bind (Within.pure _) fun fresh => Within.bind Within.get fun h => ?_
    exact Within.bind (Within.ofExcept _) fun made => hk made.1 made.2.1 made.2.2

theorem within_updateFlow (ht : host.ReportsWithin F Topic.flowUpdated) (id : String)
    (updates : Value) : Within F (updateFlow host id updates) := by
  refine Within.bind Within.now fun now => ?_
  refine Within.bind Within.get fun h => ?_
  refine Within.bind (Within.ofExcept _) fun made => ?_
  refine Within.bind (within_setFlows ho _) fun _ => ?_
  exact Within.bind (Within.log hF _ _ _) fun _ => Within.bind (ht _ rfl) fun _ => Within.pure _

theorem within_deleteFlow (ht : host.ReportsWithin F Topic.flowDeleted) (id : String) :
    Within F (deleteFlow host id) := by
  refine Within.bind Within.get fun h => ?_
  refine Within.bind (Within.ofExcept _) fun made => ?_
  refine Within.bind (within_setFlows ho _) fun _ => ?_
  exact Within.bind (Within.log hF _ _ _) fun _ => ht _ rfl

end Registry

include hF ho ha hn hr hx

theorem within_executeFlow (id : String) (input : Value) :
    Within F (executeFlow host id input) := by
  have hrun (f : Flow) : Within F (runFlow host f input) :=
    ho.tallied _ _ (Within.bind (within_executeSteps hF ha hn hr hx f input) fun _ =>
      Within.pure _)
  refine Within.bind Within.get fun h => ?_
  split
  · exact Within.throw _
  · rename_i f _
    have := hrun f
    grind

/-! ## Listeners -/

variable (hg : host.ReportsWithin F Topic.genericProcessed)
include hg

omit ho in
theorem within_processGeneric (e : Event) : Within F (processGeneric host e) := by
  have hm : Within F (makeGenericFlow (α := α) e) := by
    unfold makeGenericFlow
    grind
  refine Within.bind hm fun f => ?_
  refine Within.bind (Within.log hF _ _ _) fun _ => ?_
  refine Within.bind (within_executeSteps hF ha hn hr hx _ _) fun run => ?_
  exact Within.bind (hg _ rfl) fun _ => Within.pure _

theorem within_handleEvent (n : Notice) : Within F (handleEvent host n) := by
  have hh : Within F (handleNotice host n) := by
    refine Within.bind Within.get fun h => ?_
    refine Within.bind (within_processEvent hF ha hn hr _ _) fun runs => ?_
    have hp := within_processGeneric hF ha hn hr hx hg
    cases n <;> grind
  refine ho.tallied _ _ (Within.bind (Within.attempt hh) fun r => ?_)
  cases r with
  | ok run => exact Within.pure _
  | error fault =>
    refine Within.bind (Within.ofExcept _) fun named => ?_
    exact Within.bind (Within.logFault hF _ _ _ _) fun _ => Within.pure _

end Flows

end EventHub
