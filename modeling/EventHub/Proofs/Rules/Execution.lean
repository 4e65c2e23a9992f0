import EventHub.Proofs.Frame.Receive
import Mathlib.Data.List.Forall2

/-!
# Rules at work

Nothing that goes wrong in an action ends the run of its rule, and no rule keeps the next from
running.

* **Telling** (`outcome_announce_ok`, `outcome_emit_ok`): a notice that is told never fails.
* **Actions** (`ActionEnds`, `runActions_end`): a handler is missing, returns or raises, and each action of
  a rule has its outcome, which is a success exactly when the handler returned (`ActionEnds.isOk_iff`).
* **The registry** (`outcome_registerRule`, `outcome_updateRule`): a change that the book takes is made
  and told.
* **Rules** (`RulesEnd`, `executeRule_ok`, `executeAll_ok`): while no operation is out of order
  (`Frame.inOrder`), rules run one after the other, and each has one run. What they add is what each of
  them adds (`rulesEnd_adds`).
-/

namespace EventHub

open EventHub.Task

variable {α : Type} {host : Host α} {ctx : Context}

/-! ## Telling -/

variable (host) in
theorem outcome_deliver_ok (topic : String) (n : Notice) (subscribers : List Subscriber)
    (h : Hub α) : ∃ count h', outcome (deliver host topic n subscribers) h = (.ok count, h') := by
  induction subscribers generalizing h with
  | nil => exact ⟨0, h, rfl⟩
  | cons s rest ih =>
    unfold deliver
    rw [outcome_bind_ok (outcome_attempt _ h)]
    cases (outcome (host.receive s n) h).1 with
    | ok _ =>
      obtain ⟨count, h', hd⟩ := ih (outcome (host.receive s n) h).2
      exact ⟨count + 1, h', by rw [outcome_bind_ok hd]; rfl⟩
    | error fault =>
      exact ih _

theorem outcome_announce_ok (topic : String) (n : Notice) (h : Hub α) :
    outcome (announce host topic n) h = (.ok (), (outcome (announce host topic n) h).2) := by
  obtain ⟨count, h', hd⟩ :=
    outcome_deliver_ok host topic n (h.bus.subscriptions.ofTopic topic) h
  have hp : outcome (publish host topic n) h = (.ok count, h') := hd
  have ha : outcome (announce host topic n) h = (.ok (), h') :=
    outcome_bind_ok (f := fun _ => pure ()) hp
  rw [ha]

theorem outcome_emit_ok (outlet : Option Outlet) (topic : String) (n : Notice) (h : Hub α) :
    outcome (emit host outlet topic n) h = (.ok (), (outcome (emit host outlet topic n) h).2) := by
  unfold emit
  split
  · rfl
  · rfl
  · exact outcome_announce_ok topic n h

theorem outcome_engineNotice (topic : String) (n : Notice) (h : Hub α) :
    outcome (engineNotice host topic n) h =
      (.ok (), (outcome (emit host h.engine.outlet topic n) h).2) := by
  unfold engineNotice
  rw [outcome_bind_ok (outcome_get h), ← outcome_emit_ok]

/-- A line of a level that is kept. -/
theorem outcome_log {level : Level} (hk : level.kept = true) (part text : String) (h : Hub α) :
    outcome (Task.log level part text) h =
      (.ok (), { h with log := ⟨level, part, text⟩ :: h.log }) := by
  simp [Task.log, hk]

variable (host) in
/-- After a subscriber the others are served, whatever the subscriber does; a fault is logged. -/
theorem hub_deliver_cons (topic : String) (n : Notice) (s : Subscriber) (rest : List Subscriber)
    (h : Hub α) : ∃ lines, (outcome (deliver host topic n (s :: rest)) h).2 =
      (outcome (deliver host topic n rest)
        { (outcome (host.receive s n) h).2 with log := lines }).2 := by
  rw [deliver, outcome_bind_ok (outcome_attempt _ h)]
  cases (outcome (host.receive s n) h).1 with
  | ok _ =>
    refine ⟨(outcome (host.receive s n) h).2.log, ?_⟩
    obtain ⟨count, h', hd⟩ :=
      outcome_deliver_ok host topic n rest (outcome (host.receive s n) h).2
    dsimp only
    rw [outcome_bind_ok hd, hd]
    rfl
  | error fault => exact ⟨_, congrArg Prod.snd (outcome_bind_ok (outcome_log rfl _ _ _))⟩

/-- A delivery adds what the receptions add, one after the other; lines of the log add nothing. -/
theorem deliver_adds {β : Type} {Adds : List β → Hub α → Hub α → Prop}
    (hlog : ∀ (h : Hub α) lines, Adds [] h { h with log := lines })
    (hthen : ∀ {l m : List β} {h₁ h₂ h₃ : Hub α},
      Adds l h₁ h₂ → Adds m h₂ h₃ → Adds (l ++ m) h₁ h₃)
    (topic : String) {n : Notice} {added : Subscriber → List β} {subscribers : List Subscriber}
    (hs : ∀ s ∈ subscribers, ∀ h, Adds (added s) h (outcome (host.receive s n) h).2) (h : Hub α) :
    Adds (subscribers.flatMap added) h (outcome (deliver host topic n subscribers) h).2 := by
  induction subscribers generalizing h with
  | nil => exact hlog h h.log
  | cons s rest ih =>
    obtain ⟨lines, hd⟩ := hub_deliver_cons host topic n s rest h
    have hrest := ih (fun s' hs' => hs s' (List.mem_cons_of_mem s hs'))
      { (outcome (host.receive s n) h).2 with log := lines }
    rw [hd, List.flatMap_cons]
    exact hthen (hs s List.mem_cons_self h) (hthen (hlog _ lines) hrest)

variable (host) in
/-- What the engine does is logged, then told. -/
theorem outcome_logThenTell (topic text : String) (n : Notice) {β : Type} (b : β) (h : Hub α) :
    ∃ lines, outcome (do
      Task.log .info enginePart text
      engineNotice host topic n
      return b) h = (.ok b, (outcome (emit host h.engine.outlet topic n) { h with log := lines }).2) := by
  refine ⟨⟨.info, enginePart, text⟩ :: h.log, ?_⟩
  rw [outcome_bind_ok (outcome_log rfl _ _ h), outcome_bind_ok (outcome_engineNotice _ _ _)]
  rfl

/-! ## Actions -/

/-- How an action of a rule ends at a hub: what its outcome holds, and the hub after it. A handler that is
not in the table is an error; one that is there returns, or raises. A fault that is not one of an action is
logged, and becomes the cause of one. -/
inductive ActionEnds (host : Host α) (ctx : Context) (call : ActionInvocation) (h : Hub α) :
    Except Fault Value → Hub α → Prop
  | missing (lines : List LogLine) (absent : Assoc.get? h.engine.actions call.type = none) :
    ActionEnds host ctx call h (.error (.action call.type s!"Unknown action type: {call.type}" none))
      { h with log := lines }
  | returned {handler : EngineHandler} {v : Value} {h' : Hub α}
    (present : Assoc.get? h.engine.actions call.type = some handler)
    (run : outcome (runEngineHandler host handler call.parameters ctx) h = (.ok v, h')) :
    ActionEnds host ctx call h (.ok v) h'
  | raised {handler : EngineHandler} {fault : Fault} {h' : Hub α} (lines : List LogLine)
    (present : Assoc.get? h.engine.actions call.type = some handler)
    (run : outcome (runEngineHandler host handler call.parameters ctx) h = (.error fault, h')) :
    ActionEnds host ctx call h (.error (nameFault call.type fault)) { h' with log := lines }

/-- The handler of the action is in the table and returns. -/
def ActionInvocation.Returns (host : Host α) (ctx : Context) (h : Hub α) (call : ActionInvocation) :
    Prop :=
  ∃ handler v h', Assoc.get? h.engine.actions call.type = some handler ∧
    outcome (runEngineHandler host handler call.parameters ctx) h = (.ok v, h')

/-- An outcome is a success exactly when the handler of the action returned. -/
theorem ActionEnds.isOk_iff {call : ActionInvocation} {h h' : Hub α} {r : Except Fault Value}
    (he : ActionEnds host ctx call h r h') : r.isOk = true ↔ call.Returns host ctx h := by
  cases he with
  | missing lines absent =>
    refine ⟨fun hok => (by cases hok), fun ⟨_, _, _, present, _⟩ => ?_⟩
    rw [absent] at present
    cases present
  | returned present run => exact ⟨fun _ => ⟨_, _, _, present, run⟩, fun _ => rfl⟩
  | raised lines present run =>
    refine ⟨fun hok => (by cases hok), fun ⟨_, _, _, present', run'⟩ => ?_⟩
    rw [present] at present'
    cases present'
    rw [run] at run'
    cases run'

theorem actionFault_named (actionType : String) (fault : Fault) (h : Hub α) :
    ∃ lines, outcome (actionFault actionType fault) h =
      (.ok (nameFault actionType fault), { h with log := lines }) := by
  unfold actionFault
  dsimp only
  split
  · exact ⟨_, outcome_bind_ok (outcome_log rfl _ _ h)⟩
  · exact ⟨h.log, rfl⟩

variable (host) in
theorem runAction_ends (call : ActionInvocation) (ctx : Context) (h : Hub α) :
    ∃ r h', outcome (runAction host call ctx) h = (.ok ⟨call.type, r⟩, h') ∧
      ActionEnds host ctx call h r h' := by
  unfold runAction
  rw [outcome_bind_ok (outcome_get h)]
  cases htable : Assoc.get? h.engine.actions call.type with
  | none => exact ⟨_, _, outcome_bind_ok (outcome_log rfl _ _ h), .missing _ htable⟩
  | some handler =>
    dsimp only
    rw [outcome_bind_ok (outcome_attempt _ h)]
    cases hrun : outcome (runEngineHandler host handler call.parameters ctx) h with
    | mk r h' =>
    cases r with
    | ok v => exact ⟨_, _, rfl, .returned htable hrun⟩
    | error fault =>
      obtain ⟨lines, hnamed⟩ := actionFault_named call.type fault h'
      exact ⟨_, _, outcome_bind_ok hnamed, .raised lines htable hrun⟩

/-- How the actions of a rule end, one after the other, with the outcome of each. -/
inductive ActionsEnd (host : Host α) (ctx : Context) :
    List ActionInvocation → Hub α → List ActionOutcome → Hub α → Prop
  | none (h : Hub α) : ActionsEnd host ctx [] h [] h
  | one {call : ActionInvocation} {calls : List ActionInvocation} {outcomes : List ActionOutcome}
    {r : Except Fault Value} {h h₁ h₂ : Hub α} (first : ActionEnds host ctx call h r h₁)
    (rest : ActionsEnd host ctx calls h₁ outcomes h₂) :
    ActionsEnd host ctx (call :: calls) h (⟨call.type, r⟩ :: outcomes) h₂

variable (host) in
/-- Each action ends, whatever came of those before it. -/
theorem runActions_end (ctx : Context) (calls : List ActionInvocation) (h : Hub α) :
    ∃ outcomes h', outcome (runActions host ctx calls) h = (.ok outcomes, h') ∧
      ActionsEnd host ctx calls h outcomes h' := by
  induction calls generalizing h with
  | nil => exact ⟨[], h, rfl, .none h⟩
  | cons call calls ih =>
    obtain ⟨r, h₁, hone, hfirst⟩ := runAction_ends host call ctx h
    obtain ⟨outcomes, h₂, hall, hrest⟩ := ih h₁
    refine ⟨_, h₂, ?_, .one hfirst hrest⟩
    rw [runActions, outcome_bind_ok hone, outcome_bind_ok hall]
    rfl

/-- The actions have their outcomes in order. -/
theorem ActionsEnd.map_action {calls : List ActionInvocation} {outcomes : List ActionOutcome}
    {h h' : Hub α} (he : ActionsEnd host ctx calls h outcomes h') :
    outcomes.map (·.action) = calls.map (·.type) := by
  induction he with
  | none => rfl
  | one _ _ ih => rw [List.map_cons, List.map_cons, ih]

/-! ## Hubs in order -/

/-- The frame in which no operation goes out of order. -/
def Frame.inOrder : Frame α := .ofInvariant fun h => h.outages = []

theorem Frame.inOrder_free : (Frame.inOrder (α := α)).Free where
  log _ _ := id
  effects _ _ := id
  serial _ _ := id
  cache _ _ := id
  deskCounters _ _ _ _ _ := id
  engineCounters _ _ _ _ _ := id

theorem Frame.inOrder_openToHub : (Frame.inOrder (α := α)).OpenToHub .unused where
  free := Frame.inOrder_free
  edit _ _ _ := id
  toOpenToFlows := .of_flows fun _ _ _ => id
  events _ _ _ _ _ := id
  names _ := trivial

theorem outcome_engineOperation_ok {name : String} {h : Hub α} (ho : h.outages = []) :
    outcome (engineOperation name) h = (.ok (), h) :=
  outcome_inService_ok ho

/-! ## The registry -/

variable (host) in
/-- A rule that the book takes is registered: it is logged and told. -/
theorem outcome_registerRule {d : Definition Rule} {r r' : Rule} {id : String} {book : RuleBook}
    {h : Hub α} (ho : h.outages = []) (hd : d.toRule h.now.text = .ok r)
    (done : h.engine.book.register h.now.text (h.drawnRuleId r) r = .ok (id, r', book)) :
    ∃ lines, outcome (registerRule host d) h = (.ok id, (outcome (emit host h.engine.outlet
      Topic.ruleRegistered (.rule r')) { (h.afterDraw r).withRules book with log := lines }).2) := by
  obtain ⟨lines, hl⟩ := outcome_logThenTell host Topic.ruleRegistered
    ("Rule registered: " ++ r'.title) (.rule r') id ((h.afterDraw r).withRules book)
  have hout : ((h.afterDraw r).withRules book).engine.outlet = h.engine.outlet := by
    rw [Hub.withRules, afterDraw_engine]
  refine ⟨lines, ?_⟩
  unfold registerRule
  rw [outcome_bind_ok (outcome_engineOperation_ok ho), outcome_bind_ok (outcome_now h),
    outcome_bind, outcome_ofExcept, hd]
  dsimp only
  rw [outcome_drawRuleId_bind, outcome_bind_ok (outcome_get _), afterDraw_engine, outcome_bind,
    outcome_ofExcept, done]
  dsimp only
  rw [modifyEngine, outcome_bind_ok (outcome_modify _ _)]
  rw [hout] at hl
  exact hl

variable (host) in
/-- A rule that the book updates is logged and told. -/
theorem outcome_updateRule {updates : Value} {r : Rule} {id : String} {book : RuleBook} {h : Hub α}
    (ho : h.outages = []) (done : h.engine.book.update h.now.text id updates = .ok (r, book)) :
    ∃ lines, outcome (updateRule host id updates) h = (.ok r, (outcome (emit host h.engine.outlet
      Topic.ruleUpdated (.rule r)) { h.withRules book with log := lines }).2) := by
  obtain ⟨lines, hl⟩ := outcome_logThenTell host Topic.ruleUpdated
    ("Rule updated: " ++ r.title) (.rule r) r (h.withRules book)
  refine ⟨lines, ?_⟩
  unfold updateRule
  rw [outcome_bind_ok (outcome_engineOperation_ok ho), outcome_bind_ok (outcome_now h),
    outcome_bind_ok (outcome_get h), outcome_bind, outcome_ofExcept, done]
  dsimp only
  rw [modifyEngine, outcome_bind_ok (outcome_modify _ _)]
  exact hl

/-- Looking rules up by an event type gives those that the index has for it. -/
theorem outcome_getRulesByEventType {h : Hub α} (ho : h.outages = []) (eventType : String) :
    outcome (getRulesByEventType eventType) h = (.ok (h.engine.book.ofEventType eventType), h) := by
  unfold getRulesByEventType
  rw [outcome_bind_ok (outcome_engineOperation_ok ho)]
  rfl

/-! ## Rules -/

/-- The context in which the rule runs its actions at the hub. -/
def Hub.ruleContext (h : Hub α) (ctx : Option Context) (r : Rule) (e : Event) : Context :=
  EventHub.ruleContext (ctx.getD (.bare h.now.text)) r e h.engine.outlet

/-- The run is of the rule, for the event, with an outcome for each action in order. -/
structure RuleRun.IsOf (e : Event) (r : Rule) (run : RuleRun) : Prop where
  rule : run.ruleId = r.id.getD ""
  name : run.ruleName = r.name
  event : run.eventId = e.id
  actions : run.outcomes.map (·.action) = r.actions.map (·.type)

/-- How a rule ends for an event: its actions end, and the run has their outcomes. -/
structure RuleEnds (host : Host α) (e : Event) (ctx : Option Context) (r : Rule) (h : Hub α)
    (run : RuleRun) (h' : Hub α) : Prop where
  isOf : run.IsOf e r
  actions : ∃ h₁, ActionsEnd host (h.ruleContext ctx r e) r.actions h run.outcomes h₁
  ran : outcome (executeRule host r e ctx) h = (.ok run, h')

/-- How the rules of an event end, one after the other, with the run of each. -/
inductive RulesEnd (host : Host α) (e : Event) (ctx : Option Context) :
    List Rule → Hub α → RuleRuns → Hub α → Prop
  | none (h : Hub α) : RulesEnd host e ctx [] h [] h
  | one {r : Rule} {rules : List Rule} {run : RuleRun} {runs : RuleRuns} {h h₁ h₂ : Hub α}
    (first : RuleEnds host e ctx r h run h₁) (rest : RulesEnd host e ctx rules h₁ runs h₂) :
    RulesEnd host e ctx (r :: rules) h (run :: runs) h₂

namespace RulesEnd

variable {e : Event} {ctx : Option Context} {rules : List Rule} {runs : RuleRuns} {h h' : Hub α}

theorem isOf (hr : RulesEnd host e ctx rules h runs h') :
    List.Forall₂ (RuleRun.IsOf e) rules runs := by
  induction hr with
  | none => exact .nil
  | one first _ ih => exact .cons first.isOf ih

theorem outcome_eq (hr : RulesEnd host e ctx rules h runs h') :
    outcome (executeAll host e ctx rules) h = (.ok runs, h') := by
  induction hr with
  | none => rfl
  | one first _ ih =>
    rw [executeAll, outcome_bind_ok first.ran, outcome_bind_ok ih]
    rfl

end RulesEnd

variable (host) in
/-- A rule runs its actions, is counted, and its run is told. -/
theorem executeRule_ok (r : Rule) (e : Event) (ctx : Option Context) {h : Hub α}
    (ho : h.outages = []) :
    ∃ outcomes h₁ lines, let run : RuleRun := ⟨r.id.getD "", r.name, e.id, outcomes, h.now.text⟩
      outcome (runActions host (h.ruleContext ctx r e) r.actions) h = (.ok outcomes, h₁) ∧
      RuleEnds host e ctx r h run (outcome (emit host h₁.engine.outlet
        Topic.ruleExecuted (.value ((h.ruleContext ctx r e).settled run.toValue)))
        { h₁ with engine := h₁.engine.count run, log := lines }).2 := by
  obtain ⟨outcomes, h₁, hacts, hends⟩ :=
    runActions_end host (h.ruleContext ctx r e) r.actions h
  let run : RuleRun := ⟨r.id.getD "", r.name, e.id, outcomes, h.now.text⟩
  obtain ⟨lines, hl⟩ := outcome_logThenTell host Topic.ruleExecuted
    s!"Rule executed: {r.name} event={e.id} actions={outcomes.length} failed={run.failures.length}"
    (.value ((h.ruleContext ctx r e).settled run.toValue)) run
    { h₁ with engine := h₁.engine.count run }
  refine ⟨outcomes, h₁, lines, hacts, ⟨rfl, rfl, rfl, hends.map_action⟩, ⟨h₁, hends⟩, ?_⟩
  unfold executeRule
  rw [outcome_bind_ok (outcome_engineOperation_ok ho), outcome_bind_ok (outcome_now h),
    outcome_bind_ok (outcome_get h)]
  refine (outcome_bind_ok hacts).trans ?_
  exact (outcome_bind_ok (outcome_modify _ h₁)).trans hl

/-- Where every rule ends and adds something, rules end one after the other and add it all. -/
theorem rulesEnd_adds {ready : Hub α → Prop} (Adds : RuleRuns → Hub α → Hub α → Prop) {e : Event}
    {ctx : Option Context} (hnone : ∀ h, Adds [] h h)
    (hthen : ∀ {run runs h h₁ h₂}, Adds [run] h h₁ → Adds runs h₁ h₂ → Adds (run :: runs) h h₂)
    (hready : ∀ {run h h'}, Adds [run] h h' → ready h → ready h')
    (hone : ∀ r h, ready h → ∃ run h', RuleEnds host e ctx r h run h' ∧ Adds [run] h h')
    (rules : List Rule) {h : Hub α} (hr : ready h) :
    ∃ runs h', RulesEnd host e ctx rules h runs h' ∧ Adds runs h h' := by
  induction rules generalizing h with
  | nil => exact ⟨[], h, .none h, hnone h⟩
  | cons r rest ih =>
    obtain ⟨run, h₁, hends, hadds⟩ := hone r h hr
    obtain ⟨runs, h₂, hrest, hmore⟩ := ih (hready hadds hr)
    exact ⟨run :: runs, h₂, .one hends hrest, hthen hadds hmore⟩

section Rules

variable {keeps : Hub α → Prop} (hin : ∀ h, keeps h → h.outages = [])
  (hF : (Frame.ofInvariant keeps).Free) (ha : host.ActsWithin (.ofInvariant keeps))
  (ht : ∀ topic, host.TellsWithin (.ofInvariant keeps) topic)
include hin hF ha ht

/-- While an invariant that keeps the operations in order is kept, the rules run in order, each
once. -/
theorem executeAll_keeps (e : Event) (ctx : Option Context) (rules : List Rule) {h : Hub α}
    (hk : keeps h) : ∃ runs h', RulesEnd host e ctx rules h runs h' ∧ keeps h' := by
  have hone (r : Rule) (h : Hub α) (hk : keeps h) :
      ∃ run h', RuleEnds host e ctx r h run h' ∧ (keeps h → keeps h') := by
    obtain ⟨outcomes, h₁, lines, -, hends⟩ := executeRule_ok host r e ctx (hin h hk)
    have hw := within_executeRule hF ha (ht _).reports (ht _).reports r e ctx
    exact ⟨_, _, hends, hw.of_outcome hends.ran⟩
  obtain ⟨runs, h', hends, hkeeps⟩ := rulesEnd_adds (fun _ h h' => keeps h → keeps h')
    (fun _ => id) (fun hfirst hrest hk => hrest (hfirst hk)) id hone rules hk
  exact ⟨runs, h', hends, hkeeps hk⟩

end Rules

/-- The rules run in order, each once. -/
theorem executeAll_ok (ha : host.ActsWithin .inOrder)
    (hs : ∀ s n, Within .inOrder (host.receive s n)) (e : Event) (ctx : Option Context)
    (rules : List Rule) {h : Hub α} (ho : h.outages = []) :
    ∃ runs h', outcome (executeAll host e ctx rules) h = (.ok runs, h') ∧
      List.Forall₂ (RuleRun.IsOf e) rules runs := by
  have ht := Host.TellsWithin.of_receive Frame.inOrder_free.openToActions.openToTraces hs
  obtain ⟨runs, h', hruns, -⟩ :=
    executeAll_keeps (fun _ => id) Frame.inOrder_free ha ht e ctx rules ho
  exact ⟨runs, h', hruns.outcome_eq, hruns.isOf⟩

/-- Rules run one after the other. -/
theorem outcome_executeAll_append {e : Event} {ctx : Option Context} {before after : List Rule}
    {h h₁ : Hub α} {runs : RuleRuns}
    (hb : outcome (executeAll host e ctx before) h = (.ok runs, h₁)) {more : RuleRuns} {h₂ : Hub α}
    (ha : outcome (executeAll host e ctx after) h₁ = (.ok more, h₂)) :
    outcome (executeAll host e ctx (before ++ after)) h = (.ok (runs ++ more), h₂) := by
  induction before generalizing h runs with
  | nil =>
    cases hb
    exact ha
  | cons r rest ih =>
    unfold executeAll at hb
    obtain ⟨run, h₃, hone, hb⟩ := bind_outcome_eq_ok hb
    obtain ⟨runs', h₄, hrest, hb⟩ := bind_outcome_eq_ok hb
    cases hb
    rw [List.cons_append, executeAll, outcome_bind_ok hone, outcome_bind_ok (ih hrest)]
    rfl

/-- A valid event runs the rules that match it. -/
theorem outcome_processEvent_eq {raw : Definition Event} {e : Event} {rules : List Rule}
    {h h₁ h₂ : Hub α} (ho : h.outages = []) (hn : outcome (normalizeEvent raw) h = (.ok e, h₁))
    (hm : outcome (matchingRules host e) h₁ = (.ok rules, h₂)) (ctx : Option Context) :
    outcome (processEvent host raw ctx) h = outcome (executeAll host e ctx rules) h₂ := by
  unfold processEvent
  rw [outcome_bind_ok (outcome_engineOperation_ok ho), outcome_bind_ok hn, outcome_bind_ok hm]

end EventHub
