import EventHub.Proofs.Context
import EventHub.Proofs.Flows.Watch

/-!
# The steps of a flow at work

A flow runs each of its steps once, in order, whatever comes of those before.

* **Attempts** (`Attempt`): a step at work, with the context and the hub it is run at. What it gives
  is read off its run: its entry among the results (`Attempt.entry`), whether it failed, and the
  input of the flow after it.
* **Traces** (`Attempts`): attempts of the steps of a flow, each at the hub and in the context that
  those before it lead to.
* `outcome_runSteps`: steps leave a trace, by induction over the steps.
* `executeFlow_attempts`: a flow leaves a trace, is reported once, and is counted.
* `executeFlow_untyped`: a step whose type cannot be looked up ends its flow instead, which raises and is
  not reported. A flow object may hold one, for it is registered unchecked (`executeFlow_unhashable`).
-/

namespace EventHub

open EventHub.Task

variable {α : Type}

/-! ## Faults of steps -/

/-- The type of the step can be looked up. Only a step that was not checked may have another one,
a list or a map. -/
def Step.Typed : Step → Prop
  | .unchecked _ attributes | .irregular attributes =>
    (Value.get attributes "type").unhashable? = none
  | _ => True

/-- A fault of a step has the words of the fault that led to it. -/
theorem message_stepFault (stepId : Value) (fault : Fault) :
    (stepFault stepId fault).message = fault.message := by
  unfold stepFault
  split <;> rfl

theorem ofStep_of_runIrregular {host : Host α} {owner : String} {attributes : Fields}
    (ht : (Value.get attributes "type").unhashable? = none) {ctx : Context} {h h' : Hub α}
    {fault : Fault}
    (hr : outcome (runIrregular host owner attributes ctx) h = (.error fault, h')) :
    fault.ofStep = true := by
  unfold runIrregular at hr
  dsimp only at hr
  rw [ht] at hr
  dsimp only at hr
  split at hr
  · exact ofStep_of_asStep hr
  · cases hr
    rfl

/-- Whatever goes wrong in a step is a fault of a step. -/
theorem ofStep_of_runStep {host : Host α} {s : Step} (hs : s.Typed) {ctx : Context} {h h' : Hub α}
    {fault : Fault} (hr : outcome (runStep host s ctx) h = (.error fault, h')) :
    fault.ofStep = true := by
  cases s with
  | rule id ruleId => exact ofStep_of_asStep hr
  | action id call => exact ofStep_of_asStep hr
  | condition id test => exact ofStep_of_asStep hr
  | transform id input spec => exact ofStep_of_asStep hr
  | unchecked kind attributes => exact ofStep_of_runIrregular hs hr
  | irregular attributes => exact ofStep_of_runIrregular hs hr

/-! ## Attempts -/

/-- A step at work: the context in which it is run, and the hub at which. -/
structure Attempt (α : Type) where
  step : Step
  context : Context
  hub : Hub α

namespace Attempt

variable (host : Host α) (a : Attempt α)

/-- What comes of the step, and the hub after it. -/
def run : Except Fault StepReply × Hub α := outcome (runStep host a.step a.context) a.hub

/-- Did the step fail? -/
def fails : Bool := !(a.run host).1.isOk

/-- The entry of the step among the results: its value, or the words of its fault. -/
def entry : Value :=
  match (a.run host).1 with
  | .ok reply => reply.result
  | .error fault => .map [("error", .text fault.message)]

/-- The input of the flow after the step. -/
def input : Value :=
  match (a.run host).1 with
  | .ok reply => reply.input
  | .error _ => a.context.input

end Attempt

/-- The hub after attempts that begin at a hub, but for the lines of the log. -/
def hubAfter (host : Host α) (start : Hub α) (attempts : List (Attempt α)) : Hub α :=
  attempts.foldl (fun _ a => (a.run host).2) start

/-- The input of a flow after attempts that begin with an input. -/
def inputAfter (host : Host α) (input : Value) (attempts : List (Attempt α)) : Value :=
  attempts.foldl (fun _ a => a.input host) input

/-- The entries of attempts, as they read with the input of the flow as it is after them. -/
def entriesAfter (host : Host α) (input : Value) (attempts : List (Attempt α)) : List Value :=
  Value.settledItems (inputAfter host input attempts) (attempts.map (·.entry host))

theorem Value.settledItems_eq_map (input : Value) (items : List Value) :
    settledItems input items = items.map (settled input) := by
  induction items with
  | nil => simp [settledItems]
  | cons v rest ih => simp [settledItems, ih]

theorem length_entriesAfter (host : Host α) (input : Value) (attempts : List (Attempt α)) :
    (entriesAfter host input attempts).length = attempts.length := by
  rw [entriesAfter, Value.length_settledItems, List.length_map]

/-- Where no attempt changes the input, all entries read with it. -/
theorem entriesAfter_of_input {host : Host α} {input : Value} {attempts : List (Attempt α)}
    (h : ∀ a ∈ attempts, a.input host = input) :
    entriesAfter host input attempts = attempts.map fun a => Value.settled input (a.entry host) := by
  have hinput : inputAfter host input attempts = input := by
    unfold inputAfter
    cases hl : attempts.getLast? with
    | none =>
      rw [List.getLast?_eq_none_iff.1 hl]
      rfl
    | some last =>
      obtain ⟨before, rfl⟩ := List.getLast?_eq_some_iff.1 hl
      rw [List.foldl_append]
      exact h last (List.mem_append_right _ (List.mem_singleton_self last))
  rw [entriesAfter, hinput, Value.settledItems_eq_map, List.map_map]
  rfl

/-- The attempts are those of the steps, one for each in order. Each begins where those before it
have ended, in the context of the flow with the input as it is by then and their entries. -/
structure Attempts (host : Host α) (base : Context) (start : Hub α) (steps : List Step)
    (attempts : List (Attempt α)) : Prop where
  steps : attempts.map (·.step) = steps
  hub : ∀ before a after, attempts = before ++ a :: after →
    ∃ lines, a.hub = { hubAfter host start before with log := lines }
  context : ∀ before a after, attempts = before ++ a :: after →
    a.context = { base with
      input := inputAfter host base.input before, steps := entriesAfter host base.input before }

/-! ## Steps -/

/-- A step is run, and its result or its fault is kept. -/
theorem outcome_stepResult (host : Host α) (flowId : Option String) {a : Attempt α}
    (hs : a.step.Typed) :
    ∃ lines, outcome (stepResult host flowId a.step a.context) a.hub =
      (.ok (⟨a.entry host, a.input host⟩, a.fails host), { (a.run host).2 with log := lines }) := by
  unfold stepResult
  rw [outcome_bind_ok (outcome_attempt _ _)]
  cases hr : a.run host with
  | mk r h' =>
    have hrun : outcome (runStep host a.step a.context) a.hub = (r, h') := hr
    cases r with
    | ok reply =>
      refine ⟨h'.log, ?_⟩
      rw [hrun, Attempt.entry, Attempt.input, Attempt.fails, hr]
      rfl
    | error fault =>
      rw [hrun, Attempt.entry, Attempt.input, Attempt.fails, hr]
      dsimp only
      rw [ofStep_of_runStep hs hrun]
      exact ⟨_, outcome_bind_ok (outcome_log rfl _ _ h')⟩

/-- What attempts make of the state of a flow. -/
def FlowState.after (host : Host α) (state : FlowState) (attempts : List (Attempt α)) : FlowState where
  results := state.results ++ attempts.map (·.entry host)
  input := inputAfter host state.input attempts
  failures := state.failures + attempts.countP (·.fails host)

theorem FlowState.after_cons (host : Host α) (state : FlowState) (a : Attempt α)
    (rest : List (Attempt α)) :
    state.after host (a :: rest) =
      (state.add ⟨a.entry host, a.input host⟩ (a.fails host)).after host rest := by
  unfold FlowState.after FlowState.add
  congr 1
  · simp
  · dsimp only
    rw [List.countP_cons]
    split <;> omega

/-- The lines of the log before the attempts do not matter. -/
theorem hubAfter_withLog (host : Host α) (start : Hub α) (attempts : List (Attempt α))
    (lines lines' : List LogLine) :
    { hubAfter host { start with log := lines } attempts with log := lines' } =
      { hubAfter host start attempts with log := lines' } := by
  cases attempts <;> rfl

/-- Steps leave a trace: by induction over the steps, where `state` is what came of those before. -/
theorem outcome_runSteps (host : Host α) (flowId : Option String) {steps : List Step}
    (ht : ∀ s ∈ steps, s.Typed) (ctx : Context) (state : FlowState) (h : Hub α) :
    ∃ attempts lines,
      outcome (runSteps host flowId ctx state steps) h =
        (.ok (state.after host attempts), { hubAfter host h attempts with log := lines }) ∧
      attempts.map (·.step) = steps ∧
      ∀ before a after, attempts = before ++ a :: after →
        (∃ lines, a.hub = { hubAfter host h before with log := lines }) ∧
        a.context = { ctx with
          input := (state.after host before).input, steps := (state.after host before).settled } := by
  induction steps generalizing ctx state h with
  | nil =>
    refine ⟨[], h.log, ?_, rfl, fun before a after hsplit => ?_⟩
    · unfold FlowState.after
      rw [List.map_nil, List.append_nil]
      rfl
    · cases before <;> cases hsplit
  | cons s rest ih =>
    let a : Attempt α :=
      ⟨s, { ctx with input := state.input, steps := state.settled }, h⟩
    obtain ⟨lines, hone⟩ := outcome_stepResult host flowId (a := a) (ht s List.mem_cons_self)
    -- The first step leaves its entry in the state, and the others begin with that.
    obtain ⟨attempts, lines', hrest, hsteps, hsplits⟩ := ih
      (fun s hs => ht s (List.mem_cons_of_mem _ hs)) a.context
      (state.add ⟨a.entry host, a.input host⟩ (a.fails host)) { (a.run host).2 with log := lines }
    refine ⟨a :: attempts, lines', ?_, by rw [List.map_cons, hsteps], fun before b after hsplit => ?_⟩
    · unfold runSteps
      rw [FlowState.after_cons]
      refine (outcome_bind_ok hone).trans (hrest.trans ?_)
      rw [hubAfter_withLog]
      rfl
    -- An attempt is the first one, or one of the others, and then its place is moved by one.
    · cases before with
      | nil =>
        obtain ⟨rfl, -⟩ := List.cons.inj hsplit
        refine ⟨⟨h.log, rfl⟩, ?_⟩
        unfold FlowState.after
        rw [List.map_nil, List.append_nil]
        rfl
      | cons a' before =>
        obtain ⟨rfl, htail⟩ := List.cons.inj hsplit
        obtain ⟨⟨lines'', hhub⟩, hctx⟩ := hsplits before b after htail
        rw [FlowState.after_cons]
        refine ⟨⟨lines'', ?_⟩, hctx⟩
        rw [hhub, hubAfter_withLog]
        rfl

/-- The input and the entries in the context with which steps begin do not matter. -/
theorem runSteps_withInput (host : Host α) (flowId : Option String) (ctx : Context) (input : Value)
    (entries : List Value) (state : FlowState) (steps : List Step) :
    runSteps host flowId { ctx with input := input, steps := entries } state steps =
      runSteps host flowId ctx state steps := by
  cases steps <;> rfl

/-- Steps behind others go on with what came of those. -/
theorem outcome_runSteps_append {host : Host α} {flowId : Option String} {before : List Step} {ctx : Context}
    {state state' : FlowState} {h h' : Hub α}
    (hb : outcome (runSteps host flowId ctx state before) h = (.ok state', h')) (after : List Step) :
    outcome (runSteps host flowId ctx state (before ++ after)) h =
      outcome (runSteps host flowId ctx state' after) h' := by
  induction before generalizing ctx state h with
  | nil =>
    cases hb
    rfl
  | cons s rest ih =>
    obtain ⟨⟨reply, failed⟩, h₁, hone, hrest⟩ := bind_outcome_eq_ok hb
    refine (outcome_bind_ok hone).trans ((ih hrest).trans ?_)
    rw [runSteps_withInput]

/-- A step whose type cannot be looked up is not run: the lookup raises, and that is no fault of a step. -/
theorem Step.runStep_of_not_typed {s : Step} (hs : ¬ s.Typed) (host : Host α) : ∃ name, ∀ ctx,
    runStep host s ctx = throw (.type (.unhashable name)) := by
  have hraises (owner : String) {attributes : Fields} (hu : (Value.get attributes "type").unhashable? ≠ none) :
      ∃ name, ∀ ctx, runIrregular host owner attributes ctx = throw (.type (.unhashable name)) := by
    obtain ⟨name, hname⟩ := Option.ne_none_iff_exists'.1 hu
    refine ⟨name, fun ctx => ?_⟩
    unfold runIrregular
    dsimp only
    rw [hname]
    rfl
  cases s with
  | unchecked kind attributes => exact hraises kind.name hs
  | irregular attributes => exact hraises looseClass hs
  | _ => exact absurd trivial hs

/-- Such a step ends the run of its flow, after those before it. -/
theorem outcome_runSteps_untyped (host : Host α) (flowId : Option String) {before : List Step} {s : Step}
    (ht : ∀ b ∈ before, b.Typed) (hs : ¬ s.Typed) (after : List Step) (ctx : Context) (state : FlowState)
    (h : Hub α) :
    ∃ attempts lines name, attempts.map (·.step) = before ∧
      outcome (runSteps host flowId ctx state (before ++ s :: after)) h =
        (.error (.type (.unhashable name)), { hubAfter host h attempts with log := lines }) := by
  obtain ⟨attempts, lines, hbefore, hsteps, -⟩ := outcome_runSteps host flowId ht ctx state h
  obtain ⟨name, hname⟩ := Step.runStep_of_not_typed hs host
  refine ⟨attempts, lines, name, hsteps, (outcome_runSteps_append hbefore _).trans ?_⟩
  refine outcome_bind_error ?_
  unfold stepResult
  rw [hname]
  rfl

/-! ## Flows -/

theorem inputEntries_of_isMap {input : Value} (hi : input.isMap = true) :
    ∃ entries, inputEntries input = .ok entries := by
  unfold inputEntries
  split
  · cases input with
    | map fields => exact ⟨_, rfl⟩
    | table entries => exact ⟨_, rfl⟩
    | _ => cases hi
  · exact ⟨_, rfl⟩

/-- A flow leaves a trace of its steps, and is reported with their entries. -/
theorem outcome_executeSteps (host : Host α) {f : Flow} (ht : ∀ s ∈ f.steps, s.Typed)
    {input entries : Value} (hi : inputEntries input = .ok entries) (h : Hub α) :
    ∃ attempts lines, let ended : Hub α := { hubAfter host h attempts with log := lines }
      let results := entriesAfter host entries attempts
      Attempts host (flowContext h f entries) h f.steps attempts ∧
      outcome (executeSteps host f input) h =
        (.ok (results, attempts.countP (·.fails host)),
          (outcome (announce host Topic.flowExecuted (flowReport f
            (Value.settled (inputAfter host entries attempts) entries.asParts) results ended.now.text))
            ended).2) ∧
      ∀ F : Frame α, F.Free → host.ActsWithin F → host.TellsWithin F Topic.notification →
        host.TellsWithin F Topic.ruleExecuted → F.allows h ended := by
  obtain ⟨attempts, lines, hrun, hsteps, hsplits⟩ := outcome_runSteps host f.id ht
    (flowContext h f entries) ⟨[], entries, 0⟩ h
  let results := entriesAfter host entries attempts
  let failures := attempts.countP (·.fails host)
  let line : LogLine := ⟨.info, flowPart,
    "Flow executed: " ++ f.title ++ s!" steps={results.length} failed={failures}"⟩
  have hresults : (FlowState.after host ⟨[], entries, 0⟩ attempts).settled = results := rfl
  have hfailures : (FlowState.after host ⟨[], entries, 0⟩ attempts).failures = failures :=
    Nat.zero_add _
  refine ⟨attempts, line :: lines, ⟨hsteps, fun before a after hsplit => ?_,
    fun before a after hsplit => ?_⟩, ?_, fun F hF ha hn hr => ?_⟩
  · exact (hsplits before a after hsplit).1
  · exact (hsplits before a after hsplit).2
  · unfold executeSteps
    rw [outcome_bind, outcome_ofExcept, hi]
    dsimp only
    rw [outcome_bind_ok (outcome_get h), outcome_bind_ok hrun, hresults, hfailures,
      outcome_bind_ok (outcome_log rfl _ _ _), outcome_bind_ok (outcome_now _),
      outcome_bind_ok (outcome_announce_ok _ _ _)]
    rfl
  · exact F.trans ((within_runSteps hF ha hn.reports hr.reports f.id _ _ f.steps).of_outcome hrun) (hF.log _ _)

section Executed

variable {host : Host α} {h : Hub α} {f : Flow} {id : String} {input : Value}

theorem outcome_executeFlow (hf : Assoc.get? h.flows.book id = some f)
    (he : f.metadata.enabled = true) :
    outcome (executeFlow host id input) h = outcome (runFlow host f input) h := by
  unfold executeFlow
  rw [outcome_bind_ok (outcome_get h), hf]
  dsimp only
  rw [he]
  rfl

theorem countP_ne_zero {β : Type} (p : β → Bool) (items : List β) :
    (items.countP p != 0) = items.any p := by
  rw [Bool.eq_iff_iff, bne_iff_ne, ← Nat.pos_iff_ne_zero, List.countP_pos_iff, List.any_eq_true]

/-- Flows of quiet applications move a gauge by the one report, and are counted once. -/
theorem Gauge.settles_runFlow {g : Gauge α} (hg : g.Fits host)
    (hw : g.weight Topic.ruleExecuted = 0) (hr : g.Ready h) {ended : Hub α}
    (hended : ∀ F : Frame α, F.Free → host.ActsWithin F → host.TellsWithin F Topic.notification →
      host.TellsWithin F Topic.ruleExecuted → F.allows (h.withFlows h.flows.begin) ended)
    (n : Notice) (run : FlowRun) :
    let told := (outcome (announce host Topic.flowExecuted n) ended).2
    FlowDesk.Settled (run.failures != 0) h.flows (told.flows.finish run) ∧
      g.noted told.host = g.noted h.host + g.weight Topic.flowExecuted := by
  have hsteps : g.Adds 0 (h.withFlows h.flows.begin) ended :=
    hended g.still g.still_free hg.acts (tells_notification hg)
      (tells_of_weight hg (by decide : Topic.ruleExecuted ∉ listenedTopics) hw)
  obtain ⟨-, htally, hnoted⟩ := hsteps.after
    (adds_announce hg (by decide : Topic.flowExecuted ∉ listenedTopics) n ended) (hr.of_same rfl rfl rfl rfl)
  exact ⟨FlowDesk.settled_finish run htally, hnoted⟩

/-- The entry of a step has the words of whatever went wrong in it, a fault of a step or any other. -/
theorem Attempt.entry_of_fault {a : Attempt α} {stepId : Value} {t : Task α StepReply} {fault : Fault}
    {h' : Hub α} (hs : runStep host a.step a.context = asStep stepId t)
    (hf : outcome t a.hub = (.error fault, h')) :
    a.entry host = .map [("error", .text fault.message)] := by
  have hrun : a.run host = (.error (stepFault stepId fault), h') := by
    rw [Attempt.run, hs, outcome_asStep_error hf]
  rw [Attempt.entry, hrun, ← message_stepFault stepId fault]

/-- A flow that is registered and enabled gives the entries of its steps, one for each in order.
Every step is run once, whatever came of those before: in a context whose results are exactly their
entries, the last of which stands under `previous`. The entry of a step is its value, or the words of
whatever went wrong in it. The entries are reported in one notice, and the flow is counted as failed
exactly when a step did.

The input of a running flow is shared with its steps: an entry that holds the input, or a part of it,
reads as the input is by then. As long as no function changes the input, the results that a step finds
are the first of the results of the flow. -/
theorem executeFlow_attempts (hf : Assoc.get? h.flows.book id = some f)
    (he : f.metadata.enabled = true) (hi : input.isMap = true) (ht : ∀ s ∈ f.steps, s.Typed) :
    ∃ entries attempts lines,
      let begun := h.withFlows h.flows.begin
      let ended : Hub α := { hubAfter host begun attempts with log := lines }
      let results := entriesAfter host entries attempts
      let report := flowReport f (Value.settled (inputAfter host entries attempts) entries.asParts)
        results ended.now.text
      let told := (outcome (announce host Topic.flowExecuted report) ended).2
      let run : FlowRun := ⟨f.id, h.now.text, attempts.countP (·.fails host)⟩
      inputEntries input = .ok entries ∧
      Attempts host (flowContext begun f entries) begun f.steps attempts ∧
      outcome (executeFlow host id input) h = (.ok results, told.withFlows (told.flows.finish run)) ∧
      results.length = f.steps.length ∧
      (∀ before a after, attempts = before ++ a :: after →
        a.context.steps = (before.map (·.entry host)).map (Value.settled a.context.input) ∧
        a.context.templateValues.lookup "steps" = .ok (some (.list a.context.steps)) ∧
        a.context.templateValues.lookup "previous" = .ok (some (.ofOption a.context.steps.getLast?)) ∧
        (∀ stepId t fault h', runStep host a.step a.context = asStep stepId t →
          outcome t a.hub = (.error fault, h') →
          a.entry host = .map [("error", .text fault.message)]) ∧
        ((∀ b ∈ attempts, b.input host = entries) → a.context.steps = results.take before.length)) ∧
      ∀ (app : Application α) depth, host = ⟨app, receive app (depth + 1)⟩ → app.Quiet → h.Steady →
        FlowDesk.Settled (attempts.any (·.fails host)) h.flows (told.flows.finish run) ∧
        ∀ w : Watch app, w.Unmoved Topic.flowExecuted → w.On Topic.flowExecuted h.bus.subscriptions →
          w.noted told.host = w.noted h.host + 1 := by
  obtain ⟨entries, hentries⟩ := inputEntries_of_isMap hi
  obtain ⟨attempts, lines, htrace, hrun, hframe⟩ :=
    outcome_executeSteps host ht hentries (h.withFlows h.flows.begin)
  refine ⟨entries, attempts, lines, hentries, htrace, ?_, ?_, ?_, ?_⟩
  · rw [outcome_executeFlow hf he]
    exact outcome_tallied_ok (outcome_bind_ok hrun)
  · rw [length_entriesAfter, ← htrace.steps, List.length_map]
  -- What a step finds is what the steps before it left, since it begins with their state.
  · intro before a after hsplit
    have hctx := htrace.context before a after hsplit
    have hinput : a.context.input = inputAfter host entries before := by rw [hctx]; rfl
    have hsteps : a.context.steps = entriesAfter host entries before := by rw [hctx]; rfl
    refine ⟨?_, a.context.lookup_steps, a.context.lookup_previous,
      fun _ _ _ _ => Attempt.entry_of_fault, fun hsame => ?_⟩
    · rw [hsteps, hinput, entriesAfter, Value.settledItems_eq_map]
    · have hbefore : ∀ b ∈ before, b.input host = entries := fun b hb =>
        hsame b (hsplit ▸ List.mem_append_left _ hb)
      rw [hsteps, entriesAfter_of_input hbefore, entriesAfter_of_input hsame, hsplit]
      simp
  -- The steps move neither the counters nor a watch, so the report of the flow is the only notice.
  · intro app depth hhost happ hsteady
    let run : FlowRun := ⟨f.id, h.now.text, attempts.countP (·.fails host)⟩
    refine ⟨?_, fun w hw hon => ?_⟩
    · have hg : (Gauge.ofFlows fun _ => True).Fits host :=
        hhost ▸ Gauge.ofFlows_fits happ happ.keepsAll depth
      rw [← countP_ne_zero]
      exact (Gauge.settles_runFlow hg rfl ⟨hsteady, trivial⟩ hframe _ run).1
    · have hg : (w.gauge Topic.flowExecuted).Fits host := hhost ▸ w.gauge_fits hw (by decide) depth
      have hquiet : (w.gauge Topic.flowExecuted).weight Topic.ruleExecuted = 0 := by
        rw [w.weight_gauge, if_neg (by decide)]
      refine (Gauge.settles_runFlow hg hquiet ⟨hsteady, hon⟩ hframe _ run).2.trans ?_
      rw [w.weight_gauge, if_pos rfl]
      rfl

/-- A flow with a step whose type cannot be looked up gives no entries and is not reported: it raises after the
steps before that one, and is counted as failed. -/
theorem executeFlow_untyped (hf : Assoc.get? h.flows.book id = some f) (he : f.metadata.enabled = true)
    (hi : input.isMap = true) {before after : List Step} {s : Step} (hsplit : f.steps = before ++ s :: after)
    (ht : ∀ b ∈ before, b.Typed) (hs : ¬ s.Typed) :
    ∃ attempts lines name,
      let ended : Hub α := { hubAfter host (h.withFlows h.flows.begin) attempts with log := lines }
      attempts.map (·.step) = before ∧
      outcome (executeFlow host id input) h = (.error (.type (.unhashable name)),
        ended.withFlows (ended.flows.finish ⟨f.id, h.now.text, 1⟩)) := by
  obtain ⟨entries, hentries⟩ := inputEntries_of_isMap hi
  let begun := h.withFlows h.flows.begin
  obtain ⟨attempts, lines, name, hsteps, hrun⟩ := outcome_runSteps_untyped host f.id ht hs after
    (flowContext begun f entries) ⟨[], entries, 0⟩ begun
  have hraised : outcome (executeSteps host f input) begun =
      (.error (.type (.unhashable name)), { hubAfter host begun attempts with log := lines }) := by
    unfold executeSteps
    rw [outcome_bind, outcome_ofExcept, hentries]
    dsimp only
    rw [outcome_bind_ok (outcome_get begun), hsplit, outcome_bind_error hrun]
  refine ⟨attempts, lines, name, hsteps, ?_⟩
  rw [outcome_executeFlow hf he, runFlow, outcome_tallied, outcome_bind_error hraised]

end Executed

/-- A flow whose only step was built with a list for its type. -/
def listTypedFlow : Flow where
  id := some "f1"
  name := "Listed"
  description := ""
  steps := [.unchecked .actionStep [("id", .text "s1"), ("type", .list [])]]
  metadata := .fresh "2024-01-01T00:00:00"

/-- The hub that has been started, with the flow and a watch of the runs of flows. -/
def Hub.withListTyped : Hub Nat :=
  (outcome ((HubCall.createFlow (.checked listTypedFlow)).run Application.counting.host)
    (outcome ((HubCall.subscribe Topic.flowExecuted (.client 0)).run Application.counting.host)
      Hub.started).2).2

/-- The flow is registered and enabled, and yet it gives no entries: it raises what no step does, and the
client that is told of runs of flows is told of none. -/
theorem executeFlow_unhashable :
    HubRun .counting .any [] Hub.withListTyped ∧
    (∃ f, Assoc.get? Hub.withListTyped.flows.book "f1" = some f ∧ f.metadata.enabled = true) ∧
    Hub.withListTyped.bus.subscriptions.ofTopic Topic.flowExecuted = [.client 0] ∧
    ∃ name h', outcome (executeFlow Application.counting.host "f1" (.map [])) Hub.withListTyped =
        (.error (.type (.unhashable name)), h') ∧
      h'.host = Hub.withListTyped.host := by
  have hrun : HubRun .counting .any [] Hub.withListTyped :=
    .call (.createFlow (.checked listTypedFlow))
      (.call (.subscribe Topic.flowExecuted (.client 0)) (.started _ _) trivial) trivial
  refine ⟨hrun, ⟨_, rfl, rfl⟩, rfl, ?_⟩
  obtain ⟨attempts, lines, name, hsteps, hraised⟩ :=
    @executeFlow_untyped Nat Application.counting.host Hub.withListTyped _ "f1" (.map []) rfl rfl rfl [] [] _
      rfl (fun _ hb => by cases hb) (fun ht => by cases ht)
  obtain rfl := List.map_eq_nil_iff.1 hsteps
  exact ⟨name, _, hraised, rfl⟩

/-- A flow whose middle step has a type that is none, between two that put the results so far into
words. -/
def oddFlow : Flow where
  id := some "f1"
  name := "Odd"
  description := ""
  steps := [.transform "one" .null ⟨.template, .text "zone \x7b\x7bzone\x7d\x7d", none⟩,
    .irregular [("id", .text "two"), ("type", .text "odd")],
    .transform "three" (.text "\x7b\x7bprevious.error\x7d\x7d") ⟨.template, .text "done", none⟩]
  metadata := ⟨true, none, false, none, "", ""⟩

/-- A hub with the flow. -/
def Hub.withOddFlow : Hub Nat :=
  { Hub.atMidnight 0 with
    engine := .empty (some .bus), flows := { FlowDesk.empty with book := [("f1", oddFlow)] } }

/-- An application whose functions fail, as a host. -/
def Application.countingHost : Host Nat := ⟨.counting, receive .counting 1⟩

theorem executeFlow_attempts_odd :
    ∃ results h', outcome (executeFlow Application.countingHost "f1" (.map [("zone", .text "z1")]))
        Hub.withOddFlow = (.ok results, h') ∧
      results.length = 3 ∧ results[1]? = some (.map [("error", .text "Unknown step type: odd")]) ∧
      h'.flows.completed = 0 ∧ h'.flows.failed = 1 := by
  have htyped : ∀ s ∈ oddFlow.steps, s.Typed := by
    intro s hs
    simp only [oddFlow, List.mem_cons, List.not_mem_nil, or_false] at hs
    rcases hs with rfl | rfl | rfl
    · trivial
    · rfl
    · trivial
  have hsteady : Hub.withOddFlow.Steady := ⟨rfl, rfl, fun s hs => by cases hs⟩
  obtain ⟨entries, attempts, lines, -, htrace, hrun, hlength, -, hquiet⟩ :=
    @executeFlow_attempts Nat Application.countingHost Hub.withOddFlow oddFlow "f1"
      (.map [("zone", .text "z1")]) rfl rfl rfl htyped
  obtain ⟨a, b, c, rfl⟩ := List.length_eq_three.1
    ((List.length_map _).symm.trans (congrArg List.length htrace.steps))
  have hodd : b.step = .irregular [("id", .text "two"), ("type", .text "odd")] :=
    (List.cons.inj (List.cons.inj htrace.steps).2).1
  have hfault : b.run Application.countingHost =
      (.error (.step (.text "two") "Unknown step type: odd" none), b.hub) := by
    rw [Attempt.run, hodd]
    rfl
  have hentry : b.entry Application.countingHost =
      .map [("error", .text "Unknown step type: odd")] := by
    rw [Attempt.entry, hfault]
    rfl
  have hfails : [a, b, c].any (·.fails Application.countingHost) = true := by
    simp [Attempt.fails, hfault, Except.isOk, Except.toBool]
  obtain ⟨hsettled, -⟩ := hquiet .counting 0 rfl Application.counting_quiet hsteady
  rw [hfails] at hsettled
  refine ⟨_, _, hrun, hlength, ?_, hsettled.completed, hsettled.failed⟩
  simp [entriesAfter, Value.settledItems, Value.settledFields, Value.settled, hentry]

end EventHub
