import EventHub.Proofs.Rules.Selection
import Mathlib.Algebra.Group.Nat.Defs
import Mathlib.Algebra.Group.Prod
import Mathlib.Tactic.Abel

/-!
# The daybook of the rule engine

Actions and subscribers that may do anything: change the hub, return, raise, publish, and call the engine,
which calls them again. Whatever the engine gives back is entered in a daybook, and its counters are the
sums over the daybook.

* **Daybooks** (`Processing`, `Daybook`): what the calls of the engine came to, and what they amount to
  (`Processing.tally`).
* **Counting** (`Hub.Counts`): what was counted beside what was entered. Two changes in turn add up.
* **The engine** (`executeRule_counts`, `processEvent_counts`): a run counts itself, whatever its actions do,
  as long as they and the subscribers keep the accounts (`Frame.accounted`).
* **Deeds** (`Deed`, `Crew`): what actions and subscribers do, as programs. They keep the accounts, by
  induction on the program and on the depth to which calls are nested (`Crew.keepsAccounts`).
* `Crew.accounts`: a call does not fail, and after any sequence of calls the counters are the sums.
-/

namespace EventHub

open EventHub.Task

variable {σ β : Type}

/-! ## Daybooks -/

/-- What a call of the engine came to: the rules whose conditions raised, and the runs of those that
matched. -/
structure Processing where
  raised : List Rule
  runs : RuleRuns

/-- A state, and what the calls of the engine came to, oldest first. -/
structure Daybook (σ : Type) where
  state : σ
  entries : List Processing

/-- The runs of rules, their actions, and the errors. -/
abbrev Tally := Nat × Nat × Nat

/-- What the counters of the engine tell. -/
def Engine.tally (s : Engine) : Tally := (s.rulesRun, s.actionsRun, s.errors)

namespace Processing

variable (entries : List Processing)

/-- All runs of rules, in order. -/
def executions : RuleRuns := entries.flatMap (·.runs)

/-- The outcomes of all actions, in order. -/
def outcomes : List ActionOutcome := (executions entries).flatMap (·.outcomes)

/-- The faults of all actions that failed, in order. -/
def faults : List Fault := (executions entries).flatMap RuleRun.failures

/-- The rules whose conditions raised, as often as they did. -/
def raisings : List Rule := entries.flatMap (·.raised)

/-- What the entries amount to. -/
def tally : Tally :=
  ((executions entries).length, (outcomes entries).length,
    (faults entries).length + (raisings entries).length)

theorem tally_append (entries more : List Processing) :
    tally (entries ++ more) = tally entries + tally more := by
  simp [tally, raisings, faults, outcomes, executions, Nat.add_add_add_comm]

/-- The runs of rules and the rules that raised count apart. -/
theorem tally_one (raised : List Rule) (runs : RuleRuns) :
    tally [⟨raised, runs⟩] = (0, 0, raised.length) + tally [⟨[], runs⟩] := by
  simp [tally, raisings, faults, outcomes, executions, Nat.add_comm]

theorem tally_run (run : RuleRun) (runs : RuleRuns) :
    tally [⟨[], run :: runs⟩] = tally [⟨[], [run]⟩] + tally [⟨[], runs⟩] := by
  simp [tally, raisings, faults, outcomes, executions, Nat.add_comm]

end Processing

/-- The counters of the engine are the sums over the daybook: of the runs, of their outcomes, and of the
outcomes that failed and the conditions that raised. -/
structure Hub.Balanced (h : Hub (Daybook σ)) : Prop where
  rulesRun : h.engine.rulesRun = (Processing.executions h.host.entries).length
  actionsRun : h.engine.actionsRun = (Processing.outcomes h.host.entries).length
  errors : h.engine.errors =
    (Processing.faults h.host.entries).length + (Processing.raisings h.host.entries).length

theorem Hub.balanced_iff {h : Hub (Daybook σ)} :
    h.Balanced ↔ h.engine.tally = Processing.tally h.host.entries := by
  simp only [Engine.tally, Processing.tally, Prod.mk.injEq]
  exact ⟨fun hb => ⟨hb.rulesRun, hb.actionsRun, hb.errors⟩, fun ⟨hr, ha, he⟩ => ⟨hr, ha, he⟩⟩

/-- The hub with another entry in the daybook. -/
def Hub.enter (h : Hub (Daybook σ)) (p : Processing) : Hub (Daybook σ) :=
  { h with host := { h.host with entries := h.host.entries ++ [p] } }

/-! ## Counting -/

/-- From a hub in order on: what was entered in the daybook meanwhile was counted, and `owed` beside it. -/
def Hub.Counts (owed : Tally) (h h' : Hub (Daybook σ)) : Prop :=
  h.outages = [] → h'.outages = [] ∧ ∃ news, h'.host.entries = h.host.entries ++ news ∧
    h'.engine.tally = h.engine.tally + Processing.tally news + owed

namespace Hub

variable {h h₁ h₂ : Hub (Daybook σ)} {owed more : Tally}

theorem Counts.of_same (ho : h₁.outages = h.outages) (he : h₁.host.entries = h.host.entries)
    (ht : h₁.engine.tally = h.engine.tally + owed) : Counts owed h h₁ :=
  fun hh => ⟨ho.trans hh, [], by rw [he, List.append_nil], ht⟩

/-- A change that neither counts nor enters anything, and leaves the operations in order. -/
structure Keeps (h h' : Hub (Daybook σ)) : Prop where
  outages : h'.outages = h.outages
  entries : h'.host.entries = h.host.entries
  tally : h'.engine.tally = h.engine.tally

theorem Keeps.counts (hk : h.Keeps h₁) : Counts 0 h h₁ :=
  .of_same hk.outages hk.entries hk.tally

theorem Counts.trans (hc : Counts owed h h₁) (hc' : Counts more h₁ h₂) : Counts (owed + more) h h₂ := by
  intro hh
  obtain ⟨ho, news, hnews, ht⟩ := hc hh
  obtain ⟨ho', later, hlater, ht'⟩ := hc' ho
  refine ⟨ho', news ++ later, by rw [hlater, hnews, List.append_assoc], ?_⟩
  rw [ht', ht, Processing.tally_append]
  abel

/-- Entering what was counted settles it. -/
theorem Counts.enter {p : Processing} (hc : Counts (Processing.tally [p]) h h₁) :
    Counts 0 h (h₁.enter p) := by
  intro hh
  obtain ⟨ho, news, hnews, ht⟩ := hc hh
  refine ⟨ho, news ++ [p], ?_, ?_⟩
  · rw [← List.append_assoc, ← hnews]
    rfl
  · rw [Processing.tally_append, add_zero, ← add_assoc]
    exact ht

end Hub

/-- The frame in which everything that is counted is entered. -/
def Frame.accounted : Frame (Daybook σ) where
  allows := Hub.Counts 0
  refl _ := .of_same rfl rfl rfl
  trans h₁ h₂ := h₁.trans h₂

theorem Frame.accounted_openToEvents : (Frame.accounted (σ := σ)).OpenToEvents where
  log _ _ := .of_same rfl rfl rfl
  effects _ _ := .of_same rfl rfl rfl
  serial _ _ := .of_same rfl rfl rfl
  cache _ _ := .of_same rfl rfl rfl
  deskCounters _ _ _ _ _ := .of_same rfl rfl rfl
  events _ _ _ _ _ := .of_same rfl rfl rfl

theorem Frame.accounted_openToActions : (Frame.accounted (σ := σ)).OpenToActions :=
  Frame.accounted_openToEvents.toOpenToActions

/-! ## The engine -/

/-- The rules whose conditions raise on the event. -/
def Hub.raisedOn {α : Type} (h : Hub α) (ask : String → Value → Except Fault Value) (e : Event) :
    List Rule :=
  (h.engine.book.candidates e.type).filter (·.failsOn ask e)

/-- The rules whose conditions raise on the event that is given, if it is one. -/
def Hub.raisedBy {α : Type} (h : Hub α) (host : Host α) (raw : Definition Event) : List Rule :=
  match (outcome (normalizeEvent raw) h).1 with
  | .ok e => h.raisedOn host.app.ask e
  | .error _ => []

/-- Runs the rules of an event, and enters what they came to. -/
def processEntered (host : Host (Daybook σ)) (raw : Definition Event) (ctx : Option Context) :
    Task (Daybook σ) RuleRuns := do
  let h ← get
  let runs ← processEvent host raw ctx
  modify (·.enter ⟨h.raisedBy host raw, runs⟩)
  return runs

/-- Runs a rule, and enters its run. -/
def executeEntered (host : Host (Daybook σ)) (r : Rule) (e : Event) (ctx : Option Context) :
    Task (Daybook σ) RuleRun := do
  let run ← executeRule host r e ctx
  modify (·.enter ⟨[], [run]⟩)
  return run

section Engine

variable {host : Host (Daybook σ)} {h : Hub (Daybook σ)} {e : Event}
  (ha : host.ActsWithin .accounted) (hs : ∀ s n, Within .accounted (host.receive s n))
include ha hs

/-- A rule that is run is counted with its outcomes, whatever they are. -/
theorem executeRule_counts (r : Rule) (e : Event) (ctx : Option Context) (ho : h.outages = []) :
    ∃ run h', RuleEnds host e ctx r h run h' ∧
      h.Counts (Processing.tally [⟨[], [run]⟩]) h' := by
  have hF := Frame.accounted_openToActions (σ := σ)
  have ht (topic : String) := (Host.TellsWithin.of_receive hF hs topic).reports
  obtain ⟨outcomes, h₁, lines, hacts, hends⟩ := executeRule_ok host r e ctx ho
  refine ⟨_, _, hends, ?_⟩
  generalize RuleRun.mk (r.id.getD "") r.name e.id outcomes h.now.text = run
  have hacted : h.Counts 0 h₁ := (within_runActions hF ha (ht _) _ _).of_outcome hacts
  have hcounted : h₁.Counts (Processing.tally [⟨[], [run]⟩])
      { h₁ with engine := h₁.engine.count run, log := lines } :=
    .of_same rfl rfl (by
      simp [Engine.tally, Engine.count, Processing.tally, Processing.executions, Processing.outcomes,
        Processing.faults, Processing.raisings])
  have htold := within_emit hF (ht Topic.ruleExecuted) h₁.engine.outlet
    (n := .value ((h.ruleContext ctx r e).settled run.toValue)) rfl
    { h₁ with engine := h₁.engine.count run, log := lines }
  have hall := (hacted.trans hcounted).trans htold
  rwa [zero_add, add_zero] at hall

/-- Rules that are run are counted, each with its outcomes. -/
theorem executeAll_counts (e : Event) (ctx : Option Context) (rules : List Rule)
    (ho : h.outages = []) : ∃ runs h', RulesEnd host e ctx rules h runs h' ∧
      h.Counts (Processing.tally [⟨[], runs⟩]) h' := by
  have hthen {run : RuleRun} {runs : RuleRuns} {h h₁ h₂ : Hub (Daybook σ)}
      (hfirst : h.Counts (Processing.tally [⟨[], [run]⟩]) h₁)
      (hrest : h₁.Counts (Processing.tally [⟨[], runs⟩]) h₂) :
      h.Counts (Processing.tally [⟨[], run :: runs⟩]) h₂ := by
    rw [Processing.tally_run]
    exact hfirst.trans hrest
  exact rulesEnd_adds (fun runs h h' => h.Counts (Processing.tally [⟨[], runs⟩]) h')
    (fun _ => .of_same rfl rfl rfl) hthen (fun hcounts ho => (hcounts ho).1)
    (fun r _ ho => executeRule_counts ha hs r e ctx ho) rules ho

/-- An event runs the rules that match it, one after the other, whatever they do, and its call is counted
with its runs and the conditions that raised. -/
theorem processEvent_counts {raw : Definition Event} (ctx : Option Context) {h₁ : Hub (Daybook σ)}
    (ho : h.outages = []) (hn : outcome (normalizeEvent raw) h = (.ok e, h₁)) : ∃ lines runs h',
      let raised := h.raisedOn host.app.ask e
      RulesEnd host e ctx (h.engine.book.matching host.app.ask e)
        (h₁.afterFailures raised.length lines) runs h' ∧
      outcome (processEvent host raw ctx) h = (.ok runs, h') ∧
      h.Counts (Processing.tally [⟨raised, runs⟩]) h' := by
  obtain ⟨serial, hserial⟩ := normalizeEvent_hub raw h
  obtain rfl : h₁ = { h with serial } := by rw [← hserial, hn]
  obtain ⟨lines, hmatch⟩ := outcome_matching host e { h with serial }
  let judged : Hub (Daybook σ) :=
    Hub.afterFailures { h with serial } (h.raisedOn host.app.ask e).length lines
  have hjudged : h.Counts (0, 0, (h.raisedOn host.app.ask e).length) judged := .of_same rfl rfl rfl
  obtain ⟨runs, h', hends, hcounts⟩ := executeAll_counts ha hs e ctx
    (h.engine.book.matching host.app.ask e) (hjudged ho).1
  refine ⟨lines, runs, h', hends, ?_, ?_⟩
  · exact (outcome_processEvent_eq ho hn hmatch ctx).trans hends.outcome_eq
  · rw [Processing.tally_one]
    exact hjudged.trans hcounts

omit ha hs in
theorem outcome_processEntered {raw : Definition Event} {ctx : Option Context} {runs : RuleRuns}
    {h' : Hub (Daybook σ)} (hrun : outcome (processEvent host raw ctx) h = (.ok runs, h')) :
    outcome (processEntered host raw ctx) h =
      (.ok runs, h'.enter ⟨h.raisedBy host raw, runs⟩) := by
  rw [processEntered, outcome_bind_ok (outcome_get h), outcome_bind_ok hrun]
  rfl

theorem within_processEntered (raw : Definition Event) (ctx : Option Context) :
    Within .accounted (processEntered host raw ctx) := by
  intro h ho
  cases hn : outcome (normalizeEvent raw) h with
  | mk r h₁ =>
  cases r with
  | error fault =>
    -- An event that is refused draws an id at most.
    obtain ⟨serial, hserial⟩ := normalizeEvent_hub raw h
    have hrun : outcome (processEvent host raw ctx) h = (.error fault, h₁) := by
      rw [processEvent, outcome_bind_ok (outcome_engineOperation_ok ho), outcome_bind_error hn]
    rw [processEntered, outcome_bind_ok (outcome_get h), outcome_bind_error hrun]
    obtain rfl : h₁ = { h with serial } := by rw [← hserial, hn]
    exact Frame.accounted_openToActions.serial h serial ho
  | ok e =>
    obtain ⟨lines, runs, h', -, hrun, hcounts⟩ := processEvent_counts ha hs ctx ho hn
    have hraised : h.raisedBy host raw = h.raisedOn host.app.ask e := by rw [Hub.raisedBy, hn]
    rw [outcome_processEntered hrun, hraised]
    exact hcounts.enter ho

theorem within_executeEntered (r : Rule) (e : Event) (ctx : Option Context) :
    Within .accounted (executeEntered host r e ctx) := by
  intro h ho
  obtain ⟨run, h', hends, hcounts⟩ := executeRule_counts ha hs r e ctx ho
  rw [executeEntered, outcome_bind_ok hends.ran]
  exact hcounts.enter ho

end Engine

/-! ## Deeds -/

/-- What an action or a subscriber does: it returns, raises, changes the hub but for what the engine counts,
publishes, or calls the engine, and each time goes on with what it sees by then. -/
inductive Deed (σ β : Type)
  | done (b : β)
  | fail (fault : Fault)
  | turn (change : Hub (Daybook σ) → Hub (Daybook σ)) (keeps : ∀ h, Hub.Keeps h (change h))
    (next : Hub (Daybook σ) → Deed σ β)
  | publish (topic : String) (n : Notice) (next : Except Fault Nat → Deed σ β)
  | publishEvent (raw : Definition Event) (next : Except Fault Event → Deed σ β)
  | execute (r : Rule) (e : Event) (ctx : Option Context) (next : Except Fault RuleRun → Deed σ β)
  | process (raw : Definition Event) (ctx : Option Context)
    (next : Except Fault RuleRuns → Deed σ β)

/-- Does what the program says. -/
def Deed.run (host : Host (Daybook σ)) : Deed σ β → Task (Daybook σ) β
  | done b => return b
  | fail fault => throw fault
  | turn change _ next => do
    modify change
    (next (← get)).run host
  | publish topic n next => do
    (next (← Task.attempt (EventHub.publish host topic n))).run host
  | publishEvent raw next => do
    (next (← Task.attempt (EventHub.publishEvent host raw))).run host
  | execute r e ctx next => do
    (next (← Task.attempt (executeEntered host r e ctx))).run host
  | process raw ctx next => do
    (next (← Task.attempt (processEntered host raw ctx))).run host

/-- The functions, and what the actions and the subscribers do. -/
structure Crew (σ : Type) where
  ask : String → Value → Except Fault Value
  act : String → Value → Context → Deed σ Reply
  hear : Subscriber → Notice → Deed σ Unit

/-- The crew at work, with so many levels for calls within calls; below them every call raises. -/
def Crew.host (c : Crew σ) : Nat → Host (Daybook σ)
  | 0 => ⟨⟨c.ask, fun _ _ _ _ => throw .tooDeep, fun _ _ _ => throw .tooDeep⟩, fun _ _ => throw .tooDeep⟩
  | levels + 1 =>
    let inner := c.host levels
    ⟨⟨c.ask, fun _ name v ctx => (c.act name v ctx).run inner,
      fun _ k n => (c.hear (.client k) n).run inner⟩, fun s n => (c.hear s n).run inner⟩

/-- What is done keeps the accounts where actions and subscribers do. By induction on the program. -/
theorem Deed.within_run {host : Host (Daybook σ)} (ha : host.ActsWithin .accounted)
    (hs : ∀ s n, Within .accounted (host.receive s n)) (d : Deed σ β) :
    Within .accounted (d.run host) := by
  have hF := Frame.accounted_openToEvents (σ := σ)
  induction d with
  | done b => exact Within.pure b
  | fail fault => exact Within.throw fault
  | turn change keeps next ih =>
    exact Within.bind (Within.change fun h => (keeps h).counts) fun _ => Within.bind Within.get ih
  | publish topic n next ih =>
    have hp : Within .accounted (EventHub.publish host topic n) :=
      Within.bind Within.get fun _ => within_deliver hF.toOpenToActions fun s _ => hs s n
    exact Within.bind (Within.attempt hp) ih
  | publishEvent raw next ih => exact Within.bind (Within.attempt (within_publishEvent hF hs raw)) ih
  | execute r e ctx next ih => exact Within.bind (Within.attempt (within_executeEntered ha hs r e ctx)) ih
  | process raw ctx next ih => exact Within.bind (Within.attempt (within_processEntered ha hs raw ctx)) ih

/-- However many levels there are, a crew keeps the accounts. By induction on the levels. -/
theorem Crew.keepsAccounts (c : Crew σ) (levels : Nat) : (c.host levels).ActsWithin .accounted ∧
    ∀ s n, Within .accounted ((c.host levels).receive s n) := by
  induction levels with
  | zero => exact ⟨fun _ _ _ => Within.throw _, fun _ _ => Within.throw _⟩
  | succ levels ih =>
    obtain ⟨ha, hs⟩ := ih
    exact ⟨fun name v ctx => (c.act name v ctx).within_run ha hs,
      fun s n => (c.hear s n).within_run ha hs⟩

theorem Crew.ask_host (c : Crew σ) (levels : Nat) : (c.host levels).app.ask = c.ask := by
  cases levels <;> rfl

theorem Hub.Counts.balanced {h h' : Hub (Daybook σ)} (hc : h.Counts 0 h') (ho : h.outages = [])
    (hb : h.Balanced) : h'.Balanced := by
  obtain ⟨-, news, hnews, ht⟩ := hc ho
  rw [Hub.balanced_iff] at hb ⊢
  rw [ht, hb, hnews, Processing.tally_append, add_zero]

theorem outcome_engineStats {α : Type} {h : Hub α} (ho : h.outages = []) :
    outcome engineStats h = (.ok h.engine.stats, h) := by
  unfold engineStats
  rw [outcome_bind_ok (outcome_engineOperation_ok ho)]
  rfl

/-- A crew at work on a hub in order.

A call of the engine on a valid event does not fail, whatever the actions do. It runs the rules that match,
each of which ends with one outcome for each of its actions, in order, a success exactly when the handler
returned (`ActionEnds`), and it is processed exactly when a rule matched. It is entered after the calls that
were made meanwhile.

If the counters are the sums over the calls so far, they are so after any sequence of calls, with whatever
is done between and within them. -/
theorem Crew.accounts (c : Crew σ) (levels : Nat) {h : Hub (Daybook σ)} (ho : h.outages = []) :
    (∀ raw ctx e h₁, outcome (normalizeEvent raw) h = (.ok e, h₁) → ∃ lines runs h₂ news,
      let matched := h.engine.book.matching c.ask e
      let raised := h.raisedOn c.ask e
      outcome (processEvent (c.host levels) raw ctx) h = (.ok runs, h₂) ∧
      RulesEnd (c.host levels) e ctx matched (h₁.afterFailures raised.length lines) runs h₂ ∧
      runs.length = matched.length ∧ (RuleRuns.processed runs = true ↔ 0 < runs.length) ∧
      outcome (processEntered (c.host levels) raw ctx) h = (.ok runs, h₂.enter ⟨raised, runs⟩) ∧
      (h₂.enter ⟨raised, runs⟩).host.entries = h.host.entries ++ news ++ [⟨raised, runs⟩]) ∧
    (h.Balanced → ∀ d : Deed σ β,
      let h' := (outcome (d.run (c.host levels)) h).2
      h'.outages = [] ∧ h'.Balanced ∧ outcome engineStats h' = (.ok h'.engine.stats, h')) := by
  obtain ⟨ha, hs⟩ := c.keepsAccounts levels
  refine ⟨fun raw ctx e h₁ hn => ?_, fun hb d => ?_⟩
  · obtain ⟨lines, runs, h₂, hends, hrun, hcall⟩ := processEvent_counts ha hs ctx ho hn
    have hraised : h.raisedBy (c.host levels) raw = h.raisedOn c.ask e := by
      rw [Hub.raisedBy, hn, c.ask_host]
    rw [c.ask_host] at hends
    obtain ⟨-, news, hnews, -⟩ := hcall ho
    refine ⟨lines, runs, h₂, news, hrun, hends, hends.isOf.length_eq.symm,
      RuleRuns.processed_iff runs, ?_, ?_⟩
    · rw [outcome_processEntered hrun, hraised]
    · rw [← hnews]
      rfl
  · have hcounts := d.within_run ha hs h
    have ho' := (hcounts ho).1
    exact ⟨ho', hcounts.balanced ho hb, outcome_engineStats ho'⟩

/-- A crew whose actions return, raise, and call the engine again. -/
def Crew.mixed : Crew Unit where
  ask name _ := .error (.raised .runtime name)
  act name v _ := match name with
    | "refuse" => .fail (.action "refuse" "refused" none)
    | "boom" => .fail (.raised .runtime "device offline")
    | "again" => .process (.checked { starEvent with type := "inner" }) none fun _ => .done ⟨.null, v, none⟩
    | _ => .done ⟨.null, v, none⟩
  hear _ _ := .fail .tooDeep

/-- A rule of an id that runs the actions for events of the type. -/
def actingRule (id : String) (conditions : Fields) (actions : List String) : Definition Rule :=
  .document (.map [("id", .text id), ("name", .text id), ("conditions", .map conditions),
    ("actions", .list (actions.map fun name => .map [("type", .text name)]))])

/-- A rule whose actions end in every way, one that an action leads to, and one whose condition raises. -/
def mixedRules : List (Definition Rule) :=
  [actingRule "outer" [("event_type", .text "*")] ["ring", "refuse", "boom", "missing", "again"],
   actingRule "inner" [("event_type", .text "inner")] ["ring"],
   actingRule "broken" [("custom", .function "broken")] ["ring"]]

/-- A hub whose engine has the rules and the actions. -/
def Hub.staffed : Hub (Daybook Unit) :=
  let h := (outcome (loadRules (Crew.mixed.host 0) mixedRules) (Hub.atMidnight ⟨(), []⟩)).2
  { h with engine := { h.engine with
    actions := ["ring", "refuse", "boom", "again"].map fun name => (name, .function name) } }

/-- Two calls of the engine. -/
def twoCalls : Deed Unit Unit :=
  .process (.checked starEvent) none fun _ =>
    .process (.checked { starEvent with type := "inner" }) none fun _ => .done ()

theorem Crew.accounts_mixed :
    let h' := (outcome (twoCalls.run (Crew.mixed.host 2)) Hub.staffed).2
    Hub.staffed.outages = [] ∧ Hub.staffed.Balanced ∧
      (∃ runs h₂, outcome (processEvent (Crew.mixed.host 2) (.checked starEvent) none) Hub.staffed =
        (.ok runs, h₂) ∧ runs.length = 1) ∧
      h'.Balanced ∧ h'.engine.tally = (3, 7, 6) := by
  have ho : Hub.staffed.outages = [] := by decide +kernel
  have hb : Hub.staffed.Balanced := ⟨by decide +kernel, by decide +kernel, by decide +kernel⟩
  have hmatched : (Hub.staffed.engine.book.matching Crew.mixed.ask starEvent).length = 1 := by
    decide +kernel
  obtain ⟨hcall, hcalls⟩ := Crew.accounts (β := Unit) Crew.mixed 2 ho
  obtain ⟨_, runs, h₂, _, hrun, -, hlength, -⟩ := hcall (.checked starEvent) none starEvent _ rfl
  obtain ⟨-, hb', -⟩ := hcalls hb twoCalls
  exact ⟨ho, hb, ⟨runs, h₂, hrun, hlength.trans hmatched⟩, hb', by decide +kernel⟩

end EventHub
