import EventHub.Proofs.Flows.Gauge
import EventHub.Proofs.Hub.Run
import EventHub.Proofs.Rules.Selection

/-!
# The tally of flows

A flow is counted when it begins and when it ends, whatever comes of it.

* **Counting** (`outcome_tallied`): a counted task runs between the beginning and the end of its flow.
* **The balance** (`Frame.balanced`): counted tasks leave as many flows active as they found, and
  every flow that began has ended. The frame lets the hub do what it does.
* **Events** (`Gauge.adds_handleEvent`): handling an event settles one flow and moves a gauge by the
  notices of its rules, or by those of the one flow that logs it.
-/

namespace EventHub

open EventHub.Task

variable {α β : Type}

/-! ## Counting a flow -/

/-- A counted task runs between the beginning and the end of its flow, whatever comes of it. -/
theorem outcome_tallied (flowId : Option String) (t : Task α (β × Option String × Nat)) (h : Hub α) :
    outcome (tallied flowId t) h = match outcome t (h.withFlows h.flows.begin) with
      | (.ok (b, id, failures), h') =>
        (.ok b, h'.withFlows (h'.flows.finish ⟨id, h.now.text, failures⟩))
      | (.error fault, h') =>
        (.error fault, h'.withFlows (h'.flows.finish ⟨flowId, h.now.text, 1⟩)) := by
  have hb : outcome (modifyFlows (α := α) FlowDesk.begin) h =
    (.ok (), h.withFlows h.flows.begin) := rfl
  unfold tallied
  rw [outcome_bind_ok (outcome_now h), outcome_bind_ok hb, outcome_bind_ok (outcome_attempt t _)]
  generalize outcome t (h.withFlows h.flows.begin) = run
  obtain ⟨r, h'⟩ := run
  cases r with
  | error fault => rfl
  | ok made =>
    obtain ⟨b, id, failures⟩ := made
    rfl

theorem outcome_tallied_ok {flowId id : Option String} {t : Task α (β × Option String × Nat)}
    {h h' : Hub α} {b : β} {failures : Nat}
    (ht : outcome t (h.withFlows h.flows.begin) = (.ok (b, id, failures), h')) :
    outcome (tallied flowId t) h =
      (.ok b, h'.withFlows (h'.flows.finish ⟨id, h.now.text, failures⟩)) := by
  rw [outcome_tallied, ht]

/-! ## The balance -/

/-- The flows that are running, and those that have ended beside those that completed or failed. -/
def FlowDesk.balance (d : FlowDesk) : Int × Int := (d.active, d.total - (d.completed + d.failed))

theorem FlowDesk.balance_finish {d d' : FlowDesk} (h : d'.balance = d.begin.balance) (run : FlowRun) :
    (d'.finish run).balance = d.balance := by
  simp only [balance, begin, finish, Prod.mk.injEq] at h ⊢
  split <;> omega

theorem FlowDesk.balance_of_tally {d d' : FlowDesk} (h : d'.tally = d.tally) :
    d'.balance = d.balance := by
  simp only [tally, Prod.mk.injEq] at h
  simp [balance, h]

/-- Steady hubs stay steady, and every flow that began has ended and been counted. -/
def Frame.balanced : Frame α := .whileSteady (.ofPart fun h => h.flows.balance)

theorem Frame.ofBalance_free : (Frame.ofPart fun h : Hub α => h.flows.balance).Free where
  log _ _ := rfl
  effects _ _ := rfl
  serial _ _ := rfl
  cache _ _ := rfl
  deskCounters _ _ _ _ _ := rfl
  engineCounters _ _ _ _ _ := rfl

theorem Frame.balanced_openToHub : (Frame.balanced (α := α)).OpenToHub .any where
  free := Frame.whileSteady_free Frame.ofBalance_free
  edit _ _ _ hh := ⟨⟨hh.inOrder, hh.outlet, hh.apt⟩, rfl⟩
  tallied flowId t ht h hh := by
    have hb : (h.withFlows h.flows.begin).Steady := ⟨hh.inOrder, hh.outlet, hh.apt⟩
    have hend := ht _ hb
    rw [outcome_tallied]
    generalize outcome t (h.withFlows h.flows.begin) = run at hend
    obtain ⟨r, h'⟩ := run
    obtain ⟨hs, hbal⟩ := hend
    have hfin (run : FlowRun) : Frame.balanced.allows h (h'.withFlows (h'.flows.finish run)) := fun _ =>
      ⟨⟨hs.inOrder, hs.outlet, hs.apt⟩, FlowDesk.balance_finish hbal run⟩
    cases r with
    | error fault => exact hfin _ hh
    | ok made => exact hfin _ hh
  book _ _ hh := ⟨⟨hh.inOrder, hh.outlet, hh.apt⟩, rfl⟩
  events _ _ _ _ _ hh := ⟨⟨hh.inOrder, hh.outlet, hh.apt⟩, rfl⟩
  names _ := trivial

theorem Frame.balanced_openToListening : (Frame.balanced (α := α)).OpenToListening where
  listen _ _ _ hs hh := ⟨⟨hh.inOrder, hh.outlet, Subscriptions.apt_add hh.apt hs⟩, rfl⟩
  stop _ id hh := ⟨⟨hh.inOrder, hh.outlet, Subscriptions.apt_remove hh.apt id⟩, rfl⟩
  dispatcher _ _ hh := ⟨⟨hh.inOrder, hh.outlet, hh.apt⟩, rfl⟩
  listeners _ _ _ hh := ⟨⟨hh.inOrder, hh.outlet, hh.apt⟩, rfl⟩
  actions _ _ hh := ⟨⟨hh.inOrder, hh.outlet, hh.apt⟩, rfl⟩

theorem Frame.balanced_passes (h h' : Hub α) (hp : h.Passes h') : Frame.balanced.allows h h' :=
  fun hh => ⟨hh.passes hp, congrArg FlowDesk.balance hp.flows⟩

theorem Hub.Fresh.balance {h : Hub α} (hh : h.Fresh) : h.flows.balance = (0, 0) := by
  rw [hh.flows]
  rfl

/-! ## Events -/

/-- The hub after the rules were judged for the event: those whose conditions fail are counted. -/
def Hub.afterJudging (h : Hub α) (ask : String → Value → Except Fault Value) (e : Event)
    (lines : List LogLine) : Hub α :=
  h.afterFailures ((h.engine.book.candidates e.type).filter (·.failsOn ask e)).length lines

section Events

variable {g : Gauge α} {host : Host α}

theorem Gauge.adds_processEvent (hg : g.Fits host) (e : Event) (ctx : Option Context) {h : Hub α}
    (hr : g.Ready h) :
    ∃ runs h', outcome (processEvent host (.checked e) ctx) h = (.ok runs, h') ∧
      runs.length = (h.engine.book.matching host.app.ask e).length ∧
      g.Adds ((h.engine.book.matching host.app.ask e).length * g.weight Topic.ruleExecuted) h h' ∧
      (h.engine.book.matching host.app.ask e = [] →
        ∃ lines, h' = h.afterJudging host.app.ask e lines) := by
  obtain ⟨lines, hm⟩ := outcome_matching host e h
  have h01 := (within_matchingRules g.still_free e).of_outcome hm
  obtain ⟨runs, h', hall, hlen, h12⟩ := adds_executeAll hg e ctx
    (h.engine.book.matching host.app.ask e) (h01 hr).1
  refine ⟨runs, h', ?_, hlen, h01.after h12, fun hnone => ?_⟩
  · have hn : outcome (normalizeEvent (.checked e)) h = (.ok e, h) := rfl
    exact (outcome_processEvent_eq hr.steady.inOrder hn hm ctx).trans hall
  · rw [hnone] at hall
    cases hall
    exact ⟨lines, rfl⟩

/-- What handling an event adds up to: rules that match are run and told, and otherwise the flow that
logs the event is run and told once. -/
theorem Gauge.adds_handleNotice (hg : g.Fits host) (e : Event) {h : Hub α} (hr : g.Ready h) :
    ∃ id failures h', outcome (handleNotice host (.event e)) h = (.ok (id, failures), h') ∧
      let rules := h.engine.book.matching host.app.ask e
      (rules ≠ [] → failures = 0 ∧ g.Adds (rules.length * g.weight Topic.ruleExecuted) h h') ∧
      (rules = [] → g.Adds (g.weight Topic.flowExecuted + g.weight Topic.genericProcessed) h h' ∧
        ∃ lines, failures =
          if genericFails host e (h.afterJudging host.app.ask e lines) then 1 else 0) := by
  obtain ⟨runs, h₁, hrun, hlen, h01, hnone⟩ := adds_processEvent hg e
    (some ((Context.bare h.now.text).withServices h)) hr
  unfold handleNotice
  rw [outcome_bind_ok (outcome_get h)]
  cases hrules : h.engine.book.matching host.app.ask e with
  | nil =>
    -- No rule ran, so the generic flow begins at the hub that was left by judging the rules.
    obtain ⟨lines₁, rfl⟩ := hnone hrules
    obtain ⟨lines, run, h₂, hgen, hfail, h12⟩ :=
      adds_processGeneric hg e (h.afterJudging host.app.ask e lines₁)
    have hproc : RuleRuns.processed runs = false := by
      rw [hrules, List.length_nil, List.length_eq_zero_iff] at hlen
      rw [hlen]
      rfl
    refine ⟨run.flowId, run.failures, h₂, ?_, fun hne => absurd rfl hne, fun _ =>
      ⟨?_, lines, hfail⟩⟩
    · refine (outcome_bind_ok hrun).trans ?_
      rw [hproc]
      exact outcome_bind_ok hgen
    · rw [hrules, List.length_nil, Nat.zero_mul] at h01
      exact Adds.after h01 h12
  | cons r rest =>
    have hproc : RuleRuns.processed runs = true := by
      rw [RuleRuns.processed_iff, hlen, hrules]
      exact Nat.succ_pos _
    refine ⟨none, 0, h₁, ?_, fun _ => ⟨rfl, hrules ▸ h01⟩, fun hnil => absurd hnil (by simp)⟩
    refine (outcome_bind_ok hrun).trans ?_
    rw [hproc]
    rfl

theorem outcome_handleEvent_ok {n : Notice} {id : Option String} {failures : Nat} {h h' : Hub α}
    (hrun : outcome (handleNotice host n) (h.withFlows h.flows.begin) = (.ok (id, failures), h')) :
    outcome (handleEvent host n) h =
      (.ok (), h'.withFlows (h'.flows.finish ⟨id, h.now.text, failures⟩)) := by
  unfold handleEvent
  refine outcome_tallied_ok ((outcome_bind_ok (outcome_attempt _ _)).trans ?_)
  rw [hrun]
  rfl

/-- One more flow was begun and has ended. -/
structure FlowDesk.Settled (failed : Bool) (d d' : FlowDesk) : Prop where
  total : d'.total = d.total + 1
  active : d'.active = d.active
  completed : d'.completed = d.completed + (if failed then 0 else 1)
  failed : d'.failed = d.failed + (if failed then 1 else 0)

theorem FlowDesk.settled_finish {d d' : FlowDesk} (run : FlowRun) (h : d'.tally = d.begin.tally) :
    Settled (run.failures != 0) d (d'.finish run) := by
  simp only [tally, begin, Prod.mk.injEq] at h
  obtain ⟨ht, ha, hc, hf⟩ := h
  by_cases hz : run.failures = 0
  · exact ⟨ht, by simp [finish, ha], by simp [finish, hz, hc], by simp [finish, hz, hf]⟩
  · exact ⟨ht, by simp [finish, ha], by simp [finish, hz, hc], by simp [finish, hz, hf]⟩

/-- What handling an event adds up to (module doc). -/
theorem Gauge.adds_handleEvent (hg : g.Fits host) (e : Event) {h : Hub α} (hr : g.Ready h) :
    ∃ lines h', outcome (handleEvent host (.event e)) h = (.ok (), h') ∧ g.Ready h' ∧
      let rules := h.engine.book.matching host.app.ask e
      FlowDesk.Settled (rules.isEmpty &&
          genericFails host e ((h.withFlows h.flows.begin).afterJudging host.app.ask e lines))
        h.flows h'.flows ∧
      g.noted h'.host = g.noted h.host + if rules = [] then
        g.weight Topic.flowExecuted + g.weight Topic.genericProcessed
        else rules.length * g.weight Topic.ruleExecuted := by
  have hbegun : g.Ready (h.withFlows h.flows.begin) := hr.of_same rfl rfl rfl rfl
  obtain ⟨id, failures, h', hrun, hsome, hnone⟩ := adds_handleNotice hg e hbegun
  let run : FlowRun := ⟨id, h.now.text, failures⟩
  -- Whatever ran in between, the counters are those of the begun flow, and then it is finished.
  have hend {n : Nat} (hadds : g.Adds n (h.withFlows h.flows.begin) h') :
      g.Ready (h'.withFlows (h'.flows.finish run)) ∧
        FlowDesk.Settled (failures != 0) h.flows (h'.flows.finish run) ∧
        g.noted h'.host = g.noted h.host + n := by
    obtain ⟨hr', ht, hn⟩ := hadds hbegun
    exact ⟨hr'.of_same rfl rfl rfl rfl, FlowDesk.settled_finish run ht, hn⟩
  by_cases hrules : h.engine.book.matching host.app.ask e = []
  · obtain ⟨hadds, lines, hfail⟩ := hnone hrules
    obtain ⟨hr', hs, hn⟩ := hend hadds
    refine ⟨lines, _, outcome_handleEvent_ok hrun, hr', ?_⟩
    dsimp only
    rw [hrules, if_pos rfl]
    refine ⟨?_, hn⟩
    rw [hfail] at hs
    rw [List.isEmpty_nil, Bool.true_and]
    cases hg : genericFails host e
        ((h.withFlows h.flows.begin).afterJudging host.app.ask e lines) <;>
      rw [hg] at hs <;> exact hs
  · obtain ⟨hzero, hadds⟩ := hsome hrules
    obtain ⟨hr', hs, hn⟩ := hend hadds
    refine ⟨[], _, outcome_handleEvent_ok hrun, hr', ?_⟩
    dsimp only
    rw [if_neg hrules, List.isEmpty_eq_false_iff.2 hrules]
    refine ⟨?_, hn⟩
    rw [hzero] at hs
    exact hs

end Events

end EventHub
