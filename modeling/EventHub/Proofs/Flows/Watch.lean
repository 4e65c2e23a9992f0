import EventHub.Proofs.Flows.Tally
import EventHub.Proofs.Hub.Start

/-!
# What becomes of events

Every event that the hub handles is settled once, whatever the actions, conditions and functions of
the application do, as long as they neither publish events nor run flows.

* **Quiet applications** (`Application.Quiet`): whatever their functions lead to, it leaves the counters
  of flows. They may send notices, change the registries and execute rules.
* **Watches** (`Watch`): a client that counts what it receives tells how many notices of a topic were
  sent. A function that executes rules has notices sent of its own, so the watch tells what the hub
  sends where no function has notices of its topic sent (`Watch.Unmoved`).
* **Events** (`HubRun.settles`): in every hub of a run no flow is active, and every flow that began
  has completed or failed. An event adds one flow that does either, and the notices of its rules or
  of the one flow that logs it, which is not registered.
* `HubRun.settles_rerun`: an action that executes a rule adds its notice to those of the event, and a
  client that publishes an event adds a flow.
-/

namespace EventHub

open EventHub.Task

variable {α : Type} {app : Application α} {F : Frame α}

/-! ## Functions of the application -/

/-- Steady hubs stay steady, and the counters of flows stay as they are. -/
def Frame.uncounted : Frame α := .whileSteady (.ofPart fun h => h.flows.tally)

theorem Frame.ofTally_free : (Frame.ofPart fun h : Hub α => h.flows.tally).Free where
  log _ _ := rfl
  effects _ _ := rfl
  serial _ _ := rfl
  cache _ _ := rfl
  deskCounters _ _ _ _ _ := rfl
  engineCounters _ _ _ _ _ := rfl

/-- The functions of the application neither publish events nor run flows, nor does what they lead to. -/
def Application.Quiet (app : Application α) : Prop := app.StaysDeep .uncounted

/-- What holds of the registered flows still does when the functions of the application are done. -/
def Application.KeepsFlows (app : Application α) (keeps : FlowBook → Prop) : Prop :=
  app.StaysDeep (.whileSteady (.ofInvariant fun h => keeps h.flows.book))

theorem Application.Quiet.balanced (h : app.Quiet) : app.StaysDeep .balanced where
  act depth name v ctx hub hh :=
    have := h.act depth name v ctx hub hh
    ⟨this.1, FlowDesk.balance_of_tally this.2⟩
  serve depth k n hub hh :=
    have := h.serve depth k n hub hh
    ⟨this.1, FlowDesk.balance_of_tally this.2⟩

theorem Application.Quiet.keepsAll (h : app.Quiet) : app.KeepsFlows fun _ => True where
  act depth name v ctx hub hh := ⟨(h.act depth name v ctx hub hh).1, id⟩
  serve depth k n hub hh := ⟨(h.serve depth k n hub hh).1, id⟩

/-! ## Watches -/

/-- A client of the application that counts the notices it receives. -/
structure Watch (app : Application α) where
  client : Nat
  note : Notice → α → α
  noted : α → Nat
  noted_note : ∀ n a, noted (note n a) = noted a + 1
  serves : ∀ receive n, app.serve receive client n = modify fun h => { h with host := note n h.host }

/-- The client is subscribed to the topic once, and to no other. -/
def Watch.On (w : Watch app) (topic : String) (s : Subscriptions) : Prop :=
  ∀ t, (s.ofTopic t).count (.client w.client) = if t = topic then 1 else 0

/-- The gauge of what holds of the registered flows. -/
def Gauge.ofFlows (keeps : FlowBook → Prop) : Gauge α where
  keeps _ := keeps
  noted _ := 0
  share _ := 0
  weight _ := 0

/-- The gauge of a watch on a topic. -/
def Watch.gauge (w : Watch app) (topic : String) : Gauge α where
  keeps s _ := w.On topic s
  noted := w.noted
  share s := if s = .client w.client then 1 else 0
  weight t := if t = topic then 1 else 0

/-- No function but the watch itself moves its count or its subscriptions, whatever the function leads to:
none has a notice of the topic sent. -/
structure Watch.Unmoved (w : Watch app) (topic : String) : Prop where
  act : ∀ depth name v ctx, Within (w.gauge topic).still (app.act (receive app depth) name v ctx)
  others : ∀ depth k n, k ≠ w.client →
    Within (w.gauge topic).still (app.serve (receive app depth) k n)

theorem sum_map_eq_count (subscribers : List Subscriber) (s : Subscriber) :
    (subscribers.map fun s' => if s' = s then 1 else 0).sum = subscribers.count s := by
  induction subscribers with
  | nil => rfl
  | cons s' rest ih =>
    rw [List.map_cons, List.sum_cons, ih, List.count_cons, Nat.add_comm]
    simp

theorem Watch.gauge_weighs (w : Watch app) (topic : String) : (w.gauge topic).Weighs :=
  fun _ _ hs t => (sum_map_eq_count _ _).trans (hs t)

theorem Watch.share_gauge (w : Watch app) (topic : String) (s : Subscriber) :
    (w.gauge topic).share s = if s = .client w.client then 1 else 0 := rfl

theorem Watch.weight_gauge (w : Watch app) (topic t : String) :
    (w.gauge topic).weight t = if t = topic then 1 else 0 := rfl

/-- A gauge fits the hosts of an application whose clients add their shares. -/
theorem Gauge.Fits.of_app {g : Gauge α} (depth : Nat) (hfun : ∀ name, g.share (.function name) = 0)
    (hact : ∀ depth name v ctx, Within g.still (app.act (receive app depth) name v ctx))
    (hserve : ∀ k n h,
      g.Adds (g.share (.client k)) h (outcome (app.serve (receive app depth) k n) h).2)
    (hweighs : g.Weighs) (hsilent : g.weight Topic.notification = 0) :
    g.Fits (⟨app, receive app (depth + 1)⟩ : Host α) where
  acts := hact _
  weighs := hweighs
  silent := hsilent
  hears s hs n h := by
    cases s with
    | function name =>
      rw [hfun name]
      exact Within.bind (F := g.still) (Within.ofExcept _) (fun _ => Within.pure _) h
    | client k => exact hserve k n h
    | discoverType | discoverFields | handleEvent | takeMessage => exact hs.elim

theorem Gauge.ofFlows_fits (happ : app.Quiet) {keeps : FlowBook → Prop} (hk : app.KeepsFlows keeps)
    (depth : Nat) : (Gauge.ofFlows keeps).Fits (⟨app, receive app (depth + 1)⟩ : Host α) := by
  have adds {β : Type} {t : Task α β} (ht : Within .uncounted t)
      (hb : Within (.whileSteady (.ofInvariant fun h => keeps h.flows.book)) t) :
      Within (Gauge.ofFlows keeps).still t := fun h hr =>
    ⟨⟨(ht h hr.steady).1, (hb h hr.steady).2 hr.keeps⟩, (ht h hr.steady).2, rfl⟩
  refine .of_app depth (fun _ => rfl) (fun _ _ _ _ => adds (happ.act _ _ _ _) (hk.act _ _ _ _))
    (fun _ _ => adds (happ.serve _ _ _) (hk.serve _ _ _)) (fun s b _ topic => ?_) rfl
  simp [Gauge.ofFlows]

theorem Watch.gauge_fits (w : Watch app) {topic : String} (hw : w.Unmoved topic)
    (ht : topic ≠ Topic.notification) (depth : Nat) :
    (w.gauge topic).Fits (⟨app, receive app (depth + 1)⟩ : Host α) := by
  refine .of_app depth (fun name => by rw [w.share_gauge]; simp) hw.act (fun k n h => ?_)
    (w.gauge_weighs topic) (if_neg (Ne.symm ht))
  by_cases hk : k = w.client
  · subst hk
    intro hr
    rw [w.serves, w.share_gauge, if_pos rfl]
    exact ⟨hr.of_same rfl rfl rfl rfl, rfl, w.noted_note n h.host⟩
  · rw [w.share_gauge, if_neg (by simpa using hk)]
    exact hw.others _ _ _ hk h

/-! ## Events -/

/-- The topics under which the hub tells what became of an event. -/
def settledTopics : List String := [Topic.ruleExecuted, Topic.flowExecuted, Topic.genericProcessed]

/-- How many notices of the topic an event leads to that so many rules match. -/
def noticesOf (rules : Nat) (topic : String) : Nat :=
  if rules = 0 then
    if topic = Topic.flowExecuted ∨ topic = Topic.genericProcessed then 1 else 0
  else if topic = Topic.ruleExecuted then rules else 0

theorem noticesOf_eq {topic : String} (ht : topic ∈ settledTopics) (rules : List Rule) :
    noticesOf rules.length topic = if rules = [] then
      (if Topic.flowExecuted = topic then 1 else 0) + (if Topic.genericProcessed = topic then 1 else 0)
      else rules.length * if Topic.ruleExecuted = topic then 1 else 0 := by
  have hcases : topic = Topic.ruleExecuted ∨ topic = Topic.flowExecuted ∨
      topic = Topic.genericProcessed := by simpa [settledTopics] using ht
  rcases hcases with rfl | rfl | rfl <;> cases rules <;>
    simp [noticesOf, Topic.ruleExecuted, Topic.flowExecuted, Topic.genericProcessed]

/-- What a gauge reads after an event that was handled, whichever gauge told that it is. -/
theorem Gauge.handled {g : Gauge α} {host : Host α} (hg : g.Fits host) {e : Event} {h h' : Hub α}
    (hr : g.Ready h) (hrun : outcome (handleEvent host (.event e)) h = (.ok (), h')) :
    g.Ready h' ∧ g.noted h'.host = g.noted h.host + if h.engine.book.matching host.app.ask e = [] then
      g.weight Topic.flowExecuted + g.weight Topic.genericProcessed
      else (h.engine.book.matching host.app.ask e).length * g.weight Topic.ruleExecuted := by
  obtain ⟨_, h'', hrun', hr', -, hnoted⟩ := adds_handleEvent hg e hr
  obtain rfl := congrArg Prod.snd (hrun.symm.trans hrun')
  exact ⟨hr', hnoted⟩

/-- In every hub that calls lead to after a start, no flow is active, and every flow that began has
completed or failed. Whatever the actions, conditions and functions of the application do, handling
an event there succeeds and adds one flow. If rules match, it completes, and there is one notice for
each of them and none of other flows. Otherwise one flow runs that logs the event: it is told of
once, fails exactly when its step does, and is not registered. The notices are counted by watches that
no function moves. -/
theorem HubRun.settles (happ : app.Quiet) {seen : List Event} {h : Hub α}
    (run : HubRun app .any seen h) :
    h.flows.active = 0 ∧ h.flows.total = h.flows.completed + h.flows.failed ∧
    ∀ depth e, let host : Host α := ⟨app, receive app (depth + 1)⟩
      let rules := h.engine.book.matching app.ask e
      ∃ lines h', outcome (handleEvent host (.event e)) h = (.ok (), h') ∧
        FlowDesk.Settled (rules.isEmpty &&
            genericFails host e ((h.withFlows h.flows.begin).afterJudging app.ask e lines))
          h.flows h'.flows ∧
        (∀ (w : Watch app) topic, topic ∈ settledTopics → w.Unmoved topic →
          w.On topic h.bus.subscriptions →
          w.noted h'.host = w.noted h.host + noticesOf rules.length topic) ∧
        ∀ keeps, app.KeepsFlows keeps → keeps h.flows.book → keeps h'.flows.book := by
  obtain ⟨h₀, fresh, hstays⟩ := run.stays Frame.balanced_openToHub Frame.balanced_openToListening
    Frame.balanced_passes happ.balanced
  obtain ⟨hsteady, hbalance⟩ := hstays fresh.steady
  obtain ⟨hactive, htotal⟩ := Prod.mk.inj (hbalance.trans fresh.balance)
  -- Three gauges see the same event: one reads the counters, one the watch, one the book of flows.
  refine ⟨hactive, by omega, fun depth e => ?_⟩
  obtain ⟨lines, h', hrun, -, hsettled, -⟩ :=
    Gauge.adds_handleEvent (Gauge.ofFlows_fits happ happ.keepsAll depth) e ⟨hsteady, trivial⟩
  refine ⟨lines, h', hrun, hsettled, fun w topic ht hw hon => ?_, fun keeps hk hkeeps => ?_⟩
  · have hn : topic ≠ Topic.notification := by
      rintro rfl
      revert ht
      decide
    rw [noticesOf_eq ht]
    exact (Gauge.handled (w.gauge_fits hw hn depth) ⟨hsteady, hon⟩ hrun).2
  · exact (Gauge.handled (Gauge.ofFlows_fits happ hk depth) ⟨hsteady, hkeeps⟩ hrun).1.keeps

/-! ## Applications with a watch -/

section Counters

variable (act : Receive Nat → String → Value → Context → Task Nat Reply)

/-- An application whose conditions fail, with one client that counts what it receives. -/
def Application.withCounter : Application Nat where
  ask name _ := .error (.raised .runtime name)
  act
  serve _ k _ := if k = 0 then modify fun h => { h with host := h.host + 1 } else return ()

/-- The client is a watch. -/
def Watch.counter : Watch (Application.withCounter act) where
  client := 0
  note _ a := a + 1
  noted a := a
  noted_note _ _ := rfl
  serves _ _ := rfl

/-- Other clients do nothing. -/
theorem Application.within_withCounter {F : Frame Nat} (receive : Receive Nat) {k : Nat} (hk : k ≠ 0)
    (n : Notice) : Within F ((withCounter act).serve receive k n) := by
  have hs : (withCounter act).serve receive k n = pure () := if_neg hk
  rw [hs]
  exact Within.pure _

variable {act}

/-- The application is quiet when its actions are, in front of clients and functions that are. -/
theorem Application.withCounter_quiet
    (hact : ∀ receive : Receive Nat, (∀ s, s.Foreign → ∀ n, Within .uncounted (receive s n)) →
      ∀ name v ctx, Within .uncounted (act receive name v ctx)) : (withCounter act).Quiet :=
  Application.StaysForeign.deep
    { act := hact
      serve := fun _ _ k n => by
        by_cases hk : k = 0
        · subst hk
          exact Within.change fun h hh => ⟨⟨hh.inOrder, hh.outlet, hh.apt⟩, rfl⟩
        · exact within_withCounter act _ hk n }

/-- Notices of other topics do not move the watch, at any depth. -/
theorem Watch.counter_tells {topic t : String} (ht : t ∉ listenedTopics) (hne : t ≠ topic) (depth : Nat) :
    Host.TellsWithin ⟨.silent, receive (Application.withCounter act) depth⟩
      ((Watch.counter act).gauge topic).still t := by
  refine Gauge.tells_still (Watch.gauge_weighs _ topic) (fun s hs hshare n => ?_) ht (if_neg hne)
  cases depth with
  | zero => exact Within.throw _
  | succ depth =>
    cases s with
    | function name => exact Within.bind (Within.ofExcept _) fun _ => Within.pure _
    | client k =>
      have hk : k ≠ 0 := by
        rintro rfl
        cases hshare
      exact Application.within_withCounter act (receive (.withCounter act) depth) hk n
    | discoverType | discoverFields | handleEvent | takeMessage => exact hs.elim

end Counters

/-- The hub that has been started, with a rule for events of type `a`. -/
def Hub.withOneRule (app : Application Nat) : Hub Nat :=
  (outcome ((HubCall.registry (.register
    (.document (loggingRule "one" [("event_type", .text "a")] [])))).run app.host)
    Hub.started).2

/-- The hub after the client has subscribed to runs of rules. -/
def Hub.watched (app : Application Nat) : Hub Nat :=
  (outcome ((HubCall.subscribe Topic.ruleExecuted (.client 0)).run app.host) (Hub.withOneRule app)).2

theorem HubRun.watched (app : Application Nat) : HubRun app .any [] (Hub.watched app) :=
  .call (.subscribe _ _) (.call (.registry (.register _)) (.started _ _) fun _ _ _ _ _ => trivial)
    trivial

/-- The client is subscribed beside the hub's own listeners. -/
theorem Watch.counter_on (act : Receive Nat → String → Value → Context → Task Nat Reply) :
    (Watch.counter act).On Topic.ruleExecuted (Hub.watched (.withCounter act)).bus.subscriptions := by
  have hentries : (Hub.watched (.withCounter act)).bus.subscriptions.entries =
      [⟨1, .topic Topic.typeDiscovered, .discoverType⟩,
        ⟨2, .topic Topic.fieldsDiscovered, .discoverFields⟩, ⟨3, .topic Topic.event, .handleEvent⟩,
        ⟨4, .topic Topic.ruleExecuted, .client 0⟩] := by rfl
  intro t
  have hcount (s : Subscriptions) : (s.ofTopic t).count (.client 0) =
      s.entries.countP fun e => e.channel.isTopic t && e.subscriber == .client 0 := by
    rw [Subscriptions.ofTopic, List.count, List.countP_map, List.countP_filter]
    exact List.countP_congr fun e _ => by simp [and_comm]
  rw [Watch.counter, hcount, hentries]
  by_cases ht : t = Topic.ruleExecuted
  · subst ht
    decide
  · simp [Channel.isTopic, ht, Ne.symm ht]

/-- An event of the type `a`. -/
def firstEvent : Event := ⟨"e1", "a", "probe", "2024-01-01T00:00:00", [], []⟩

/-! ### An action that sends a notice -/

/-- An application whose conditions and actions fail, the actions after a notice of their own. -/
def Application.counting : Application Nat :=
  .withCounter fun receive name v _ => do
    announce ⟨.silent, receive⟩ "custom:topic" (.value v)
    throw (.raised .runtime name)

theorem Application.counting_quiet : Application.counting.Quiet :=
  withCounter_quiet fun receive hs _ _ _ =>
    have htells : Host.TellsWithin ⟨.silent, receive⟩ .uncounted "custom:topic" :=
      tells_foreign Frame.ofTally_free (by decide) hs
    Within.bind (htells _) fun _ => Within.throw _

/-- The watch on that application. -/
def Watch.counting : Watch Application.counting := .counter _

theorem Watch.counting_unmoved {topic : String} (ht : "custom:topic" ≠ topic) :
    Watch.counting.Unmoved topic where
  act depth _ _ _ := Within.bind (counter_tells (by decide) ht depth _) fun _ => Within.throw _
  others _ _ n hk := Application.within_withCounter _ _ hk n

theorem HubRun.settles_watched :
    ∃ h', outcome (handleEvent ⟨Application.counting, receive Application.counting 1⟩
        (.event firstEvent)) (Hub.watched .counting) = (.ok (), h') ∧
      h'.flows.tally = (1, 0, 1, 0) ∧ h'.host = 1 := by
  have hrules : ((Hub.watched .counting).engine.book.matching Application.counting.ask
      firstEvent).length = 1 := by decide +kernel
  obtain ⟨-, -, hsettles⟩ := HubRun.settles Application.counting_quiet (HubRun.watched .counting)
  obtain ⟨lines, h', hrun, hsettled, hnoted, -⟩ := hsettles 0 firstEvent
  refine ⟨h', hrun, ?_, ?_⟩
  · have hne : ((Hub.watched .counting).engine.book.matching Application.counting.ask
        firstEvent).isEmpty = false := by decide +kernel
    rw [hne] at hsettled
    obtain ⟨ht, ha, hc, hf⟩ := hsettled
    have h₀ : (Hub.watched .counting).flows.total = 0 ∧ (Hub.watched .counting).flows.active = 0 ∧
      (Hub.watched .counting).flows.completed = 0 ∧ (Hub.watched .counting).flows.failed = 0 := by
      decide +kernel
    rw [FlowDesk.tally, ht, ha, hc, hf, h₀.1, h₀.2.1, h₀.2.2.1, h₀.2.2.2]
    rfl
  · rw [hrules] at hnoted
    exact (hnoted .counting Topic.ruleExecuted (by decide) (Watch.counting_unmoved (by decide))
      (Watch.counter_on _)).trans (by decide +kernel)

/-! ### An action that executes a rule -/

/-- A rule that logs. -/
def innerRule : Rule where
  id := some "two"
  name := "two"
  description := ""
  conditions := none
  actions := [⟨"log_event", []⟩]
  metadata := .fresh "2024-01-01T00:00:00"

/-- An application whose actions execute a rule. -/
def Application.rerunning : Application Nat :=
  .withCounter fun receive _ v _ => do
    discard (executeRule ⟨.silent, receive⟩ innerRule firstEvent none)
    return ⟨.null, v, none⟩

theorem Application.rerunning_quiet : Application.rerunning.Quiet :=
  withCounter_quiet fun receive hs _ _ _ =>
    have htells {topic : String} (ht : topic ∉ listenedTopics) :
        Host.TellsWithin ⟨.silent, receive⟩ .uncounted topic := tells_foreign Frame.ofTally_free ht hs
    have hrule := within_executeRule (Frame.whileSteady_free Frame.ofTally_free)
      (fun _ _ _ => Within.pure _) (htells (by decide)).reports (htells (by decide)).reports innerRule
      firstEvent none
    Within.bind hrule.discard fun _ => Within.pure _

/-- The hub with one rule and a watch, after an action of the application has taken the place of logging. -/
def Hub.rerunning : Hub Nat :=
  let h := Hub.watched .rerunning
  { h with engine := { h.engine with actions := [("log_event", .function "rerun")] } }

theorem HubRun.rerunning : HubRun .rerunning .any [] Hub.rerunning :=
  .pass (HubRun.watched _) ⟨rfl, rfl, rfl, rfl, rfl⟩

/-- An event of another type. -/
def answerEvent : Event := ⟨"e2", "b", "probe", "2024-01-01T00:00:00", [], []⟩

/-- One rule matches the event, its action executes another, and there are two notices of runs of rules:
the action published no event and ran no flow. Where the action is harmless but a client answers the notice
of the rule with an event, two flows have begun and completed. -/
theorem HubRun.settles_rerun :
    (Application.rerunning.Quiet ∧ HubRun .rerunning .any [] Hub.rerunning ∧
      (Hub.rerunning.engine.book.matching Application.rerunning.ask firstEvent).length = 1 ∧
      ∃ w : Watch Application.rerunning, w.On Topic.ruleExecuted Hub.rerunning.bus.subscriptions ∧
        w.noted (outcome (handleEvent ⟨Application.rerunning, receive Application.rerunning 1⟩
          (.event firstEvent)) Hub.rerunning).2.host = w.noted Hub.rerunning.host + 2) ∧
    HubRun (.straying answerEvent) .any [] (Hub.watched (.straying answerEvent)) ∧
    (Hub.watched (.straying answerEvent)).flows.tally = (0, 0, 0, 0) ∧
    (outcome (handleEvent (Application.straying answerEvent).host (.event firstEvent))
      (Hub.watched (.straying answerEvent))).2.flows.tally = (2, 0, 2, 0) := by
  refine ⟨⟨Application.rerunning_quiet, HubRun.rerunning, ?_, .counter _, Watch.counter_on _, ?_⟩,
    HubRun.watched _, ?_, ?_⟩
  · decide +kernel
  · decide +kernel
  · decide +kernel
  · decide +kernel

end EventHub
