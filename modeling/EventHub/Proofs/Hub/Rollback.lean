import EventHub.Proofs.Hub.Configuration

/-!
# Starts that fail

A hub that cannot take its configuration in stops listening again. Its subscriptions are then those that
it had. The rules and flows that it had taken in before the one that was refused stay.

* **Listening no more** (`Subscriptions.Numbered.unlistening`): while subscriptions are numbered in
  order, the hub ends its own and no others.
* `start_error`: what a failed start leaves. If the first definition was refused, it leaves nothing that a
  later start would stumble over.
-/

namespace EventHub

open EventHub.Task

variable {α : Type} {host : Host α} {h h' h₁ : Hub α}

/-! ## Listening no more -/

/-- The numbers of the subscriptions in force are below the next one. -/
def Subscriptions.Numbered (s : Subscriptions) : Prop := ∀ e ∈ s.entries, e.id < s.next

namespace Subscriptions.Numbered

variable {s : Subscriptions}

theorem none : Subscriptions.none.Numbered := fun _ he => by cases he

/-- Subscribing keeps the numbers in order, and so does the end of a subscription. -/
theorem add (hs : s.Numbered) (channel : Channel) (subscriber : Subscriber) :
    (s.add channel subscriber).2.Numbered := by
  intro e he
  rcases List.mem_append.1 he with he | he
  · exact Nat.lt_succ_of_lt (hs e he)
  · rw [List.mem_singleton.1 he]
    exact Nat.lt_succ_self _

theorem remove (hs : s.Numbered) (id : Nat) : (s.remove id).2.Numbered :=
  fun e he => hs e (List.mem_filter.1 he).1

/-- A hub wired as one that has begun to listen ends its own subscriptions only. -/
theorem unlistening (hn : h.bus.subscriptions.Numbered) (hw : h₁.wiring = h.atIntake.wiring) :
    h₁.unlistening.bus.subscriptions =
      ⟨h.bus.subscriptions.entries, h.bus.subscriptions.next + 3⟩ := by
  simp only [Hub.wiring, Prod.mk.injEq] at hw
  obtain ⟨-, -, hs, hl, -⟩ := hw
  have hlisteners : h₁.flows.listeners = (ownSubscriptions h.bus.subscriptions.next).map (·.id) := hl
  rw [subscriptions_atIntake] at hs
  have hkept : h.bus.subscriptions.entries.filter (·.id ∉ h₁.flows.listeners) =
      h.bus.subscriptions.entries := by
    rw [List.filter_eq_self]
    intro e he
    have := hn e he
    simp only [hlisteners, ownSubscriptions, List.map_cons, List.map_nil, List.mem_cons,
      List.not_mem_nil, or_false, decide_eq_true_eq]
    omega
  have hended : (ownSubscriptions h.bus.subscriptions.next).filter (·.id ∉ h₁.flows.listeners) = [] := by
    rw [List.filter_eq_nil_iff]
    intro e he
    simpa [hlisteners] using ⟨e, he, rfl⟩
  simp only [Hub.unlistening, hs, List.filter_append, hkept, hended, List.append_nil]

end Subscriptions.Numbered

/-! ## The first definition -/

/-- The first configured definition is refused, or the configuration cannot be read. -/
def Hub.RefusesFirst (host : Host α) (h : Hub α) : Prop :=
  match h.settings.ruleDefinitions with
  | .error _ => True
  | .ok (d :: _) => (Registry.rules host).Refuses h d
  | .ok [] => match h.settings.flowDefinitions with
    | .error _ => True
    | .ok (d :: _) => (Registry.flows host).Refuses h d
    | .ok [] => False

/-- Then the configuration is refused, and nothing was taken in. -/
theorem outcome_configure_refused (hc : h.Calm host) (hr : h.RefusesFirst host) :
    ∃ fault lines, outcome (configure host h.settings) h = (.error fault, { h with log := lines }) := by
  unfold Hub.RefusesFirst at hr
  cases hrules : h.settings.ruleDefinitions with
  | error fault => exact ⟨fault, h.log, outcome_configure_unlisted hrules⟩
  | ok rules =>
  rw [hrules] at hr
  have hrun := outcome_configure host hc.inOrder hrules
  -- A rule is refused before anything is taken in, a flow only when there are no rules before it.
  cases rules with
  | cons d rest =>
    obtain ⟨fault, hf⟩ := (Registry.rules_lawful host).refused hc hr
    have htake : outcome ((Registry.rules host).takeAll (d :: rest)) h = (.error fault, h) :=
      outcome_bind_error hf
    rw [htake] at hrun
    exact ⟨fault, h.log, hrun⟩
  | nil =>
    obtain ⟨lines, hrun⟩ := hrun
    dsimp only at hr
    cases hflows : h.settings.flowDefinitions with
    | error fault =>
      rw [hflows] at hrun
      exact ⟨fault, lines, hrun⟩
    | ok flows =>
    rw [hflows] at hr hrun
    cases flows with
    | nil => exact hr.elim
    | cons d rest =>
      have hc' : Hub.Calm host { h with log := lines } := hc.congr rfl
      obtain ⟨fault, hf⟩ := (Registry.flows_lawful host).refused hc' hr
      exact ⟨fault, lines, hrun.trans (outcome_bind_error hf)⟩

/-! ## Starting again -/

/-- A hub with other settings. -/
def Hub.withSettings (h : Hub α) (settings : Settings) : Hub α := { h with settings }

/-- Where one hub starts, a hub with the same ids in use and the same next draw starts as well. -/
theorem start_like {g : Hub α} (hc : h.Calm host) (gc : g.Calm host)
    (hi : h.flows.initialized = false) (gi : g.flows.initialized = false)
    (hsettings : g.settings = h.settings) (hr : (Registry.rules host).Like h g)
    (hf : (Registry.flows host).Like h g) (hs : outcome (start host) h = (.ok (), h')) :
    ∃ g', outcome (start host) g = (.ok (), g') := by
  obtain ⟨h₁, _, hok, -⟩ | ⟨_, _, _, -, herror⟩ := start_cases hc hi
  case inr => cases herror.symm.trans hs
  obtain ⟨g₁, gok⟩ := configure_like hc.atIntake gc.atIntake hr hf hok
  obtain ⟨g₂, lines, -, hstarted⟩ | ⟨_, _, _, herror, -⟩ := start_cases gc gi
  · exact ⟨_, hstarted⟩
  · rw [hsettings] at herror
    cases herror.symm.trans gok

/-- What a start that fails leaves. The fault is one of starting, the hub has not been started, and it has
the subscriptions that it had. The configured rules and flows before the one that was refused have been
taken in, in order, and stay. If there were none, the hub is the one that it was, except for its log, the
actions of its engine and the number of the next subscription; so with whatever settings it could have
been started before, it can be started then. -/
theorem start_error {fault : Fault} (hc : h.Calm host) (hn : h.bus.subscriptions.Numbered)
    (hs : outcome (start host) h = (.error fault, h')) :
    (∃ cause, fault = .startup cause) ∧ h'.flows.initialized = false ∧
    h'.bus.subscriptions.entries = h.bus.subscriptions.entries ∧
    (∃ rules flows, rules <+: h.settings.ruleDefinitions.toOption.getD [] ∧
      flows <+: h.settings.flowDefinitions.toOption.getD [] ∧
      (flows ≠ [] → h.settings.ruleDefinitions = .ok rules) ∧
      (Registry.rules host).Gained rules h h' ∧ (Registry.flows host).Gained flows h h') ∧
    (h.RefusesFirst host →
      (∃ log actions next, h' = { h with
        log
        engine := { h.engine with actions }
        bus := { h.bus with subscriptions := ⟨h.bus.subscriptions.entries, next⟩ }
        flows := { h.flows with listeners := [] } }) ∧
      ∀ settings g, outcome (start host) (h.withSettings settings) = (.ok (), g) →
        ∃ g', outcome (start host) (h'.withSettings settings) = (.ok (), g')) := by
  have hi : h.flows.initialized = false := by
    cases hi : h.flows.initialized with
    | false => rfl
    | true => cases (outcome_start_of_initialized hi).symm.trans hs
  obtain ⟨_, _, -, hok⟩ | ⟨cause, h₁, lines, hconfigure, herror⟩ := start_cases hc hi
  case inl => cases hok.symm.trans hs
  obtain ⟨_, _, _, -, -, -, hok⟩ | ⟨rules, flows, _, _, hrules, hflows, hall, ht, hrefused⟩ :=
    configure_cases hc.atIntake h.settings
  case inl => cases hok.symm.trans hconfigure
  cases hrefused.symm.trans hconfigure
  cases herror.symm.trans hs
  have hsubscriptions : h₁.unlistening.bus.subscriptions =
    ⟨h.bus.subscriptions.entries, h.bus.subscriptions.next + 3⟩ := hn.unlistening ht.wiring
  have hentries : h₁.unlistening.bus.subscriptions.entries = h.bus.subscriptions.entries := by
    rw [hsubscriptions]
  refine ⟨⟨cause, rfl⟩, ?_, hentries,
    ⟨rules, flows, hrules, hflows, hall, ht.rules, ht.flows⟩, fun hfirst => ?_⟩
  · have hw := ht.wiring
    simp only [Hub.wiring, Prod.mk.injEq] at hw
    exact hw.2.2.2.2.trans hi
  -- Nothing was taken in: all that happened is that the hub listened and stopped.
  obtain ⟨_, lines', hnothing⟩ := outcome_configure_refused hc.atIntake hfirst
  obtain ⟨-, rfl⟩ := Prod.mk.inj (hnothing.symm.trans hconfigure)
  constructor
  · refine ⟨lines, sharing h.desk.available h.engine.actions, h.bus.subscriptions.next + 3, ?_⟩
    rw [← hsubscriptions]
    rfl
  · intro settings g hg
    have hc' : Hub.Calm host (h.withSettings settings) := ⟨hc.inOrder, hc.told⟩
    refine start_like hc' ⟨hc.inOrder, fun topic ht s hs => hc.told topic ht s ?_⟩ hi hi rfl
      ⟨rfl, rfl⟩ ⟨rfl, rfl⟩ hg
    rw [Subscriptions.mem_ofTopic] at hs ⊢
    obtain ⟨e, he, hs⟩ := hs
    exact ⟨e, hentries ▸ he, hs⟩

/-- Settings whose first rule has no name. -/
def Settings.nameless : Settings :=
  .configured [typedRule (some "r1") "" "motion"] [flowOf none "steps" [firingStep]]

/-- Settings with a rule, and with a flow that has no steps. -/
def Settings.stepless : Settings :=
  .configured [typedRule (some "r1") "Motion" "motion"] [flowOf none "no steps" []]

theorem start_error_nameless : ∃ fault h', outcome (start .deaf) (Hub.assembledFrom .nameless) =
      (.error (.startup fault), h') ∧ h'.ruleNames = [] ∧ h'.flowNames = [] ∧
    h'.bus.subscriptions.entries = [] ∧
    ∃ g', outcome (start .deaf) (h'.withSettings .identified) = (.ok (), g') := by
  let h := Hub.assembledFrom .nameless
  have fresh : h.Fresh := fresh_assembledFrom (by decide +kernel)
  have hc : h.Calm .deaf := fresh.calm
  have hn : h.bus.subscriptions.Numbered := by
    rw [fresh.subscriptions]
    exact .none
  -- The rule has no name, so the first start takes nothing in.
  have hfirst : h.RefusesFirst .deaf := fun r hr => by
    have hinvalid : ((Definition.ofRuleValue (typedRule (some "r1") "" "motion")).toRule
      h.now.text).isOk = false := by decide +kernel
    exact absurd (hinvalid.symm.trans (isOk_iff.2 ⟨r, hr⟩)) Bool.false_ne_true
  have hc' : (h.withSettings .identified).Calm .deaf := ⟨hc.inOrder, hc.told⟩
  have hcorrected : (outcome (start .deaf) (h.withSettings .identified)).1.isOk = true := by
    rw [isOk_start hc' fresh.unready]
    decide +kernel
  have hrefused : (outcome (start .deaf) h).1.isOk = false := by
    rw [isOk_start hc fresh.unready]
    decide +kernel
  cases hs : outcome (start .deaf) h with
  | mk result h' =>
  rw [hs] at hrefused
  cases result with
  | ok _ => cases hrefused
  | error fault =>
    obtain ⟨⟨cause, rfl⟩, -, hentries, -, hnothing⟩ := start_error hc hn hs
    obtain ⟨⟨log, actions, next, rfl⟩, hagain⟩ := hnothing hfirst
    have hrules : h.ruleNames = [] := by decide +kernel
    have hflows : h.flowNames = [] := by decide +kernel
    have hnone : h.bus.subscriptions.entries = [] := by rw [fresh.subscriptions]; rfl
    exact ⟨cause, _, rfl, hrules, hflows, hnone, hagain _ _ (outcome_of_isOk hcorrected)⟩

/-- What came before the definition that was refused stays. A fresh hub with a good rule and a bad flow
fails to start and then has the rule; with the settings corrected it could have been started before, and
cannot be started any more. -/
theorem start_leaves_rules : ∃ (h h' : Hub Unit) (fault : Fault), h.Fresh ∧
    outcome (start .deaf) h = (.error fault, h') ∧ h.ruleNames = [] ∧ h'.ruleNames = [("r1", "Motion")] ∧
    (outcome (start .deaf) (h.withSettings .identified)).1.isOk = true ∧
    (outcome (start .deaf) (h'.withSettings .identified)).1.isOk = false := by
  let h := Hub.assembledFrom .stepless
  have fresh : h.Fresh := fresh_assembledFrom (by decide +kernel)
  have hc : h.Calm .deaf := fresh.calm
  have hrefused : (outcome (configure .deaf h.settings) h.atIntake).1.isOk = false := by decide +kernel
  -- The flow without steps is refused, and by then the rule has been taken in.
  obtain ⟨h₁, _, hok, -⟩ | ⟨fault, h₁, lines, herror, hs⟩ := start_cases hc fresh.unready
  · rw [hok] at hrefused
    cases hrefused
  obtain rfl : (outcome (configure .deaf h.settings) h.atIntake).2 = h₁ := congrArg Prod.snd herror
  have hc' : (h.withSettings .identified).Calm .deaf := ⟨hc.inOrder, hc.told⟩
  let stopped := (outcome (configure .deaf h.settings) h.atIntake).2.unlistening
  have hentries : stopped.bus.subscriptions.entries = [] :=
    List.length_eq_zero_iff.1 (by decide +kernel)
  have hused : "r1" ∈ Assoc.keys stopped.engine.book.rules := by decide +kernel
  refine ⟨h, { stopped with log := lines }, .startup fault, fresh, hs, by decide +kernel,
    show stopped.ruleNames = _ by decide +kernel, ?_, ?_⟩
  · rw [isOk_start hc' fresh.unready]
    decide +kernel
  -- The second start meets the rule that the first one left, under the id that it names itself.
  · let left : Hub Unit := Hub.withSettings { stopped with log := lines } .identified
    have hleft : left.Calm .deaf := ⟨rfl, fun topic _ s hs => by
      obtain ⟨e, he, -⟩ := Subscriptions.mem_ofTopic.1 hs
      rw [show left.bus.subscriptions.entries = [] from hentries] at he
      cases he⟩
    let d := Definition.ofRuleValue (typedRule (some "r1") "Motion" "motion")
    have hnames : (Registry.rules .deaf).NamesUsed left.atIntake d := by
      have hmakes : (d.toRule "").toOption.map (Registry.rules .deaf).id? = some (some "r1") := by
        decide +kernel
      obtain ⟨r, hd, hid⟩ := Registry.eq_ok_of_toOption hmakes
      exact ⟨"", r, "r1", hd, hid, hused⟩
    have hrules : Settings.identified.ruleDefinitions = .ok [d] := rfl
    have hflows : Settings.identified.flowDefinitions = .ok [_] := rfl
    have hrefused := configure_ne_ok hleft.atIntake hrules hflows (.inl ⟨d, by simp, hnames⟩)
    obtain ⟨g, _, hok, -⟩ | ⟨_, _, _, -, herror⟩ := start_cases hleft rfl
    · exact absurd hok (hrefused g)
    · rw [show Hub.withSettings { stopped with log := lines } .identified = left from rfl, herror]
      rfl

end EventHub
