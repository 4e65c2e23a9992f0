import EventHub.Proofs.Hub.Registries
import EventHub.Proofs.Hub.Start

/-!
# Taking in a configuration

A hub that starts takes in the configured rules and then the configured flows.

* `outcome_configure`: the configuration is two lists of definitions, taken in one after the other.
* `configure_cases`: it is taken in as a whole, or up to the first definition that is refused.
* `configure_eq_ok`, `configure_ne_ok`, `configure_like`: when it is taken in as a whole.
* **Starting** (`start_cases`): a hub that could not take its configuration in stops listening again.
-/

namespace EventHub

open EventHub.Task

variable {α : Type} {host : Host α} {h h' g g' : Hub α}

/-! ## Configurations -/

/-- The configured rules, unless they are no list. -/
def Settings.ruleDefinitions (s : Settings) : Except Fault (List (Definition Rule)) :=
  s.rules.toList.map (·.map .ofRuleValue)

/-- The configured flows, unless they are no list. -/
def Settings.flowDefinitions (s : Settings) : Except Fault (List (Definition Flow)) :=
  s.flows.toList.map (·.map .ofFlowValue)

variable (host) in
/-- Registering all rules is taking them in. -/
theorem outcome_takeAll_rules (definitions : List (Definition Rule)) (h : Hub α) :
    outcome ((Registry.rules host).takeAll definitions) h =
      ((outcome (registerAll host definitions) h).1.map fun _ => (),
        (outcome (registerAll host definitions) h).2) := by
  induction definitions generalizing h with
  | nil => rfl
  | cons d rest ih =>
    unfold Registry.takeAll registerAll
    change outcome (registerRule host d >>= fun _ => (Registry.rules host).takeAll rest) h = _
    rw [outcome_bind, outcome_bind]
    generalize outcome (registerRule host d) h = run
    obtain ⟨result, h₁⟩ := run
    cases result with
    | error fault => rfl
    | ok id =>
      dsimp only
      rw [ih h₁, outcome_bind]
      generalize outcome (registerAll host rest) h₁ = run
      obtain ⟨result, h₂⟩ := run
      cases result <;> rfl

variable (host) in
/-- Creating flows is taking them in. -/
theorem createFlows_eq (definitions : List Value) : createFlows host definitions =
    (Registry.flows host).takeAll (definitions.map .ofFlowValue) := by
  induction definitions with
  | nil => rfl
  | cons v rest ih =>
    unfold createFlows
    rw [ih]
    rfl

section Configure

variable {settings : Settings}

theorem outcome_configure_unlisted {fault : Fault} (hr : settings.ruleDefinitions = .error fault) :
    outcome (configure host settings) h = (.error fault, h) := by
  unfold configure
  rw [outcome_bind, outcome_ofExcept]
  unfold Settings.ruleDefinitions at hr
  cases hl : settings.rules.toList with
  | error fault' =>
    rw [hl] at hr
    cases hr
    rfl
  | ok values =>
    rw [hl] at hr
    cases hr

variable (host) in
/-- The configuration up to the flows. -/
theorem outcome_configure {rules : List (Definition Rule)} (ho : h.outages = [])
    (hr : settings.ruleDefinitions = .ok rules) :
    match outcome ((Registry.rules host).takeAll rules) h with
    | (.error fault, h₁) => outcome (configure host settings) h = (.error fault, h₁)
    | (.ok _, h₁) => ∃ lines, outcome (configure host settings) h =
      match settings.flowDefinitions with
      | .error fault => (.error fault, { h₁ with log := lines })
      | .ok flows => outcome ((Registry.flows host).takeAll flows) { h₁ with log := lines } := by
  unfold Settings.ruleDefinitions at hr
  cases hl : settings.rules.toList with
  | error fault =>
    rw [hl] at hr
    cases hr
  | ok values =>
  rw [hl] at hr
  cases hr
  rw [outcome_takeAll_rules]
  unfold configure
  rw [outcome_bind, outcome_ofExcept, hl]
  -- Loading adds a line to the log once all rules are registered; the flows begin after it.
  cases hrun : outcome (registerAll host (values.map .ofRuleValue)) h with
  | mk result h₁ =>
  cases result with
  | error fault =>
    have hload : outcome (loadRules host (values.map .ofRuleValue)) h = (.error fault, h₁) := by
      unfold loadRules
      rw [outcome_bind_ok (outcome_engineOperation_ok ho), outcome_bind_error hrun]
    exact outcome_bind_error hload
  | ok ids =>
    obtain ⟨lines, hload⟩ := outcome_loadRules ho hrun
    refine ⟨lines, ?_⟩
    dsimp only
    rw [outcome_bind_ok hload, outcome_bind, outcome_ofExcept]
    unfold Settings.flowDefinitions
    cases settings.flows.toList with
    | error fault => rfl
    | ok flows => exact congrArg (outcome · _) (createFlows_eq host flows)

/-- What became of a hub that took the rules and flows in. -/
structure TookIn (host : Host α) (rules : List (Definition Rule)) (flows : List (Definition Flow))
    (h h' : Hub α) : Prop where
  rules : (Registry.rules host).Gained rules h h'
  flows : (Registry.flows host).Gained flows h h'
  wiring : h'.wiring = h.wiring

theorem TookIn.of_took {rules : List (Definition Rule)} {flows : List (Definition Flow)} {h₁ h₂ : Hub α}
    (hr : (Registry.rules host).Took rules h h₁) (hf : (Registry.flows host).Took flows h₂ h')
    (hs : (Registry.flows host).beside.allows h₁ h₂) (hb : h₂.flows.book = h₁.flows.book) :
    TookIn host rules flows h h' := by
  obtain ⟨made, hmade, hrules⟩ := hr.gained
  obtain ⟨made', hmade', hflows⟩ := hf.gained
  obtain ⟨hbook, hwiring⟩ := Prod.mk.inj hr.beside
  obtain ⟨hbook₁, hwiring₁⟩ := Prod.mk.inj hs
  obtain ⟨hbook₂, hwiring₂⟩ := Prod.mk.inj hf.beside
  refine ⟨⟨made, hmade, ?_⟩, ⟨made', hmade', ?_⟩, (hwiring₂.trans hwiring₁).trans hwiring⟩
  · exact (congrArg RuleBook.rules (hbook₂.trans hbook₁)).trans hrules
  · exact hflows.trans (congrArg (Assoc.merge · made') (hb.trans hbook))

/-- A configuration is taken in as a whole, or up to the first definition that is refused: all rules come
before all flows, and what came before the refusal stays. -/
theorem configure_cases (hc : h.Calm host) (settings : Settings) :
    (∃ rules flows h', settings.ruleDefinitions = .ok rules ∧ settings.flowDefinitions = .ok flows ∧
      TookIn host rules flows h h' ∧ outcome (configure host settings) h = (.ok (), h')) ∨
    ∃ rules flows fault h', rules <+: settings.ruleDefinitions.toOption.getD [] ∧
      flows <+: settings.flowDefinitions.toOption.getD [] ∧
      (flows ≠ [] → settings.ruleDefinitions = .ok rules) ∧
      TookIn host rules flows h h' ∧ outcome (configure host settings) h = (.error fault, h') := by
  have hR := Registry.rules_lawful host
  have hF := Registry.flows_lawful host
  have hlog (g : Hub α) lines : (Registry.flows host).beside.allows g { g with log := lines } := rfl
  cases hr : settings.ruleDefinitions with
  | error fault =>
    exact .inr ⟨[], [], fault, h, List.nil_prefix, List.nil_prefix, fun hn => absurd rfl hn,
      ⟨⟨[], .nil, rfl⟩, ⟨[], .nil, rfl⟩, rfl⟩, outcome_configure_unlisted hr⟩
  | ok rules =>
  have hrun := outcome_configure host hc.inOrder hr
  -- All rules are taken in, or those before the first that is refused, and then no flow is.
  obtain ⟨h₁, hok, ht⟩ | ⟨taken, d, rest, fault, h₁, hsplit, ht, -, herror⟩ := hR.takeAll hc rules
  · rw [hok] at hrun
    obtain ⟨lines, hrun⟩ := hrun
    have hc₁ : Hub.Calm host { h₁ with log := lines } := (hR.calm hc ht.beside).congr rfl
    cases hf : settings.flowDefinitions with
    | error fault =>
      rw [hf] at hrun
      exact .inr ⟨rules, [], fault, _, List.prefix_rfl, List.nil_prefix, fun hn => absurd rfl hn,
        .of_took ht (.nil _ _) (hlog h₁ lines) rfl, hrun⟩
    | ok flows =>
      rw [hf] at hrun
      obtain ⟨h₂, hok₂, ht₂⟩ | ⟨taken, d, rest, fault, h₂, hsplit, ht₂, -, herror⟩ := hF.takeAll hc₁ flows
      · exact .inl ⟨rules, flows, h₂, rfl, rfl, .of_took ht ht₂ (hlog h₁ lines) rfl, hrun.trans hok₂⟩
      · exact .inr ⟨rules, taken, fault, h₂, List.prefix_rfl, ⟨d :: rest, hsplit.symm⟩, fun _ => rfl,
          .of_took ht ht₂ (hlog h₁ lines) rfl, hrun.trans herror⟩
  · rw [herror] at hrun
    refine .inr ⟨taken, [], fault, h₁, ⟨d :: rest, hsplit.symm⟩, List.nil_prefix,
      fun hn => absurd rfl hn, .of_took ht (.nil _ _) ?_ rfl, hrun⟩
    exact rfl

theorem wiring_configure (hc : h.Calm host) (settings : Settings) :
    (outcome (configure host settings) h).2.wiring = h.wiring := by
  obtain ⟨_, _, h', -, -, ht, hrun⟩ | ⟨_, _, _, h', -, -, -, ht, hrun⟩ := configure_cases hc settings
  · rw [hrun]
    exact ht.wiring
  · rw [hrun]
    exact ht.wiring

/-- A configuration that is taken in is two lists of definitions that are. -/
theorem configure_eq_ok (hc : h.Calm host)
    (hrun : outcome (configure host settings) h = (.ok (), h')) :
    ∃ rules flows h₁ lines, settings.ruleDefinitions = .ok rules ∧
      settings.flowDefinitions = .ok flows ∧
      outcome ((Registry.rules host).takeAll rules) h = (.ok (), h₁) ∧
      (Registry.rules host).Took rules h h₁ ∧ Hub.Calm host { h₁ with log := lines } ∧
      outcome ((Registry.flows host).takeAll flows) { h₁ with log := lines } = (.ok (), h') := by
  have hR := Registry.rules_lawful host
  cases hr : settings.ruleDefinitions with
  | error fault =>
    rw [outcome_configure_unlisted hr] at hrun
    cases hrun
  | ok rules =>
  have hh := outcome_configure host hc.inOrder hr
  obtain ⟨h₁, hok, ht⟩ | ⟨_, _, _, fault, h₁, -, -, -, herror⟩ := hR.takeAll hc rules
  case inr =>
    rw [herror] at hh
    cases hh.symm.trans hrun
  rw [hok] at hh
  obtain ⟨lines, hh⟩ := hh
  cases hf : settings.flowDefinitions with
  | error fault =>
    rw [hf] at hh
    cases hh.symm.trans hrun
  | ok flows =>
    rw [hf] at hh
    exact ⟨rules, flows, h₁, lines, rfl, rfl, hok, ht, (hR.calm hc ht.beside).congr rfl,
      hh.symm.trans hrun⟩

/-- What was taken in of a configuration that could be is the whole of it. -/
theorem Hub.Calm.tookIn {rules : List (Definition Rule)} {flows : List (Definition Flow)}
    (hc : h.Calm host) (hr : settings.ruleDefinitions = .ok rules)
    (hf : settings.flowDefinitions = .ok flows)
    (hrun : outcome (configure host settings) h = (.ok (), h')) : TookIn host rules flows h h' := by
  obtain ⟨_, _, _, hr', hf', ht, hok⟩ | ⟨_, _, _, _, -, -, -, -, herror⟩ := configure_cases hc settings
  · cases hr.symm.trans hr'
    cases hf.symm.trans hf'
    cases hok.symm.trans hrun
    exact ht
  · cases herror.symm.trans hrun

/-- A configuration that names an id in use is not taken in. -/
theorem configure_ne_ok {rules : List (Definition Rule)} {flows : List (Definition Flow)}
    (hc : h.Calm host) (hr : settings.ruleDefinitions = .ok rules)
    (hf : settings.flowDefinitions = .ok flows)
    (hu : (∃ d ∈ rules, (Registry.rules host).NamesUsed h d) ∨
      ∃ d ∈ flows, (Registry.flows host).NamesUsed h d) (h' : Hub α) :
    outcome (configure host settings) h ≠ (.ok (), h') := by
  intro hrun
  obtain ⟨_, _, h₁, lines, hr', hf', hok, ht, hc₁, hrest⟩ := configure_eq_ok hc hrun
  cases hr.symm.trans hr'
  cases hf.symm.trans hf'
  rcases hu with ⟨d, hd, hu⟩ | ⟨d, hd, now, r, id, hm, hid, hused⟩
  · exact (Registry.rules_lawful host).takeAll_ne_ok hc hd hu _ hok
  · -- Rules were taken in since, but the flows are those that there were.
    have hused₁ : id ∈ Assoc.keys h₁.flows.book := (Prod.mk.inj ht.beside).1 ▸ hused
    exact (Registry.flows_lawful host).takeAll_ne_ok hc₁ hd ⟨now, r, id, hm, hid, hused₁⟩ _ hrest

/-- No definition names an id. -/
structure Unnamed (host : Host α) (rules : List (Definition Rule)) (flows : List (Definition Flow)) :
    Prop where
  rules : ∀ d ∈ rules, ¬ (Registry.rules host).Named d
  flows : ∀ d ∈ flows, ¬ (Registry.flows host).Named d

/-- A valid configuration that names no ids is taken in whatever is stored. -/
theorem configure_of_unnamed {rules : List (Definition Rule)} {flows : List (Definition Flow)}
    (hc : h.Calm host) (hr : settings.ruleDefinitions = .ok rules)
    (hf : settings.flowDefinitions = .ok flows)
    (vr : ∀ d ∈ rules, ∃ now r, (Registry.rules host).makes now d = .ok r)
    (vf : ∀ d ∈ flows, ∃ now f, (Registry.flows host).makes now d = .ok f)
    (hu : Unnamed host rules flows) :
    ∃ h', outcome (configure host settings) h = (.ok (), h') := by
  have hR := Registry.rules_lawful host
  obtain ⟨h₁, hok⟩ := hR.takeAll_of_unnamed hc fun d hd => ⟨vr d hd, hu.rules d hd⟩
  have hh := outcome_configure host hc.inOrder hr
  rw [hok, hf] at hh
  obtain ⟨lines, hh⟩ := hh
  have hc₁ : Hub.Calm host { h₁ with log := lines } :=
    (hR.calm hc (hR.took hc hok).beside).congr rfl
  obtain ⟨h', hok'⟩ := (Registry.flows_lawful host).takeAll_of_unnamed hc₁
    fun d hd => ⟨vf d hd, hu.flows d hd⟩
  exact ⟨h', hh.trans hok'⟩

/-- What is held `n` times is held once more after the configuration was taken in once more, unless a
definition names an id that could be drawn. -/
theorem configure_holds {rules : List (Definition Rule)} {flows : List (Definition Flow)} {n : Nat}
    (hc : h.Calm host) (hr : settings.ruleDefinitions = .ok rules)
    (hf : settings.flowDefinitions = .ok flows)
    (hrun : outcome (configure host settings) h = (.ok (), h')) :
    ((Registry.rules host).Spares rules → (Registry.rules host).Drawn h →
      (Registry.rules host).Holds n rules h →
        (Registry.rules host).Holds (n + 1) rules h' ∧ (Registry.rules host).Drawn h') ∧
    ((Registry.flows host).Spares flows → (Registry.flows host).Drawn h →
      (Registry.flows host).Holds n flows h →
        (Registry.flows host).Holds (n + 1) flows h' ∧ (Registry.flows host).Drawn h') := by
  have hR := Registry.rules_lawful host
  have hF := Registry.flows_lawful host
  obtain ⟨_, _, h₁, lines, hr', hf', hok, ht, hc₁, hrest⟩ := configure_eq_ok hc hrun
  cases hr.symm.trans hr'
  cases hf.symm.trans hf'
  constructor
  · intro hspare hdrawn hholds
    obtain ⟨hholds', hdrawn'⟩ := hR.takeAll_holds hc hspare hdrawn hholds hok
    have ht' := hF.took hc₁ hrest
    have hsame : (Registry.rules host).stored h' = (Registry.rules host).stored h₁ :=
      congrArg RuleBook.rules (Prod.mk.inj ht'.beside).1
    exact ⟨hholds'.congr hsame, hdrawn'.mono hsame ht'.serial⟩
  · intro hspare hdrawn hholds
    have hsame : (Registry.flows host).stored { h₁ with log := lines } = (Registry.flows host).stored h :=
      (Prod.mk.inj ht.beside).1
    exact hF.takeAll_holds hc₁ hspare (hdrawn.mono hsame ht.serial) (hholds.congr hsame) hrest

/-- What one hub takes in, a hub like it takes in as well. -/
theorem configure_like (hc : h.Calm host) (gc : g.Calm host)
    (hr : (Registry.rules host).Like h g) (hf : (Registry.flows host).Like h g)
    (hrun : outcome (configure host settings) h = (.ok (), h')) :
    ∃ g', outcome (configure host settings) g = (.ok (), g') := by
  have hR := Registry.rules_lawful host
  obtain ⟨rules, flows, h₁, lines, hrules, hflows, hok, ht, hc₁, hrest⟩ := configure_eq_ok hc hrun
  obtain ⟨g₁, gok, hl⟩ := hR.takeAll_like hc gc hr hok
  have gt := hR.took gc gok
  have hg := outcome_configure host gc.inOrder hrules
  rw [gok] at hg
  obtain ⟨lines', hg⟩ := hg
  rw [hflows] at hg
  have gc₁ : Hub.Calm host { g₁ with log := lines' } := (hR.calm gc gt.beside).congr rfl
  have hl' : (Registry.flows host).Like { h₁ with log := lines } { g₁ with log := lines' } := by
    refine ⟨hl.1, ?_⟩
    change Assoc.keys h₁.flows.book = Assoc.keys g₁.flows.book
    rw [(Prod.mk.inj ht.beside).1, (Prod.mk.inj gt.beside).1]
    exact hf.2
  obtain ⟨g', hok', -⟩ := (Registry.flows_lawful host).takeAll_like hc₁ gc₁ hl' hrest
  exact ⟨g', hg.trans hok'⟩

end Configure

/-! ## Starting -/

/-- The hub when it takes its configuration in: it listens, and shares the actions of its desk. -/
def Hub.atIntake (h : Hub α) : Hub α := h.listening (sharing h.desk.available h.engine.actions)

/-- The hub's own subscriptions, numbered from `n` on. -/
def ownSubscriptions (n : Nat) : List Subscription :=
  [⟨n, .topic Topic.typeDiscovered, .discoverType⟩,
    ⟨n + 1, .topic Topic.fieldsDiscovered, .discoverFields⟩, ⟨n + 2, .topic Topic.event, .handleEvent⟩]

theorem subscriptions_atIntake (h : Hub α) : h.atIntake.bus.subscriptions =
    ⟨h.bus.subscriptions.entries ++ ownSubscriptions h.bus.subscriptions.next,
      h.bus.subscriptions.next + 3⟩ := by
  simp [Hub.atIntake, Hub.listening, Subscriptions.add, ownSubscriptions]

theorem Hub.Calm.atIntake (hc : h.Calm host) : h.atIntake.Calm host where
  inOrder := hc.inOrder
  told topic ht s hs := by
    refine hc.told topic ht s ?_
    rw [subscriptions_atIntake, Subscriptions.mem_ofTopic] at hs
    obtain ⟨e, he, hchannel, hs⟩ := hs
    rcases List.mem_append.1 he with he | he
    · exact Subscriptions.mem_ofTopic.2 ⟨e, he, hchannel, hs⟩
    · exfalso
      revert ht
      simp only [ownSubscriptions, List.mem_cons, List.not_mem_nil, or_false] at he
      rcases he with rfl | rfl | rfl <;> cases hchannel <;> decide

/-- The hub that listens no more. -/
def Hub.unlistening (h : Hub α) : Hub α :=
  { h with
    bus := { h.bus with subscriptions := { h.bus.subscriptions with
      entries := h.bus.subscriptions.entries.filter (·.id ∉ h.flows.listeners) } }
    flows := { h.flows with listeners := [] } }

theorem outcome_unsubscribeAll (ids : List Nat) (h : Hub α) :
    outcome (unsubscribeAll ids) h = (.ok (), { h with bus := { h.bus with
      subscriptions := { h.bus.subscriptions with
        entries := h.bus.subscriptions.entries.filter (·.id ∉ ids) } } }) := by
  induction ids generalizing h with
  | nil =>
    rw [outcome_unsubscribeAll_nil]
    simp
  | cons id rest ih =>
    have hone : outcome (unsubscribe (α := α) id) h = (.ok _, { h with bus := { h.bus with
        subscriptions := (h.bus.subscriptions.remove id).2 } }) := rfl
    have hfilter (entries : List Subscription) : (entries.filter (·.id != id)).filter (·.id ∉ rest) =
        entries.filter (·.id ∉ id :: rest) := by
      rw [List.filter_filter]
      exact List.filter_congr fun e _ => by grind
    unfold unsubscribeAll
    rw [outcome_bind_ok hone, ih, ← hfilter]
    rfl

theorem outcome_stopListening (h : Hub α) : outcome stopListening h = (.ok (), h.unlistening) := by
  unfold stopListening
  rw [outcome_bind_ok (outcome_get h), outcome_bind_ok (outcome_unsubscribeAll _ h)]
  rfl

/-- A hub that has been started is not started again. -/
theorem outcome_start_of_initialized (hi : h.flows.initialized = true) :
    outcome (start host) h = (.ok (), h) := by
  unfold start
  rw [outcome_bind_ok (outcome_get h), hi, if_pos rfl]
  rfl

/-- A calm hub that has not been started takes its configuration in and then has been started, or it
fails to and stops listening. -/
theorem start_cases (hc : h.Calm host) (hi : h.flows.initialized = false) :
    (∃ h₁ lines, outcome (configure host h.settings) h.atIntake = (.ok (), h₁) ∧
      outcome (start host) h = (.ok (), h₁.initialized lines)) ∨
    ∃ fault h₁ lines, outcome (configure host h.settings) h.atIntake = (.error fault, h₁) ∧
      outcome (start host) h = (.error (.startup fault), { h₁.unlistening with log := lines }) := by
  have hw : outcome (wire host) h = outcome (configure host h.settings) h.atIntake :=
    outcome_wire host hc.inOrder
  obtain ⟨_, _, h₁, -, -, ht, hok⟩ | ⟨_, _, fault, h₁, -, -, -, -, herror⟩ :=
    configure_cases hc.atIntake h.settings
  · have ho : h₁.outages = [] := (hc.atIntake.congr ht.wiring).inOrder
    obtain ⟨lines, hs⟩ := outcome_started hi (hw.trans hok) ho
    exact .inl ⟨h₁, lines, hok, hs⟩
  · have hattempt : outcome (Task.attempt (wire host)) h = (.ok (.error fault), h₁) := by
      rw [outcome_attempt, hw, herror]
    let line : LogLine :=
      ⟨.error, flowPart, faultText "Flow orchestrator initialization failed" [] fault.message⟩
    refine .inr ⟨fault, h₁, line :: h₁.log, herror, ?_⟩
    unfold start
    rw [outcome_bind_ok (outcome_get h), hi, if_neg Bool.false_ne_true, outcome_bind_ok hattempt]
    dsimp only
    rw [outcome_bind_ok (outcome_stopListening h₁)]
    exact outcome_bind_ok (outcome_log rfl _ _ _)

/-- A start succeeds where the configuration is taken in. -/
theorem isOk_start (hc : h.Calm host) (hi : h.flows.initialized = false) :
    (outcome (start host) h).1.isOk = (outcome (configure host h.settings) h.atIntake).1.isOk := by
  obtain ⟨h₁, _, hok, hs⟩ | ⟨_, h₁, _, herror, hs⟩ := start_cases hc hi
  · rw [hok, hs]
  · rw [herror, hs]
    rfl

theorem Hub.Fresh.calm (fresh : h.Fresh) : h.Calm host where
  inOrder := fresh.inOrder
  told topic _ s hs := by
    rw [fresh.subscriptions] at hs
    cases hs

theorem Hub.Fresh.unready (fresh : h.Fresh) : h.flows.initialized = false := by
  rw [fresh.flows]
  rfl

/-- Settings with the given rules and flows. -/
def Settings.configured (rules flows : List Value) : Settings :=
  { Settings.standard with rules := .list rules, flows := .list flows }

/-- Settings with a rule that has an id and a flow that has none. -/
def Settings.identified : Settings :=
  .configured [typedRule (some "r1") "Motion" "motion"] [flowOf none "steps" [firingStep]]

/-- A hub that was assembled from settings. -/
def Hub.assembledFrom (settings : Settings) : Hub Unit :=
  (outcome (assemble settings none) (Hub.atMidnight ())).2

theorem fresh_assembledFrom {settings : Settings}
    (hs : (outcome (assemble settings none) (Hub.atMidnight ())).1.isOk = true) :
    (Hub.assembledFrom settings).Fresh := fresh_of_assemble rfl (outcome_of_isOk hs)

end EventHub
