import EventHub.Proofs.Hub.Configuration

/-!
# Starting and stopping over and over

A hub is started and shut down in any order while time passes, and nobody else calls it.

* **Sessions** (`sessions`): a start begins one if none is running.
* **Phases** (`Hub.Off`, `Hub.On`): a hub that has been started has its three subscriptions, one that has
  not or that was shut down has none.
* **Starts** (`start_of_configure`, `start_of_namesTaken`): a start takes the configuration in, whatever
  was taken in before. The rules and flows of earlier sessions are still there, so the ids that the
  configuration names are in use from the second session on.
* **Lives** (`Hub.Life`): what holds after any steps, by induction on them.
* `Hub.Fresh.restarts`: when the next start succeeds, and what it leaves.
-/

namespace EventHub

open EventHub.Task

variable {α : Type} {host : Host α} {h h' g : Hub α} {rules : List (Definition Rule)}
  {flows : List (Definition Flow)}

/-! ## Steps -/

/-- The hub is started, or shut down, or time passes. -/
inductive LifeStep
  | start
  | shutdown
  | wait (now : Time.Moment)

/-- The hub after the step, whatever came of it. -/
def LifeStep.run (host : Host α) (h : Hub α) : LifeStep → Hub α
  | start => (outcome (EventHub.start host) h).2
  | shutdown => (outcome EventHub.shutdown h).2
  | wait now => { h with now }

/-- The hub after the steps, one after the other. -/
def Hub.after (host : Host α) (h : Hub α) (steps : List LifeStep) : Hub α :=
  steps.foldl (LifeStep.run host) h

/-- Whether the hub was asked to run, and how many sessions were begun so far. -/
structure Sessions where
  running : Bool
  begun : Nat

/-- A start begins a session if none is running. -/
def Sessions.step (s : Sessions) : LifeStep → Sessions
  | .start => if s.running then s else ⟨true, s.begun + 1⟩
  | .shutdown => { s with running := false }
  | .wait _ => s

theorem Sessions.step_start_of_running {s : Sessions} (hr : s.running = true) : s.step .start = s :=
  if_pos hr

theorem Sessions.step_start_of_stopped {s : Sessions} (hr : ¬ s.running = true) :
    s.step .start = ⟨true, s.begun + 1⟩ := if_neg hr

/-- The sessions after the steps. -/
def sessions (steps : List LifeStep) : Sessions := steps.foldl Sessions.step ⟨false, 0⟩

theorem sessions_concat (steps : List LifeStep) (s : LifeStep) :
    sessions (steps ++ [s]) = (sessions steps).step s := by
  simp [sessions]

/-! ## Phases -/

/-- The hub has not been started, or has been shut down: nobody is subscribed. -/
structure Hub.Off (g : Hub α) : Prop where
  unready : g.flows.initialized = false
  nobody : g.bus.subscriptions.entries = []

/-- The hub has been started: it is subscribed once to each of the topics that it listens to, and nobody
else is. -/
structure Hub.On (g : Hub α) : Prop where
  ready : g.flows.initialized = true
  own : ∃ n, g.bus.subscriptions.entries = ownSubscriptions n ∧
    g.flows.listeners = (ownSubscriptions n).map (·.id)

theorem Hub.Off.calm (hoff : g.Off) (ho : g.outages = []) : g.Calm host where
  inOrder := ho
  told topic _ s hs := by
    obtain ⟨e, he, -⟩ := Subscriptions.mem_ofTopic.1 hs
    rw [hoff.nobody] at he
    cases he

/-- A shutdown ends the subscriptions of the hub and stops the dispatcher. -/
theorem outcome_shutdown (g : Hub α) : ∃ running lines, outcome shutdown g = (.ok (),
    { g.unlistening with
      bus := { g.unlistening.bus with running }
      flows := { g.unlistening.flows with initialized := false }
      log := lines }) := by
  obtain ⟨running, lines, hstop⟩ : ∃ running lines, outcome stopBus g.unlistening = (.ok (),
      { g.unlistening with bus := { g.unlistening.bus with running }, log := lines }) := by
    unfold stopBus
    rw [outcome_bind_ok (outcome_get _)]
    dsimp only
    split
    · split
      · exact ⟨false, _, rfl⟩
      · exact ⟨false, _, rfl⟩
    · exact ⟨g.unlistening.bus.running, g.log, rfl⟩
  unfold shutdown
  rw [outcome_bind_ok (outcome_stopListening g), outcome_bind_ok hstop]
  exact ⟨running, _, rfl⟩

/-- After a shutdown nobody is subscribed. -/
theorem off_shutdown (hg : g.Off ∨ g.On) : (outcome shutdown g).2.Off := by
  obtain ⟨running, lines, hs⟩ := outcome_shutdown g
  rw [hs]
  refine ⟨rfl, ?_⟩
  change g.bus.subscriptions.entries.filter (·.id ∉ g.flows.listeners) = []
  rcases hg with hoff | hon
  · rw [hoff.nobody]
    rfl
  · obtain ⟨n, hentries, hlisteners⟩ := hon.own
    rw [hentries, hlisteners]
    simp [ownSubscriptions]

/-! ## Starts -/

/-- The hub has the settings of the other, and all operations are in order. -/
structure Hub.SetUpAs (h g : Hub α) : Prop where
  settings : g.settings = h.settings
  inOrder : g.outages = []

/-- A start on a hub that is off turns it on, or fails and leaves it off. -/
theorem Hub.Off.start_cases (hoff : g.Off) (hset : h.SetUpAs g) :
    (∃ h₁ lines, outcome (configure host h.settings) g.atIntake = (.ok (), h₁) ∧
      outcome (start host) g = (.ok (), h₁.initialized lines) ∧
      (h₁.initialized lines).On ∧ h.SetUpAs (h₁.initialized lines)) ∨
    ∃ fault h₁ lines, outcome (configure host h.settings) g.atIntake = (.error fault, h₁) ∧
      outcome (start host) g = (.error (.startup fault), { h₁.unlistening with log := lines }) ∧
      Hub.Off { h₁.unlistening with log := lines } ∧
      h.SetUpAs { h₁.unlistening with log := lines } := by
  have hc : g.Calm host := hoff.calm hset.inOrder
  have hwiring := wiring_configure hc.atIntake g.settings
  have hstart := EventHub.start_cases hc hoff.unready
  rw [hset.settings] at hwiring hstart
  simp only [Hub.wiring, Prod.mk.injEq] at hwiring
  obtain ⟨ho, hs, hsub, hl, hi⟩ := hwiring
  -- A hub that is off has no subscriptions, so those in force after the intake are the hub's own.
  have hentries : g.atIntake.bus.subscriptions.entries = ownSubscriptions g.bus.subscriptions.next := by
    rw [subscriptions_atIntake, hoff.nobody]
    rfl
  have hlisteners : g.atIntake.flows.listeners = (ownSubscriptions g.bus.subscriptions.next).map (·.id) :=
    rfl
  rw [← hsub] at hentries
  rw [← hl] at hlisteners
  obtain ⟨h₁, lines, hok, hstarted⟩ | ⟨fault, h₁, lines, herror, hstarted⟩ := hstart
  · rw [hok] at ho hs hentries hlisteners
    exact .inl ⟨h₁, lines, hok, hstarted, ⟨rfl, _, hentries, hlisteners⟩,
      hs.trans hset.settings, ho.trans hset.inOrder⟩
  · rw [herror] at ho hs hi hentries hlisteners
    refine .inr ⟨fault, h₁, lines, herror, hstarted, ⟨hi.trans hoff.unready, ?_⟩,
      hs.trans hset.settings, ho.trans hset.inOrder⟩
    -- The start failed, and ending its own subscriptions ends all of them.
    change h₁.bus.subscriptions.entries.filter (·.id ∉ h₁.flows.listeners) = []
    rw [show h₁.bus.subscriptions.entries = _ from hentries, show h₁.flows.listeners = _ from hlisteners]
    simp [ownSubscriptions]

/-- What the hub has stored, and how many ids it has drawn. -/
def Hub.records (h : Hub α) : Nat × RuleBook × FlowBook := (h.serial, h.engine.book, h.flows.book)

theorem Hub.stored_of_records (hr : h'.records = g.records) : h'.serial = g.serial ∧
    (Registry.rules host).stored h' = (Registry.rules host).stored g ∧
    (Registry.flows host).stored h' = (Registry.flows host).stored g := by
  simp only [Hub.records, Prod.mk.injEq] at hr
  obtain ⟨hserial, hrules, hflows⟩ := hr
  exact ⟨hserial, congrArg RuleBook.rules hrules, hflows⟩

/-- The ids that the configuration names are in use. -/
structure NamesTaken (host : Host α) (rules : List (Definition Rule)) (flows : List (Definition Flow))
    (g : Hub α) : Prop where
  rules : ∀ d ∈ rules, (Registry.rules host).Named d → (Registry.rules host).NamesUsed g d
  flows : ∀ d ∈ flows, (Registry.flows host).Named d → (Registry.flows host).NamesUsed g d

theorem NamesTaken.congr (hn : NamesTaken host rules flows g) (hr : h'.records = g.records) :
    NamesTaken host rules flows h' := by
  obtain ⟨-, hrules, hflows⟩ := Hub.stored_of_records hr
  exact ⟨fun d hd hnamed => (hn.rules d hd hnamed).congr hrules,
    fun d hd hnamed => (hn.flows d hd hnamed).congr hflows⟩

theorem TookIn.namesTaken (ht : TookIn host rules flows g h') : NamesTaken host rules flows h' where
  rules _ hd hn := (Registry.rules_lawful host).namesUsed ht.rules hd hn
  flows _ hd hn := (Registry.flows_lawful host).namesUsed ht.flows hd hn

/-- Ids stay in use whatever else is taken in. -/
theorem TookIn.namesTaken_of_namesTaken {taken : List (Definition Rule)} {taken' : List (Definition Flow)}
    (ht : TookIn host taken taken' g h') (hn : NamesTaken host rules flows g) :
    NamesTaken host rules flows h' where
  rules d hd hnamed := ht.rules.namesUsed (hn.rules d hd hnamed)
  flows d hd hnamed := ht.flows.namesUsed (hn.flows d hd hnamed)

/-- Each configured rule and each configured flow is held `n` times, unless a definition names an id that
could be drawn. -/
structure HoldsAll (host : Host α) (n : Nat) (rules : List (Definition Rule))
    (flows : List (Definition Flow)) (g : Hub α) : Prop where
  rules : (Registry.rules host).Spares rules →
    (Registry.rules host).Holds n rules g ∧ (Registry.rules host).Drawn g
  flows : (Registry.flows host).Spares flows →
    (Registry.flows host).Holds n flows g ∧ (Registry.flows host).Drawn g

theorem HoldsAll.congr {n : Nat} (hh : HoldsAll host n rules flows g) (hr : h'.records = g.records) :
    HoldsAll host n rules flows h' := by
  obtain ⟨hserial, hrules, hflows⟩ := Hub.stored_of_records hr
  constructor
  · intro hspare
    obtain ⟨hheld, hdrawn⟩ := hh.rules hspare
    exact ⟨hheld.congr hrules, hdrawn.mono hrules (Nat.le_of_eq hserial.symm)⟩
  · intro hspare
    obtain ⟨hheld, hdrawn⟩ := hh.flows hspare
    exact ⟨hheld.congr hflows, hdrawn.mono hflows (Nat.le_of_eq hserial.symm)⟩

/-- What is held `n` times is held once more after the configuration was taken in. -/
theorem HoldsAll.configure {n : Nat} (hh : HoldsAll host n rules flows g) (hc : g.Calm host)
    {settings : Settings} (hr : settings.ruleDefinitions = .ok rules)
    (hf : settings.flowDefinitions = .ok flows)
    (hok : outcome (configure host settings) g = (.ok (), h')) :
    HoldsAll host (n + 1) rules flows h' := by
  obtain ⟨holdsRules, holdsFlows⟩ := configure_holds hc hr hf hok
  exact ⟨fun hspare => holdsRules hspare (hh.rules hspare).2 (hh.rules hspare).1,
    fun hspare => holdsFlows hspare (hh.flows hspare).2 (hh.flows hspare).1⟩

/-- A start that takes the configuration in. -/
theorem start_of_configure {n : Nat} (hoff : g.Off) (hset : h.SetUpAs g)
    (hr : h.settings.ruleDefinitions = .ok rules) (hf : h.settings.flowDefinitions = .ok flows)
    (hholds : HoldsAll host n rules flows g)
    (hconfigure : outcome (configure host h.settings) g.atIntake = (.ok (), h')) :
    ∃ g', outcome (start host) g = (.ok (), g') ∧ g'.On ∧ h.SetUpAs g' ∧
      NamesTaken host rules flows g' ∧ HoldsAll host (n + 1) rules flows g' := by
  have hc : g.Calm host := hoff.calm hset.inOrder
  obtain ⟨h₁, lines, hok, hstarted, hon, hset'⟩ | ⟨_, _, _, herror, -⟩ := hoff.start_cases hset
  case inr => cases herror.symm.trans hconfigure
  have ht : TookIn host rules flows g.atIntake h₁ := hc.atIntake.tookIn hr hf hok
  have hintake : HoldsAll host n rules flows g.atIntake := hholds.congr rfl
  have hheld : HoldsAll host (n + 1) rules flows h₁ := hintake.configure hc.atIntake hr hf hok
  exact ⟨_, hstarted, hon, hset', ht.namesTaken.congr rfl, hheld.congr rfl⟩

/-- A start after which ids would be used twice. -/
theorem start_of_namesTaken (hoff : g.Off) (hset : h.SetUpAs g)
    (hr : h.settings.ruleDefinitions = .ok rules) (hf : h.settings.flowDefinitions = .ok flows)
    (hn : NamesTaken host rules flows g) (hu : ¬ Unnamed host rules flows) :
    ∃ fault g', outcome (start host) g = (.error fault, g') ∧ g'.Off ∧ h.SetUpAs g' ∧
      NamesTaken host rules flows g' := by
  have hc : g.Calm host := hoff.calm hset.inOrder
  have hused : (∃ d ∈ rules, (Registry.rules host).NamesUsed g.atIntake d) ∨
      ∃ d ∈ flows, (Registry.flows host).NamesUsed g.atIntake d := by
    by_contra hnot
    push Not at hnot
    exact hu ⟨fun d hd hnamed => hnot.1 d hd (hn.rules d hd hnamed),
      fun d hd hnamed => hnot.2 d hd (hn.flows d hd hnamed)⟩
  have hrefused := configure_ne_ok hc.atIntake hr hf hused
  obtain ⟨h₁, _, hok, -⟩ | ⟨fault, h₁, lines, herror, hstarted, hoff', hset'⟩ := hoff.start_cases hset
  · exact absurd hok (hrefused h₁)
  obtain ⟨_, _, _, -, -, -, hok⟩ | ⟨_, _, _, _, -, -, -, ht, herror'⟩ :=
    configure_cases hc.atIntake h.settings
  · exact absurd hok (hrefused _)
  cases herror'.symm.trans herror
  have hn' : NamesTaken host rules flows h₁ := ht.namesTaken_of_namesTaken (hn.congr rfl)
  exact ⟨_, _, hstarted, hoff', hset', hn'.congr rfl⟩

/-! ## Lives -/

/-- A fresh hub with a configuration that it can take in. -/
structure Hub.Startable (host : Host α) (rules : List (Definition Rule))
    (flows : List (Definition Flow)) (h : Hub α) : Prop where
  fresh : h.Fresh
  ruleList : h.settings.ruleDefinitions = .ok rules
  flowList : h.settings.flowDefinitions = .ok flows
  configures : ∃ h', outcome (configure host h.settings) h.atIntake = (.ok (), h')

/-- A fresh hub that starts has a configuration that it can take in. -/
theorem Hub.Fresh.startable (fresh : h.Fresh) (hs : ∃ h', outcome (start host) h = (.ok (), h')) :
    ∃ rules flows, h.Startable host rules flows := by
  obtain ⟨h', hstarted⟩ := hs
  have hc : h.Calm host := fresh.calm
  obtain ⟨h₁, _, hok, -⟩ | ⟨_, _, _, -, herror⟩ := start_cases hc fresh.unready
  case inr => cases herror.symm.trans hstarted
  obtain ⟨rules, flows, _, _, hr, hf, -⟩ := configure_eq_ok hc.atIntake hok
  exact ⟨rules, flows, fresh, hr, hf, h₁, hok⟩

/-- A session can be begun if it is the first, or if the configuration names no ids. -/
def CanBegin (host : Host α) (rules : List (Definition Rule)) (flows : List (Definition Flow))
    (session : Nat) : Prop := session ≤ 1 ∨ Unnamed host rules flows

/-- What holds of a hub that was another when it was fresh, and went through sessions since. It is on if it
was asked to run and could, and else off. -/
structure Hub.Life (host : Host α) (rules : List (Definition Rule)) (flows : List (Definition Flow))
    (h : Hub α) (s : Sessions) (g : Hub α) : Prop where
  setUp : h.SetUpAs g
  on : s.running = true → CanBegin host rules flows s.begun → g.On
  off : ¬ (s.running = true ∧ CanBegin host rules flows s.begun) → g.Off
  new : s.begun = 0 → s.running = false ∧ g.serial = h.serial ∧ g.engine.book.rules = [] ∧
    g.flows.book = []
  named : s.begun ≠ 0 → NamesTaken host rules flows g
  held : CanBegin host rules flows s.begun → HoldsAll host s.begun rules flows g

section Lives

variable {s : Sessions} (hs : h.Startable host rules flows)
include hs

theorem Hub.Startable.life : h.Life host rules flows ⟨false, 0⟩ h := by
  have noRules : h.engine.book.rules = [] := by
    rw [hs.fresh.rules]
    rfl
  have noFlows : h.flows.book = [] := by
    rw [hs.fresh.flows]
    rfl
  have nobody : h.bus.subscriptions.entries = [] := by
    rw [hs.fresh.subscriptions]
    rfl
  exact ⟨⟨rfl, hs.fresh.inOrder⟩, nofun, fun _ => ⟨hs.fresh.unready, nobody⟩,
    fun _ => ⟨rfl, rfl, noRules, noFlows⟩, fun h0 => absurd rfl h0,
    fun _ => ⟨fun _ => Registry.holds_of_nil noRules, fun _ => Registry.holds_of_nil noFlows⟩⟩

/-- A hub that is off takes its configuration in for the first time, or again if it names no ids. -/
theorem Hub.Life.configures (life : h.Life host rules flows s g) (hoff : g.Off)
    (hcan : s.begun = 0 ∨ Unnamed host rules flows) :
    ∃ g', outcome (configure host h.settings) g.atIntake = (.ok (), g') := by
  have hc : g.atIntake.Calm host := (hoff.calm life.setUp.inOrder).atIntake
  obtain ⟨h', hconfigured⟩ := hs.configures
  rcases hcan with hzero | hu
  · obtain ⟨-, hserial, noRules, noFlows⟩ := life.new hzero
    refine configure_like hs.fresh.calm.atIntake hc ⟨hserial.symm, ?_⟩ ⟨hserial.symm, ?_⟩ hconfigured
    · change Assoc.keys h.engine.book.rules = Assoc.keys g.engine.book.rules
      rw [noRules, hs.fresh.rules]
      rfl
    · change Assoc.keys h.flows.book = Assoc.keys g.flows.book
      rw [noFlows, hs.fresh.flows]
      rfl
  · -- The definitions are valid, since they were taken in when the hub was fresh.
    have ht : TookIn host rules flows h.atIntake h' :=
      hs.fresh.calm.atIntake.tookIn hs.ruleList hs.flowList hconfigured
    exact configure_of_unnamed hc hs.ruleList hs.flowList (fun d hd => ht.rules.valid hd)
      (fun d hd => ht.flows.valid hd) hu

/-- A start: it succeeds if the session that it begins can be begun, or goes on. -/
theorem Hub.Life.start (life : h.Life host rules flows s g) :
    h.Life host rules flows (s.step .start) (outcome (EventHub.start host) g).2 ∧
      ((outcome (EventHub.start host) g).1 = .ok () ↔
        CanBegin host rules flows (s.step .start).begun) := by
  by_cases hon : s.running = true ∧ CanBegin host rules flows s.begun
  · rw [outcome_start_of_initialized (life.on hon.1 hon.2).ready, Sessions.step_start_of_running hon.1]
    exact ⟨life, iff_of_true rfl hon.2⟩
  -- The hub is off: it was shut down, or the session that it is in could not be begun.
  have hoff := life.off hon
  by_cases hcan : s.begun = 0 ∨ Unnamed host rules flows
  · have hstopped : ¬ s.running = true := fun hrunning => by
      rcases hcan with hzero | hu
      · cases (life.new hzero).1.symm.trans hrunning
      · exact hon ⟨hrunning, .inr hu⟩
    have hcan' : CanBegin host rules flows (s.begun + 1) :=
      hcan.imp_left fun hzero => by omega
    have hheld := life.held (hcan.imp_left fun hzero => by omega)
    obtain ⟨g₁, hconfigured⟩ := life.configures hs hoff hcan
    obtain ⟨g', hstarted, hon', hset, hnamed, hholds⟩ :=
      start_of_configure hoff life.setUp hs.ruleList hs.flowList hheld hconfigured
    rw [hstarted, Sessions.step_start_of_stopped hstopped]
    exact ⟨⟨hset, fun _ _ => hon', fun hnot => absurd ⟨rfl, hcan'⟩ hnot, nofun, fun _ => hnamed,
      fun _ => hholds⟩, iff_of_true rfl hcan'⟩
  -- A session was begun before, and some definition names an id, which is in use by now.
  · push Not at hcan
    obtain ⟨hbegun, hu⟩ := hcan
    have hcannot : ¬ CanBegin host rules flows (s.step .start).begun := by
      rintro (hone | hu')
      · by_cases hrunning : s.running = true
        · rw [Sessions.step_start_of_running hrunning] at hone
          exact hon ⟨hrunning, .inl hone⟩
        · rw [Sessions.step_start_of_stopped hrunning] at hone
          exact hbegun (Nat.le_zero.1 (Nat.le_of_succ_le_succ hone))
      · exact hu hu'
    have hbegun' : (s.step .start).begun ≠ 0 := fun h0 => hcannot (.inl (by omega))
    obtain ⟨fault, g', hfailed, hoff', hset, hnamed⟩ :=
      start_of_namesTaken hoff life.setUp hs.ruleList hs.flowList (life.named hbegun) hu
    rw [hfailed]
    exact ⟨⟨hset, fun _ hcan => absurd hcan hcannot, fun _ => hoff', fun h0 => absurd h0 hbegun',
      fun _ => hnamed, fun hcan => absurd hcan hcannot⟩, iff_of_false nofun hcannot⟩

/-- One step. -/
theorem Hub.Life.run (life : h.Life host rules flows s g) (l : LifeStep) :
    h.Life host rules flows (s.step l) (l.run host g) := by
  cases l with
  | start => exact (life.start hs).1
  | shutdown =>
    have hoff : (outcome EventHub.shutdown g).2.Off := off_shutdown <| by
      by_cases hon : s.running = true ∧ CanBegin host rules flows s.begun
      · exact .inr (life.on hon.1 hon.2)
      · exact .inl (life.off hon)
    obtain ⟨running, lines, hrun⟩ := outcome_shutdown g
    unfold LifeStep.run
    rw [hrun] at hoff ⊢
    exact ⟨⟨life.setUp.settings, life.setUp.inOrder⟩, nofun, fun _ => hoff,
      fun h0 => ⟨rfl, (life.new h0).2⟩, fun h0 => (life.named h0).congr rfl,
      fun hcan => (life.held hcan).congr rfl⟩
  | wait now =>
    refine ⟨⟨life.setUp.settings, life.setUp.inOrder⟩, fun hr hcan => ?_, fun hnot => ?_,
      life.new, fun h0 => (life.named h0).congr rfl, fun hcan => (life.held hcan).congr rfl⟩
    · exact ⟨(life.on hr hcan).ready, (life.on hr hcan).own⟩
    · exact ⟨(life.off hnot).unready, (life.off hnot).nobody⟩

/-- Any steps. -/
theorem Hub.Life.after (life : h.Life host rules flows s g) (steps : List LifeStep) :
    h.Life host rules flows (steps.foldl Sessions.step s) (g.after host steps) := by
  induction steps generalizing s g with
  | nil => exact life
  | cons l rest ih => exact ih (life.run hs l)

end Lives

/-- Starting and stopping. A fresh hub that starts is started and shut down in any order while time passes.
Then its next start succeeds if no session was begun before the one that it begins or goes on with, or if
no configured rule or flow names an id, and else it fails. A start that succeeds leaves the hub subscribed
once to each of its three topics and nobody else subscribed. It leaves each configured rule and flow
stored as often as sessions were begun, in the configured order and under ids of their own, unless one
names an id that could be drawn for another. -/
theorem Hub.Fresh.restarts (fresh : h.Fresh) (hs : ∃ h', outcome (start host) h = (.ok (), h')) :
    ∃ rules flows, h.settings.ruleDefinitions = .ok rules ∧ h.settings.flowDefinitions = .ok flows ∧
    ∀ steps : List LifeStep,
      let g := h.after host steps
      let n := (sessions (steps ++ [.start])).begun
      ((∃ g', outcome (start host) g = (.ok (), g')) ↔ n = 1 ∨ Unnamed host rules flows) ∧
      ∀ g', outcome (start host) g = (.ok (), g') →
        (∃ k, g'.bus.subscriptions.entries = ownSubscriptions k ∧
          g'.flows.listeners = (ownSubscriptions k).map (·.id)) ∧
        ((Registry.rules host).Spares rules → (Registry.rules host).Holds n rules g') ∧
        ((Registry.flows host).Spares flows → (Registry.flows host).Holds n flows g') := by
  obtain ⟨rules, flows, hs⟩ := fresh.startable hs
  refine ⟨rules, flows, hs.ruleList, hs.flowList, fun steps => ?_⟩
  obtain ⟨life, hiff⟩ := (hs.life.after hs steps).start hs
  rw [← sessions, ← sessions_concat] at life hiff
  have hrunning : (sessions (steps ++ [.start])).running = true := by
    rw [sessions_concat]
    by_cases hr : (sessions steps).running = true
    · rwa [Sessions.step_start_of_running hr]
    · rw [Sessions.step_start_of_stopped hr]
  -- After a start a session is being held, so at least one was begun.
  have hpos : (sessions (steps ++ [.start])).begun ≠ 0 := fun h0 => by
    cases (life.new h0).1.symm.trans hrunning
  have hone : CanBegin host rules flows (sessions (steps ++ [.start])).begun ↔
      (sessions (steps ++ [.start])).begun = 1 ∨ Unnamed host rules flows :=
    or_congr_left ⟨fun hle => by omega, fun he => by omega⟩
  refine ⟨?_, fun g' hg => ?_⟩
  · rw [← hone, ← hiff]
    exact ⟨fun ⟨g', hg⟩ => congrArg Prod.fst hg, fun hok => ⟨_, Prod.ext hok rfl⟩⟩
  · rw [hg] at life hiff
    have hcan := hiff.1 rfl
    exact ⟨(life.on hrunning hcan).own, fun hspare => ((life.held hcan).rules hspare).1,
      fun hspare => ((life.held hcan).flows hspare).1⟩

/-- Settings with a rule and a flow that have no ids. -/
def Settings.anonymous : Settings :=
  .configured [typedRule none "Motion" "motion"] [flowOf none "steps" [firingStep]]

/-- A hub assembled from settings that it can take in starts. -/
theorem start_assembledFrom {settings : Settings} (fresh : (Hub.assembledFrom settings).Fresh)
    (hok : (outcome (configure .deaf (Hub.assembledFrom settings).settings)
      (Hub.assembledFrom settings).atIntake).1.isOk = true) :
    ∃ h', outcome (start .deaf) (Hub.assembledFrom settings) = (.ok (), h') :=
  ⟨_, outcome_of_isOk ((isOk_start fresh.calm fresh.unready).trans hok)⟩

theorem restarts_anonymous : ∃ h' g', (Hub.assembledFrom .anonymous).Fresh ∧
    outcome (start .deaf) (Hub.assembledFrom .anonymous) = (.ok (), h') ∧
    outcome (start .deaf)
      ((Hub.assembledFrom .anonymous).after .deaf [.start, .shutdown]) = (.ok (), g') ∧
    g'.bus.subscriptions.entries.length = 3 ∧ g'.engine.book.rules.length = 2 := by
  have fresh : (Hub.assembledFrom .anonymous).Fresh := fresh_assembledFrom (by decide +kernel)
  obtain ⟨h', hs⟩ := start_assembledFrom fresh (by decide +kernel)
  obtain ⟨rules, flows, hr, hf, hsteps⟩ := fresh.restarts ⟨h', hs⟩
  obtain ⟨hiff, hafter⟩ := hsteps [.start, .shutdown]
  obtain rfl : [.ofRuleValue (typedRule none "Motion" "motion")] = rules := Except.ok.inj hr
  obtain rfl : [.ofFlowValue (flowOf none "steps" [firingStep])] = flows := Except.ok.inj hf
  have hunnamed : Unnamed .deaf [.ofRuleValue (typedRule none "Motion" "motion")]
      [.ofFlowValue (flowOf none "steps" [firingStep])] := by
    constructor
    · intro d hd
      rw [List.mem_singleton.1 hd]
      exact (Registry.rules_lawful .deaf).not_named "" (by decide +kernel)
    · intro d hd
      rw [List.mem_singleton.1 hd]
      exact (Registry.flows_lawful .deaf).not_named "" (by decide +kernel)
  obtain ⟨g', hg⟩ := hiff.2 (.inr hunnamed)
  obtain ⟨⟨k, hentries, -⟩, hrules, -⟩ := hafter g' hg
  refine ⟨h', g', fresh, hs, hg, ?_, ?_⟩
  · rw [hentries]
    rfl
  · exact (hrules (Registry.spares_of_unnamed hunnamed.rules)).made.length_eq.symm

/-- A configuration that names an id cannot be taken in twice: the hub starts, is shut down, and does not
start again. -/
theorem restart_refused : ∃ h : Hub Unit, h.Fresh ∧ (outcome (start .deaf) h).1 = .ok () ∧
    (outcome (start .deaf) (h.after .deaf [.start, .shutdown])).1 ≠ .ok () := by
  have fresh : (Hub.assembledFrom .identified).Fresh := fresh_assembledFrom (by decide +kernel)
  obtain ⟨h', hs⟩ := start_assembledFrom fresh (by decide +kernel)
  obtain ⟨rules, flows, hst⟩ := fresh.startable ⟨h', hs⟩
  obtain rfl : [.ofRuleValue (typedRule (some "r1") "Motion" "motion")] = rules :=
    Except.ok.inj hst.ruleList
  refine ⟨_, fresh, congrArg Prod.fst hs, fun hagain => ?_⟩
  obtain ⟨-, hiff⟩ := (hst.life.after hst [.start, .shutdown]).start hst
  rcases hiff.1 hagain with htwo | hu
  · exact absurd htwo (by decide)
  · have hmakes : ((Definition.ofRuleValue (typedRule (some "r1") "Motion" "motion")).toRule "").toOption.map
        (Registry.rules .deaf).id? = some (some "r1") := by decide +kernel
    obtain ⟨r, hm, hid⟩ := Registry.eq_ok_of_toOption hmakes
    exact hu.rules _ List.mem_cons_self ⟨"", r, "r1", hm, hid⟩

end EventHub
