import EventHub.Proofs.Rules.Execution
import EventHub.Proofs.Rules.Registry

/-!
# The rules that an event runs

The index is a shortcut: the rules that it leads to are those that a plain scan of all stored rules
selects.

* **The scan** (`RuleBook.scan`): the enabled rules that match, in the order of registration. Rules
  whose conditions fail are counted apart (`RuleBook.failing`).
* **The index** (`RuleBook.Covered.filter_candidates`): a rule that the index does not find for an
  event does not match it, and does not fail on it: its types are judged first.
* **Events** (`outcome_matching`, `outcome_processEvent`, `RegistryRun.processEvent_scan`): the engine
  runs the rules of the scan, each once, and counts one error for each rule whose condition fails.
-/

namespace EventHub

open EventHub.Task

variable {α : Type} {host : Host α}

/-! ## The scan -/

/-- Does the condition of the rule hold of the event? A condition that fails does not. -/
def Rule.selects (ask : String → Value → Except Fault Value) (e : Event) (r : Rule) : Bool :=
  match matchesEvent ask r.conditions e with
  | .ok holds => holds
  | .error _ => false

/-- Does the condition of the rule fail on the event? -/
def Rule.failsOn (ask : String → Value → Except Fault Value) (e : Event) (r : Rule) : Bool :=
  match matchesEvent ask r.conditions e with
  | .ok _ => false
  | .error _ => true

namespace RuleBook

/-- The enabled rules that match the event, in the order of registration. -/
def scan (ask : String → Value → Except Fault Value) (e : Event) (b : RuleBook) : List Rule :=
  (Assoc.values b.rules).filter fun r => r.metadata.enabled && r.selects ask e

/-- The rules that the engine runs for the event: those of the candidates that match. -/
def matching (ask : String → Value → Except Fault Value) (e : Event) (b : RuleBook) : List Rule :=
  (b.candidates e.type).filter (·.selects ask e)

/-- The enabled rules whose conditions fail on the event. -/
def failing (ask : String → Value → Except Fault Value) (e : Event) (b : RuleBook) : List Rule :=
  (Assoc.values b.rules).filter fun r => r.metadata.enabled && r.failsOn ask e

end RuleBook

/-! ## The index -/

/-- The types are judged before anything that can fail: a rule that is not indexed under the type
of the event or under `*` does not match. -/
theorem Rule.mem_indexTypes_of_matchesEvent {ask : String → Value → Except Fault Value} {r : Rule}
    {e : Event} (h : matchesEvent ask r.conditions e ≠ .ok false) :
    e.type ∈ r.indexTypes ∨ anyEventType ∈ r.indexTypes := by
  simp only [Rule.mem_indexTypes]
  cases hc : r.conditions with
  | none => exact .inr (.inr ⟨trivial, by simp [Rule.eventTypes, hc]⟩)
  | some c =>
    have hr : r.eventTypes = c.eventTypes := by simp [Rule.eventTypes, hc]
    rw [hc] at h
    by_cases hn : amongNames c.eventTypes e.type = true
    · unfold amongNames at hn
      rw [hr]
      cases ht : c.eventTypes with
      | nil => exact .inr (.inr ⟨trivial, rfl⟩)
      | cons t rest =>
        rw [ht] at hn
        exact .inl (.inl (List.contains_iff_mem.1 (by simpa using hn)))
    · refine absurd ?_ h
      simp [matchesEvent, RuleConditions.matchesEvent, hn]

variable {ask : String → Value → Except Fault Value} {b : RuleBook}

/-- What holds only of rules that match or fail holds of the same rules, in the same order, whether
they are looked for among all stored rules or among those that the index finds. -/
theorem RuleBook.Covered.filter_candidates (hb : b.Covered) (e : Event) {q : Rule → Bool}
    (hq : ∀ r, q r → matchesEvent ask r.conditions e ≠ .ok false) :
    (b.candidates e.type).filter q =
      (Assoc.values b.rules).filter fun r => r.metadata.enabled && q r := by
  unfold RuleBook.candidates Assoc.values
  rw [List.filter_map, List.filter_map, List.filter_filter]
  congr 1
  refine List.filter_congr fun ⟨id, r⟩ hmem => ?_
  cases hqr : q r with
  | false => simp [hqr]
  | true =>
    have hids : id ∈ b.indexed e.type ∨ id ∈ b.indexed anyEventType :=
      (Rule.mem_indexTypes_of_matchesEvent (hq r hqr)).imp (hb id r hmem _) (hb id r hmem _)
    simpa [hqr] using fun _ => hids

theorem RuleBook.Covered.matching_eq (hb : b.Covered) (e : Event) :
    b.matching ask e = b.scan ask e :=
  hb.filter_candidates e fun r hr (hm : matchesEvent ask r.conditions e = .ok false) => by
    simp [Rule.selects, hm] at hr

theorem RuleBook.Sound.scan_eq (hb : b.Sound) (e : Event) :
    b.matching ask e = b.scan ask e :=
  (hb.toKeyed.covered hb.indexed).matching_eq e

theorem RuleBook.Covered.failing_eq (hb : b.Covered) (e : Event) :
    (b.candidates e.type).filter (·.failsOn ask e) = b.failing ask e :=
  hb.filter_candidates e
    fun r hr (hm : matchesEvent ask r.conditions e = .ok false) => by simp [Rule.failsOn, hm] at hr

theorem RuleBook.Sound.failing_eq (hb : b.Sound) (e : Event) :
    (b.candidates e.type).filter (·.failsOn ask e) = b.failing ask e :=
  (hb.toKeyed.covered hb.indexed).failing_eq e

/-- A scan meets every rule once. -/
theorem RuleBook.Keyed.nodup_scan (hb : b.Keyed) (e : Event) :
    ((b.scan ask e).map (·.id)).Nodup := hb.nodup_filter _

/-! ## Events -/

/-- The hub after the conditions of some rules failed: the faults are counted and logged. -/
def Hub.afterFailures (h : Hub α) (count : Nat) (lines : List LogLine) : Hub α :=
  { h with engine := { h.engine with errors := h.engine.errors + count }, log := lines }

theorem outcome_matchingAmong (e : Event) (rules : List Rule) (h : Hub α) :
    ∃ lines, outcome (matchingAmong host e rules) h =
      (.ok (rules.filter (·.selects host.app.ask e)),
        h.afterFailures (rules.filter (·.failsOn host.app.ask e)).length lines) := by
  induction rules generalizing h with
  | nil => exact ⟨h.log, rfl⟩
  | cons r rest ih =>
    unfold matchingAmong
    cases hm : matchesEvent host.app.ask r.conditions e with
    | ok holds =>
      cases holds with
      | true =>
        obtain ⟨lines, hr⟩ := ih h
        refine ⟨lines, ?_⟩
        rw [outcome_bind_ok hr]
        simp [Rule.selects, Rule.failsOn, hm]
      | false =>
        obtain ⟨lines, hr⟩ := ih h
        refine ⟨lines, ?_⟩
        simp [Rule.selects, Rule.failsOn, hm, hr]
    -- A rule that fails is counted and logged before the others are asked.
    | error fault =>
      obtain ⟨lines, hr⟩ := ih (h.afterFailures 1 (⟨.error, enginePart, faultText
        "Rule condition failed" [("rule_id", .ofText? r.id), ("event_id", .text e.id)]
        fault.message⟩ :: h.log))
      refine ⟨lines, ?_⟩
      dsimp only
      rw [modifyEngine, outcome_bind_ok (outcome_modify _ h), Task.logFault,
        outcome_bind_ok (outcome_log rfl _ _ _)]
      refine hr.trans ?_
      simp [Rule.selects, Rule.failsOn, hm, Hub.afterFailures, Nat.add_assoc, Nat.add_comm 1]

variable (host) in
/-- The engine judges the candidates. A condition that fails takes only its own rule out, and counts
one error. -/
theorem outcome_matching (e : Event) (h : Hub α) :
    ∃ lines, outcome (matchingRules host e) h =
      (.ok (h.engine.book.matching host.app.ask e), h.afterFailures
        ((h.engine.book.candidates e.type).filter (·.failsOn host.app.ask e)).length lines) := by
  unfold matchingRules
  rw [outcome_bind_ok (outcome_get h)]
  exact outcome_matchingAmong e _ h

/-- The host runs rules in order: its functions and receivers take nothing out of order. -/
structure Host.KeepsOrder (host : Host α) : Prop where
  acts : host.ActsWithin .inOrder
  receives : ∀ s n, Within .inOrder (host.receive s n)

theorem Application.keepsOrder {app : Application α} (happ : app.StaysWithin .inOrder) :
    app.host.KeepsOrder := by
  have hs := within_receive Frame.inOrder_openToHub happ receptionDepth
  exact ⟨happ.act _ hs, hs⟩

/-- Where the index covers the rules, a valid event runs those of the scan, one after the other and each
once, after those whose conditions fail were counted. -/
theorem outcome_processEvent (hk : host.KeepsOrder) {h h₁ : Hub α} {raw : Definition Event}
    {e : Event} (ho : h.outages = []) (hb : h.engine.book.Covered)
    (hn : outcome (normalizeEvent raw) h = (.ok e, h₁)) (ctx : Option Context) :
    ∃ lines runs h₂, outcome (processEvent host raw ctx) h = (.ok runs, h₂) ∧
      RulesEnd host e ctx (h.engine.book.scan host.app.ask e)
        (h₁.afterFailures (h.engine.book.failing host.app.ask e).length lines) runs h₂ := by
  obtain ⟨serial, hserial⟩ := normalizeEvent_hub raw h
  obtain rfl : h₁ = { h with serial } := by rw [← hserial, hn]
  obtain ⟨lines, hmatch⟩ := outcome_matching host e { h with serial }
  rw [hb.matching_eq, hb.failing_eq] at hmatch
  have ht := Host.TellsWithin.of_receive Frame.inOrder_free.openToActions.openToTraces hk.receives
  obtain ⟨runs, h₂, hends, -⟩ := executeAll_keeps (fun _ => id) Frame.inOrder_free hk.acts ht e ctx
    (h.engine.book.scan host.app.ask e)
    (h := Hub.afterFailures { h with serial } (h.engine.book.failing host.app.ask e).length lines) ho
  exact ⟨lines, runs, h₂, (outcome_processEvent_eq ho hn hmatch ctx).trans hends.outcome_eq, hends⟩

theorem RuleRun.ids_of_isOf {e : Event} {rules : List Rule} {runs : List RuleRun}
    (h : List.Forall₂ (RuleRun.IsOf e) rules runs) :
    runs.map (·.ruleId) = rules.map (·.id.getD "") := by
  induction h with
  | nil => rfl
  | cons hone _ ih => rw [List.map_cons, List.map_cons, ih, hone.rule]

/-- After any calls of the registry, an event runs exactly the rules that a plain scan of all stored
rules selects: the enabled ones that match, in the order of registration, each once, with an outcome
for each of their actions. Before they run, one error is counted for each enabled rule whose
condition fails, and nothing else of the engine has changed. -/
theorem RegistryRun.processEvent_scan {h h₁ : Hub α} {raw : Definition Event} {e : Event}
    (hs : host.EditsWithin .unused) (hr : RegistryRun host .unused h)
    (ho : h.outages = []) (ha : host.ActsWithin .inOrder)
    (hi : ∀ s n, Within .inOrder (host.receive s n))
    (hn : outcome (normalizeEvent raw) h = (.ok e, h₁)) (ctx : Option Context) :
    ∃ lines runs h₃,
      let selected := h.engine.book.scan host.app.ask e
      let h₂ := h₁.afterFailures (h.engine.book.failing host.app.ask e).length lines
      h₁.engine = h.engine ∧
      outcome (matchingRules host e) h₁ = (.ok selected, h₂) ∧
      outcome (executeAll host e ctx selected) h₂ = (.ok runs, h₃) ∧
      outcome (processEvent host raw ctx) h = (.ok runs, h₃) ∧
      List.Forall₂ (RuleRun.IsOf e) selected runs ∧
      (selected.map (·.id)).Nodup := by
  have hb := hr.sound hs
  obtain ⟨serial, hserial⟩ := normalizeEvent_hub raw h
  have h₁eq : h₁ = { h with serial } := by rw [← hserial, hn]
  have hengine : h₁.engine = h.engine := by rw [h₁eq]
  have hout : h₁.outages = [] := by rw [h₁eq]; exact ho
  obtain ⟨lines, hmatch⟩ := outcome_matching host e h₁
  rw [hengine, hb.scan_eq, hb.failing_eq] at hmatch
  obtain ⟨runs, h₃, hall, hruns⟩ := executeAll_ok ha hi e ctx
    (h.engine.book.scan host.app.ask e)
    (h := h₁.afterFailures (h.engine.book.failing host.app.ask e).length lines) hout
  refine ⟨lines, runs, h₃, hengine, hmatch, hall, ?_, hruns, hb.nodup_scan e⟩
  unfold processEvent
  rw [outcome_bind_ok (outcome_engineOperation_ok ho), outcome_bind_ok hn, outcome_bind_ok hmatch]
  exact hall

/-- An application with one function, which fails. -/
def Application.failing : Application Unit :=
  { Application.silent with ask := fun name _ => .error (.raised .runtime name) }

/-- A rule of an id with conditions and metadata, which logs. -/
def loggingRule (id : String) (conditions metadata : Fields) : Value :=
  .map [("id", .text id), ("name", .text id), ("conditions", .map conditions),
    ("actions", .list [.map [("type", .text "log_event")]]), ("metadata", .map metadata)]

/-- A rule for every event, one for the type `*` whose condition fails, one for another type, and
one that is disabled. -/
def fourRules : List (Definition Rule) :=
  [.document (loggingRule "every" [] []),
   .document (loggingRule "star" [("event_type", .text "*"), ("custom", .function "broken")] []),
   .document (loggingRule "other" [("event_type", .text "a")] []),
   .document (loggingRule "off" [] [("enabled", .bool false)])]

/-- The hub after the four rules were loaded. -/
def Hub.withFourRules : Hub Unit :=
  (outcome ((RegistryCall.load fourRules).run Application.failing.host) (Hub.atMidnight ())).2

/-- An event of the type `*`. -/
def starEvent : Event := ⟨"e1", "*", "probe", "2024-01-01T00:00:00", [], []⟩

theorem RegistryRun.withFourRules :
    RegistryRun Application.failing.host .unused Hub.withFourRules := by
  have heeds {id : String} {conditions metadata : Fields} (h : Hub Unit) :
      IdPolicy.unused.HeededBy (.document (loggingRule id conditions metadata)) h := fun r hr => by
    have hid : r.id = some id := Definition.id_of_toRule rfl hr
    exact ⟨fun _ _ => trivial, fun hn => by simp [hid] at hn⟩
  refine .call _ (.start rfl) ?_
  exact ⟨heeds _, fun _ h₁ _ => ⟨heeds h₁, fun _ h₂ _ => ⟨heeds h₂, fun _ h₃ _ =>
    ⟨heeds h₃, fun _ _ _ => trivial⟩⟩⟩⟩

theorem Application.failing_staysWithin (F : Frame Unit) : Application.failing.StaysWithin F :=
  ⟨(Application.silent_staysWithin F).act, (Application.silent_staysWithin F).serve⟩

theorem RegistryRun.processEvent_scan_withFourRules :
    (Hub.withFourRules.engine.book.scan Application.failing.ask starEvent).map (·.id) =
      [some "every"] ∧
    (Hub.withFourRules.engine.book.failing Application.failing.ask starEvent).map (·.id) =
      [some "star"] ∧
    ∃ runs h₃, outcome (processEvent Application.failing.host (.checked starEvent) none)
        Hub.withFourRules = (.ok runs, h₃) ∧
      List.Forall₂ (RuleRun.IsOf starEvent)
        (Hub.withFourRules.engine.book.scan Application.failing.ask starEvent) runs := by
  have hr := within_receive Frame.inOrder_openToHub (Application.failing_staysWithin .inOrder)
    receptionDepth
  have hn : outcome (normalizeEvent (.checked starEvent)) Hub.withFourRules =
    (.ok starEvent, Hub.withFourRules) := rfl
  obtain ⟨_, runs, h₃, -, -, -, hrun, hruns, -⟩ := RegistryRun.processEvent_scan
    (Application.editsWithin (fun _ => trivial) (Application.failing_staysWithin _))
    RegistryRun.withFourRules (by decide +kernel)
    ((Application.failing_staysWithin _).act _ hr) hr hn none
  exact ⟨by decide +kernel, by decide +kernel, runs, h₃, hrun, hruns⟩

end EventHub
