import EventHub.Proofs.Frame.Actions
import EventHub.Rules.Engine

/-!
# Frames of the rule engine

* **Actions** (`within_runActions`): running the actions of a rule stays in every frame that is open to
  them, in which the actions of the application stay, and in which notifications are told.
* **Events** (`within_processEvent`): running the rules of an event stays in every such frame that is
  free, and in which runs of rules are told.
* **The registry** (`allows_registerRule`, `allows_updateRule`, `allows_deleteRule`): an operation
  stays in a frame that is open to actions and allows the one change of the book that it makes at the
  hub it runs on. An operation that fails changes no book.
-/

namespace EventHub

open EventHub.Task

variable {α : Type} {F : Frame α} {host : Host α}

@[simp]
theorem Task.outcome_inService (s : Service) (h : Hub α) : outcome (inService s) h =
    (match Assoc.get? h.outages s with
      | some notice => .error (.raised .runtime notice)
      | none => .ok (), h) := by
  unfold inService
  rw [outcome_bind, outcome_get]
  dsimp only
  cases Assoc.get? h.outages s <;> rfl

theorem Task.outcome_inService_ok {s : Service} {h : Hub α} (ho : h.outages = []) :
    outcome (inService s) h = (.ok (), h) := by
  rw [outcome_inService, ho]
  rfl

@[grind ←]
theorem within_engineOperation (name : String) : Within F (engineOperation (α := α) name) :=
  Within.inService _

/-- Making an event of what was given draws an id at most. -/
theorem normalizeEvent_hub (raw : Definition Event) (h : Hub α) :
    ∃ n, (outcome (normalizeEvent raw) h).2 = { h with serial := n } := by
  cases raw with
  | checked e => exact ⟨h.serial, rfl⟩
  | document v =>
    unfold normalizeEvent
    rw [outcome_bind, outcome_ofExcept]
    cases rawEventFields v with
    | error fault => exact ⟨h.serial, rfl⟩
    | ok fields =>
      dsimp only
      split
      · refine ⟨h.serial + 1, ?_⟩
        rw [outcome_bind_ok (t := Task.freshId "event") rfl, outcome_ofExcept]
      · exact ⟨h.serial, by rw [outcome_bind_ok (outcome_pure _ _), outcome_ofExcept]⟩

section Actions

variable (hF : F.OpenToActions) (ha : host.ActsWithin F)
  (hn : host.ReportsWithin F Topic.notification)
include hF

@[grind ←]
theorem within_normalizeEvent (raw : Definition Event) :
    Within F (normalizeEvent (α := α) raw) := fun h => by
  obtain ⟨n, hn⟩ := normalizeEvent_hub raw h
  rw [hn]
  exact hF.serial h n

@[grind ←]
theorem within_actionFault (actionType : String) (fault : Fault) :
    Within F (actionFault (α := α) actionType fault) := by
  unfold actionFault
  grind

/-- A notice of the engine goes through its outlet. -/
@[grind ←]
theorem within_engineNotice {topic : String} (ht : host.ReportsWithin F topic) {n : Notice}
    (hne : n.events = []) : Within F (engineNotice host topic n) :=
  Within.bind Within.get fun _ => within_emit hF ht _ hne

include ha hn

@[grind ←]
theorem within_runEngineHandler (handler : EngineHandler) (params : Fields) (ctx : Context) :
    Within F (runEngineHandler host handler params ctx) := by
  cases handler with
  | function name => exact Within.bind (ha name _ ctx) fun _ => Within.pure _
  | shared actionType =>
    exact Within.bind Within.get fun _ => within_executeCall hF ha hn _ _ _

@[grind ←]
theorem within_runAction (call : ActionInvocation) (ctx : Context) :
    Within F (runAction host call ctx) := by
  refine Within.bind Within.get fun h => ?_
  split
  · exact Within.bind (Within.log hF _ _ _) fun _ => Within.pure _
  · refine Within.bind (Within.attempt (within_runEngineHandler hF ha hn _ _ _)) fun r => ?_
    grind

@[grind ←]
theorem within_runActions (ctx : Context) (calls : List ActionInvocation) :
    Within F (runActions host ctx calls) := by
  induction calls with
  | nil => exact Within.pure _
  | cons call rest ih =>
    refine Within.bind (within_runAction hF ha hn _ _) fun _ => ?_
    exact Within.bind ih fun _ => Within.pure _

end Actions

section Events

variable (hF : F.Free) (ha : host.ActsWithin F) (hn : host.ReportsWithin F Topic.notification)
include hF

/-- Changes of the engine that leave its rules, its actions and its outlet. -/
theorem within_modifyEngine {f : Engine → Engine} (hf : ∀ e : Engine,
    ∃ rulesRun actionsRun errors lastRun,
      f e = { e with rulesRun, actionsRun, errors, lastRun }) : Within F (modifyEngine (α := α) f) :=
  Within.change fun h => by
    obtain ⟨a, b, c, d, he⟩ := hf h.engine
    rw [he]
    exact hF.engineCounters h a b c d

@[grind ←]
theorem within_matchingAmong (e : Event) (rules : List Rule) :
    Within F (matchingAmong host e rules) := by
  induction rules with
  | nil => exact Within.pure _
  | cons r rest ih =>
    have hm : Within F (modifyEngine (α := α) fun s => { s with errors := s.errors + 1 }) :=
      within_modifyEngine hF fun e => ⟨_, _, _, _, rfl⟩
    unfold matchingAmong
    grind

@[grind ←]
theorem within_matchingRules (e : Event) : Within F (matchingRules host e) :=
  Within.bind Within.get fun _ => within_matchingAmong hF e _

variable (hr : host.ReportsWithin F Topic.ruleExecuted)
include ha hn hr

@[grind ←]
theorem within_executeRule (r : Rule) (e : Event) (ctx : Option Context) :
    Within F (executeRule host r e ctx) := by
  refine Within.bind (within_engineOperation _) fun _ => ?_
  refine Within.bind Within.now fun _ => ?_
  refine Within.bind Within.get fun _ => ?_
  refine Within.bind (within_runActions hF ha hn _ _) fun outcomes => ?_
  refine Within.bind (within_modifyEngine hF fun e => ⟨_, _, _, _, rfl⟩) fun _ => ?_
  grind

@[grind ←]
theorem within_executeAll (e : Event) (ctx : Option Context) (rules : List Rule) :
    Within F (executeAll host e ctx rules) := by
  induction rules with
  | nil => exact Within.pure _
  | cons r rest ih =>
    refine Within.bind (within_executeRule hF ha hn hr r e ctx) fun _ => ?_
    exact Within.bind ih fun _ => Within.pure _

@[grind ←]
theorem within_processEvent (raw : Definition Event) (ctx : Option Context) :
    Within F (processEvent host raw ctx) := by
  refine Within.bind (within_engineOperation _) fun _ => ?_
  refine Within.bind (within_normalizeEvent hF raw) fun e => ?_
  exact Within.bind (within_matchingRules hF e) fun _ => within_executeAll hF ha hn hr e ctx _

end Events

/-! ## The registry -/

/-- The hub with another book of rules. -/
def Hub.withRules (h : Hub α) (book : RuleBook) : Hub α :=
  { h with engine := { h.engine with book } }

/-- The id that registering the rule draws at the hub; a rule with an id draws none. -/
def Hub.drawnRuleId (h : Hub α) (r : Rule) : String :=
  if RuleBook.needsId r then s!"rule-{Task.idDigits (h.serial + 1)}" else ""

/-- The hub after the id was drawn. -/
def Hub.afterDraw (h : Hub α) (r : Rule) : Hub α :=
  if RuleBook.needsId r then { h with serial := h.serial + 1 } else h

section Registry

variable (hF : F.OpenToActions) {h : Hub α}

/-- An operation of the engine is in order, or it fails and changes nothing. -/
theorem engineOperation_cases (name : String) (h : Hub α) :
    outcome (engineOperation name) h = (.ok (), h) ∨
      ∃ fault, outcome (engineOperation name) h = (.error fault, h) := by
  unfold engineOperation
  rw [outcome_inService]
  cases Assoc.get? h.outages (.engine name) with
  | none => exact .inl rfl
  | some notice => exact .inr ⟨_, rfl⟩

/-- Registering a rule goes on with the id that it draws. -/
theorem outcome_drawRuleId_bind {β : Type} (r : Rule) (k : String → Task α β) (h : Hub α) :
    outcome (if RuleBook.needsId r then freshId "rule" >>= k else pure "" >>= k) h =
      outcome (k (h.drawnRuleId r)) (h.afterDraw r) := by
  unfold Hub.drawnRuleId Hub.afterDraw
  split <;> rfl

theorem afterDraw_engine (r : Rule) (h : Hub α) : (h.afterDraw r).engine = h.engine := by
  unfold Hub.afterDraw
  split <;> rfl

include hF

theorem allows_afterDraw (r : Rule) : F.allows h (h.afterDraw r) := by
  unfold Hub.afterDraw
  split
  · exact hF.serial h _
  · exact F.refl h

/-- After the book was changed, an operation logs and tells it. -/
theorem within_logThenTell {topic : String} (ht : host.ReportsWithin F topic) (text : String)
    {n : Notice} (hne : n.events = []) {β : Type} (b : β) : Within F (do
      Task.log .info enginePart text
      engineNotice host topic n
      return b) := by
  refine Within.bind (Within.log hF _ _ _) fun _ => ?_
  exact Within.bind (within_engineNotice hF ht hne) fun _ => Within.pure b

theorem allows_registerRule (ht : host.ReportsWithin F Topic.ruleRegistered) {d : Definition Rule}
    (hb : ∀ r id r' book, d.toRule h.now.text = .ok r →
      h.engine.book.register h.now.text (h.drawnRuleId r) r = .ok (id, r', book) →
      F.allows (h.afterDraw r) ((h.afterDraw r).withRules book)) :
    F.allows h (outcome (registerRule host d) h).2 := by
  unfold registerRule
  obtain ho | ⟨fault, ho⟩ := engineOperation_cases "register_rule" h
  case inr =>
    rw [outcome_bind_error ho]
    exact F.refl h
  rw [outcome_bind_ok ho, outcome_bind_ok (outcome_now h), outcome_bind, outcome_ofExcept]
  cases hd : d.toRule h.now.text with
  | error fault => exact F.refl h
  | ok r =>
  dsimp only
  rw [outcome_drawRuleId_bind, outcome_bind_ok (outcome_get _), afterDraw_engine, outcome_bind,
    outcome_ofExcept]
  cases hr : h.engine.book.register h.now.text (h.drawnRuleId r) r with
  | error fault => exact allows_afterDraw hF r
  | ok made =>
    obtain ⟨id, r', book⟩ := made
    dsimp only
    rw [modifyEngine, outcome_bind_ok (outcome_modify _ _)]
    refine F.trans (allows_afterDraw hF r) (F.trans (hb r id r' book hd hr) ?_)
    exact within_logThenTell hF ht _ rfl id _

theorem allows_updateRule (ht : host.ReportsWithin F Topic.ruleUpdated) {id : String}
    {updates : Value}
    (hb : ∀ r book, h.engine.book.update h.now.text id updates = .ok (r, book) →
      F.allows h (h.withRules book)) :
    F.allows h (outcome (updateRule host id updates) h).2 := by
  unfold updateRule
  obtain ho | ⟨fault, ho⟩ := engineOperation_cases "update_rule" h
  case inr =>
    rw [outcome_bind_error ho]
    exact F.refl h
  rw [outcome_bind_ok ho, outcome_bind_ok (outcome_now h), outcome_bind_ok (outcome_get h), outcome_bind,
    outcome_ofExcept]
  cases hu : h.engine.book.update h.now.text id updates with
  | error fault => exact F.refl h
  | ok made =>
    obtain ⟨r, book⟩ := made
    dsimp only
    rw [modifyEngine, outcome_bind_ok (outcome_modify _ _)]
    exact F.trans (hb r book hu) (within_logThenTell hF ht _ rfl r _)

theorem allows_deleteRule (ht : host.ReportsWithin F Topic.ruleRemoved) {id : String}
    (hb : ∀ r book, h.engine.book.remove id = .ok (r, book) → F.allows h (h.withRules book)) :
    F.allows h (outcome (deleteRule host id) h).2 := by
  unfold deleteRule
  obtain ho | ⟨fault, ho⟩ := engineOperation_cases "delete_rule" h
  case inr =>
    rw [outcome_bind_error ho]
    exact F.refl h
  rw [outcome_bind_ok ho, outcome_bind_ok (outcome_get h), outcome_bind, outcome_ofExcept]
  cases hu : h.engine.book.remove id with
  | error fault => exact F.refl h
  | ok made =>
    obtain ⟨r, book⟩ := made
    dsimp only
    rw [modifyEngine, outcome_bind_ok (outcome_modify _ _)]
    refine F.trans (hb r book hu) ?_
    exact Within.bind (Within.log hF _ _ _) (fun _ => within_engineNotice hF ht rfl) _

theorem allows_setRuleEnabled (ht : host.ReportsWithin F Topic.ruleUpdated) {id : String}
    {enabled : Value}
    (hb : ∀ r book, h.engine.book.update h.now.text id
        (.map [("metadata", .map [("enabled", enabled)])]) = .ok (r, book) →
      F.allows h (h.withRules book)) :
    F.allows h (outcome (setRuleEnabled host id enabled) h).2 := by
  unfold setRuleEnabled
  obtain ho | ⟨fault, ho⟩ := engineOperation_cases "set_rule_enabled" h
  case inr =>
    rw [outcome_bind_error ho]
    exact F.refl h
  rw [outcome_bind_ok ho]
  exact allows_updateRule hF ht hb

end Registry

end EventHub
