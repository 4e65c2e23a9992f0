import EventHub.Proofs.Hub.Refusal
import EventHub.Proofs.Rules.Reload

/-!
# Registering rules and flows

A record that is registered under an id that is not in use is appended to those that are stored, which
stay in their places. Ids that definitions give are looked up first. Ids that are drawn for definitions
without one are not: where such an id is in use, the record that has it is replaced.

* **The books** (`RuleBook.register_of_free`, `FlowBook.register_of_free`): what the books take.
* **Success** (`registerRule_eq_ok`, `createFlow_eq_ok`): one change of a book, which is logged and told.
* `registration_appends`: a registration appends one record or, when it is refused, changes nothing.
-/

namespace EventHub

open EventHub.Task

variable {α : Type} {host : Host α} {h h' : Hub α}

/-! ## The books -/

/-- The rule as it is stored at a time under an id. -/
def Rule.storedAt (r : Rule) (now id : String) : Rule := { r.timedAt now with id := some id }

/-- The flow as it is stored at a time under an id. -/
def Flow.storedAt (f : Flow) (now id : String) : Flow :=
  { f with id := some id, metadata := { f.metadata with createdAt := now, updatedAt := now } }

/-- A book takes a rule whose id is not in use. -/
theorem RuleBook.register_of_free {b : RuleBook} {r : Rule}
    (hr : ∀ id, r.id = some id → b.get? id = none) (now fresh : String) :
    let id := r.id.getD fresh
    b.register now fresh r = .ok (id, r.storedAt now id, b.insert id (r.storedAt now id)) := by
  cases hid : r.id with
  | none => simp [register, Rule.storedAt, Rule.timedAt, hid]
  | some id =>
    have hfree : Assoc.has b.rules id = false := by
      rw [Assoc.has, ← get?, hr id hid]
      rfl
    simp [register, Rule.storedAt, Rule.timedAt, hid, hfree]

/-- A book takes no rule whose id is in use. -/
theorem RuleBook.register_of_used {b : RuleBook} {r : Rule} {id : String} (hid : r.id = some id)
    (hused : b.get? id ≠ none) (now fresh : String) :
    b.register now fresh r = .error (.definition (.ruleExists id)) := by
  have hhas : Assoc.has b.rules id = true := Option.isSome_iff_ne_none.2 hused
  simp [register, hid, hhas]

/-- A book takes a flow whose id is not in use. -/
theorem FlowBook.register_of_free {b : FlowBook} {f : Flow}
    (hf : ∀ id, f.id = some id → Assoc.get? b id = none) (now fresh : String) :
    let id := f.id.getD fresh
    b.register now fresh f = .ok (id, f.storedAt now id, Assoc.put b id (f.storedAt now id)) := by
  cases hid : f.id with
  | none => simp [register, Flow.storedAt, hid]
  | some id =>
    have hfree : Assoc.has b id = false := by
      rw [Assoc.has, hf id hid]
      rfl
    simp [register, Flow.storedAt, hid, hfree]

/-- A book takes no flow whose id is in use. -/
theorem FlowBook.register_of_used {b : FlowBook} {f : Flow} {id : String} (hid : f.id = some id)
    (hused : Assoc.get? b id ≠ none) (now fresh : String) :
    b.register now fresh f = .error (.definition (.flowExists id)) := by
  have hhas : Assoc.has b id = true := Option.isSome_iff_ne_none.2 hused
  simp [register, hid, hhas]

theorem FlowBook.register_eq_ok {b b' : FlowBook} {now fresh id : String} {f f' : Flow}
    (done : b.register now fresh f = .ok (id, f', b')) :
    f' = f.storedAt now id ∧ b' = Assoc.put b id f' ∧
      (f.id = none ∧ id = fresh ∨ f.id = some id ∧ Assoc.get? b id = none) := by
  unfold register at done
  dsimp only at done
  cases hid : f.id with
  | none =>
    rw [hid] at done
    cases done
    exact ⟨rfl, rfl, .inl ⟨rfl, rfl⟩⟩
  | some given =>
    simp only [hid] at done
    split at done
    · cases done
    · rename_i hk
      cases done
      exact ⟨rfl, rfl, .inr ⟨rfl, by simpa [Assoc.has] using hk⟩⟩

/-! ## Flows -/

/-- The hub with another book of flows. -/
def Hub.withFlowBook (h : Hub α) (book : FlowBook) : Hub α :=
  { h with flows := { h.flows with book } }

/-- The id that creating the flow draws at the hub; a flow with an id draws none. -/
def Hub.drawnFlowId (h : Hub α) (f : Flow) : String :=
  if f.id.isNone then s!"flow-{Task.idDigits (h.serial + 1)}" else ""

/-- The hub after the id was drawn. -/
def Hub.afterFlowDraw (h : Hub α) (f : Flow) : Hub α :=
  if f.id.isNone then { h with serial := h.serial + 1 } else h

theorem afterFlowDraw_flows (f : Flow) (h : Hub α) : (h.afterFlowDraw f).flows = h.flows := by
  unfold Hub.afterFlowDraw
  split <;> rfl

theorem outcome_drawFlowId_bind {β : Type} (f : Flow) (k : String → Task α β) (h : Hub α) :
    outcome (if f.id.isNone then freshId "flow" >>= k else pure "" >>= k) h =
      outcome (k (h.drawnFlowId f)) (h.afterFlowDraw f) := by
  unfold Hub.drawnFlowId Hub.afterFlowDraw
  split <;> rfl

variable (host) in
/-- After the definition of a flow was checked, the book decides. -/
theorem outcome_createFlow_of_toFlow {d : Definition Flow} {f : Flow}
    (hd : d.toFlow h.now.text = .ok f) : outcome (createFlow host d) h =
      match h.flows.book.register h.now.text (h.drawnFlowId f) f with
      | .error fault => (.error fault, h.afterFlowDraw f)
      | .ok (id, f', book) => (.ok id, (outcome (announce host Topic.flowCreated (.flow f'))
          { (h.afterFlowDraw f).withFlowBook book with
            log := ⟨.info, flowPart, "Flow created: " ++ f'.title⟩ :: (h.afterFlowDraw f).log }).2) := by
  unfold createFlow
  rw [outcome_bind_ok (outcome_now h), outcome_bind, outcome_ofExcept, hd]
  dsimp only
  rw [outcome_drawFlowId_bind, outcome_bind_ok (outcome_get _), afterFlowDraw_flows, outcome_bind,
    outcome_ofExcept]
  cases h.flows.book.register h.now.text (h.drawnFlowId f) f with
  | error fault => rfl
  | ok made =>
    obtain ⟨id, f', book⟩ := made
    dsimp only
    rw [modifyFlows, outcome_bind_ok (outcome_modify _ _), outcome_bind_ok (outcome_log rfl _ _ _),
      outcome_bind_ok (outcome_announce_ok _ _ _)]
    rfl

/-! ## Rules -/

variable (host) in
/-- After the definition of a rule was checked, the book decides. -/
theorem outcome_registerRule_of_toRule {d : Definition Rule} {r : Rule}
    (ho : outcome (engineOperation "register_rule") h = (.ok (), h))
    (hd : d.toRule h.now.text = .ok r) : outcome (registerRule host d) h =
      match h.engine.book.register h.now.text (h.drawnRuleId r) r with
      | .error fault => (.error fault, h.afterDraw r)
      | .ok (id, r', book) => (.ok id, (outcome (engineNotice host Topic.ruleRegistered (.rule r'))
          { (h.afterDraw r).withRules book with
            log := ⟨.info, enginePart, "Rule registered: " ++ r'.title⟩ :: (h.afterDraw r).log }).2) := by
  unfold registerRule
  rw [outcome_bind_ok ho, outcome_bind_ok (outcome_now h), outcome_bind, outcome_ofExcept, hd]
  dsimp only
  rw [outcome_drawRuleId_bind, outcome_bind_ok (outcome_get _), afterDraw_engine, outcome_bind,
    outcome_ofExcept]
  cases h.engine.book.register h.now.text (h.drawnRuleId r) r with
  | error fault => rfl
  | ok made =>
    obtain ⟨id, r', book⟩ := made
    have hn (n : Notice) (g : Hub α) : outcome (engineNotice host Topic.ruleRegistered n) g =
        (.ok (), (outcome (engineNotice host Topic.ruleRegistered n) g).2) := by
      rw [outcome_engineNotice]
    dsimp only
    rw [modifyEngine, outcome_bind_ok (outcome_modify _ _), outcome_bind_ok (outcome_log rfl _ _ _),
      outcome_bind_ok (hn _ _)]
    rfl

/-! ## Success -/

/-- A rule that was registered was taken by the book, logged and told. -/
theorem registerRule_eq_ok {d : Definition Rule} {id : String}
    (hr : outcome (registerRule host d) h = (.ok id, h')) : ∃ r r' book lines,
      d.toRule h.now.text = .ok r ∧
      h.engine.book.register h.now.text (h.drawnRuleId r) r = .ok (id, r', book) ∧
      h' = (outcome (engineNotice host Topic.ruleRegistered (.rule r'))
        { (h.afterDraw r).withRules book with log := lines }).2 := by
  obtain ho | ⟨fault, ho⟩ := engineOperation_cases "register_rule" h
  case inr =>
    unfold registerRule at hr
    rw [outcome_bind_error ho] at hr
    cases hr
  cases hd : d.toRule h.now.text with
  | error fault =>
    unfold registerRule at hr
    rw [outcome_bind_ok ho, outcome_bind_ok (outcome_now h), outcome_bind, outcome_ofExcept, hd] at hr
    cases hr
  | ok r =>
    rw [outcome_registerRule_of_toRule host ho hd] at hr
    cases done : h.engine.book.register h.now.text (h.drawnRuleId r) r with
    | error fault =>
      rw [done] at hr
      cases hr
    | ok made =>
      obtain ⟨id', r', book⟩ := made
      rw [done] at hr
      cases hr
      exact ⟨r, r', book, _, rfl, done, rfl⟩

/-- A flow that was created was taken by the book, logged and told. -/
theorem createFlow_eq_ok {d : Definition Flow} {id : String}
    (hr : outcome (createFlow host d) h = (.ok id, h')) : ∃ f f' book lines,
      d.toFlow h.now.text = .ok f ∧
      h.flows.book.register h.now.text (h.drawnFlowId f) f = .ok (id, f', book) ∧
      h' = (outcome (announce host Topic.flowCreated (.flow f'))
        { (h.afterFlowDraw f).withFlowBook book with log := lines }).2 := by
  cases hd : d.toFlow h.now.text with
  | error fault =>
    unfold createFlow at hr
    rw [outcome_bind_ok (outcome_now h), outcome_bind, outcome_ofExcept, hd] at hr
    cases hr
  | ok f =>
    rw [outcome_createFlow_of_toFlow host hd] at hr
    cases done : h.flows.book.register h.now.text (h.drawnFlowId f) f with
    | error fault =>
      rw [done] at hr
      cases hr
    | ok made =>
      obtain ⟨id', f', book⟩ := made
      rw [done] at hr
      cases hr
      exact ⟨f, f', book, _, rfl, done, rfl⟩

/-! ## Registrations -/

theorem Hub.afterDraw_eq (h : Hub α) (r : Rule) : ∃ serial, h.afterDraw r = { h with serial } := by
  unfold Hub.afterDraw
  split
  · exact ⟨_, rfl⟩
  · exact ⟨h.serial, rfl⟩

theorem Hub.afterFlowDraw_eq (h : Hub α) (f : Flow) :
    ∃ serial, h.afterFlowDraw f = { h with serial } := by
  unfold Hub.afterFlowDraw
  split
  · exact ⟨_, rfl⟩
  · exact ⟨h.serial, rfl⟩

/-- Registering a valid rule without an id, or with one that is not in use, succeeds while the engine is
in order. Whatever is refused leaves the whole hub as it was. A success is one change, which then is
logged and told: the rule is put into the book under its id. If the id was not in use, all stored rules
stay as they are, in their order, and the new one follows them. The id of another rule is only ever
taken by one that had none and drew it. The same holds for flows that are created. -/
theorem registration_appends (host : Host α) (h : Hub α) :
    (∀ d : Definition Rule,
      (∀ made, h.outages = [] → d.toRule h.now.text = .ok made →
        (∀ id, made.id = some id → h.engine.book.get? id = none) →
        ∃ id h', outcome (registerRule host d) h = (.ok id, h')) ∧
      match outcome (registerRule host d) h with
      | (.error _, h') => h' = h
      | (.ok id, h') => ∃ made r serial log, d.toRule h.now.text = .ok made ∧
        r = made.storedAt h.now.text id ∧
        h' = (outcome (engineNotice host Topic.ruleRegistered (.rule r))
          { h.withRules (h.engine.book.insert id r) with serial, log }).2 ∧
        (h.engine.book.get? id = none →
          (h.engine.book.insert id r).rules = h.engine.book.rules ++ [(id, r)]) ∧
        (h.engine.book.get? id ≠ none → made.id = none ∧ id = h.drawnRuleId made)) ∧
    ∀ d : Definition Flow,
      (∀ made, d.toFlow h.now.text = .ok made →
        (∀ id, made.id = some id → Assoc.get? h.flows.book id = none) →
        ∃ id h', outcome (createFlow host d) h = (.ok id, h')) ∧
      match outcome (createFlow host d) h with
      | (.error _, h') => h' = h
      | (.ok id, h') => ∃ made f serial log, d.toFlow h.now.text = .ok made ∧
        f = made.storedAt h.now.text id ∧
        h' = (outcome (announce host Topic.flowCreated (.flow f))
          { h.withFlowBook (Assoc.put h.flows.book id f) with serial, log }).2 ∧
        (Assoc.get? h.flows.book id = none →
          Assoc.put h.flows.book id f = h.flows.book ++ [(id, f)]) ∧
        (Assoc.get? h.flows.book id ≠ none → made.id = none ∧ id = h.drawnFlowId made) := by
  -- For rules and for flows: that a free id is taken, and what a registration leaves.
  refine ⟨fun d => ⟨fun made ho hd hfree => ?_, ?_⟩, fun d => ⟨fun made hd hfree => ?_, ?_⟩⟩
  · rw [outcome_registerRule_of_toRule host (outcome_engineOperation_ok ho) hd,
      RuleBook.register_of_free hfree]
    exact ⟨_, _, rfl⟩
  · cases hr : outcome (registerRule host d) h with
    | mk result h' =>
    cases result with
    | error fault => exact (refusesAlike_registerRule host host d h fault h' hr).1
    | ok id =>
      obtain ⟨made, r, book, lines, hd, done, hh⟩ := registerRule_eq_ok hr
      -- An id in use can only be one that was drawn, since one that was named would have been refused.
      obtain ⟨hstored, rfl, hid⟩ := RuleBook.register_eq_ok done
      obtain ⟨serial, hserial⟩ := h.afterDraw_eq made
      rw [hserial] at hh
      exact ⟨made, r, serial, lines, hd, hstored, hh, fun hfree => Assoc.put_of_get?_eq_none hfree r,
        fun hused => hid.resolve_right fun hnew => hused hnew.2⟩
  · rw [outcome_createFlow_of_toFlow host hd, FlowBook.register_of_free hfree]
    exact ⟨_, _, rfl⟩
  · cases hr : outcome (createFlow host d) h with
    | mk result h' =>
    cases result with
    | error fault => exact (refusesAlike_createFlow host host d h fault h' hr).1
    | ok id =>
      obtain ⟨made, f, book, lines, hd, done, hh⟩ := createFlow_eq_ok hr
      obtain ⟨hstored, rfl, hid⟩ := FlowBook.register_eq_ok done
      obtain ⟨serial, hserial⟩ := h.afterFlowDraw_eq made
      rw [hserial] at hh
      exact ⟨made, f, serial, lines, hd, hstored, hh, fun hfree => Assoc.put_of_get?_eq_none hfree f,
        fun hused => hid.resolve_right fun hnew => hused hnew.2⟩

/-- The entry of an id, if there is one. -/
def idEntry (id : Option String) : Fields := id.toList.map fun id => ("id", .text id)

/-- A rule for events of one type. -/
def typedRule (id : Option String) (name eventType : String) : Value :=
  .map (idEntry id ++ [("name", .text name), ("conditions", .map [("eventType", .text eventType)]),
    ("actions", .list [.map [("type", .text "log_event")]])])

/-- A flow of the given steps. -/
def flowOf (id : Option String) (name : String) (steps : List Value) : Value :=
  .map (idEntry id ++ [("name", .text name), ("steps", .list steps)])

/-- A step that runs a rule. -/
def firingStep : Value := .map [("id", .text "s"), ("type", .text "rule"), ("ruleId", .text "r")]

/-- The hub after a rule and a flow were registered under the given ids. -/
def Hub.withFirst (ruleId flowId : String) : Hub Unit :=
  let registered := outcome (registerRule .deaf (.document (typedRule (some ruleId) "first" "a")))
    (Hub.atMidnight ())
  (outcome (createFlow .deaf (.document (flowOf (some flowId) "first" [firingStep]))) registered.2).2

/-- A definition of a rule without an id. -/
def secondRule : Definition Rule := .document (typedRule none "second" "b")

/-- A definition of a flow without an id. -/
def secondFlow : Definition Flow := .document (flowOf none "second" [firingStep])

/-- The ids of the stored rules with their names. -/
def Hub.ruleNames (h : Hub α) : List (String × String) :=
  h.engine.book.rules.map fun e => (e.1, e.2.name)

/-- The ids of the stored flows with their names. -/
def Hub.flowNames (h : Hub α) : List (String × String) := h.flows.book.map fun e => (e.1, e.2.name)

theorem registration_appends_second : ∃ r h',
    outcome (registerRule .deaf secondRule) (Hub.withFirst "r1" "f1") =
      (.ok "rule-000000000001", h') ∧ r.name = "second" ∧
    h'.engine.book.rules =
      (Hub.withFirst "r1" "f1").engine.book.rules ++ [("rule-000000000001", r)] := by
  have hok : (outcome (registerRule .deaf secondRule)
      (Hub.withFirst "r1" "f1")).1.toOption = some "rule-000000000001" := by decide +kernel
  have happends := ((registration_appends .deaf (Hub.withFirst "r1" "f1")).1
    secondRule).2
  cases hr : outcome (registerRule .deaf secondRule) (Hub.withFirst "r1" "f1") with
  | mk result h' =>
  rw [hr] at hok happends
  cases result with
  | error fault => cases hok
  | ok id =>
    obtain rfl : id = "rule-000000000001" := Option.some.inj hok
    obtain ⟨made, r, serial, log, hmade, hstored, hh, hfree, -⟩ := happends
    have hname : (secondRule.toRule
        (Hub.withFirst "r1" "f1").now.text).toOption.map (·.name) = some "second" := by decide +kernel
    rw [hmade] at hname
    -- Nobody listens to the engine, so the rules are as the change left them.
    have hrest := within_engineNotice Frame.rulesAtRest_free.openToActions
      (Host.deaf_tellsWithin Frame.rulesAtRest_free Topic.ruleRegistered).reports (Notice.events_rule r)
      { (Hub.withFirst "r1" "f1").withRules
        ((Hub.withFirst "r1" "f1").engine.book.insert "rule-000000000001" r) with serial, log }
    rw [← hh] at hrest
    refine ⟨r, h', rfl, hstored ▸ Option.some.inj hname, ?_⟩
    rw [← hfree (by decide +kernel)]
    exact congrArg RuleBook.rules (Prod.mk.inj hrest).1

/-- An id that was drawn is not looked up. Let a rule have been registered under the id that is drawn
next. Then a rule without an id takes its place, the index still tells of the type of the first, and
the engine has one rule. The same happens to flows. -/
theorem registration_replaces : ∃ h : Hub Unit, RegistryRun .deaf .any h ∧
    h.ruleNames = [("rule-000000000001", "first")] ∧
    h.flowNames = [("flow-000000000001", "first")] ∧
    (∃ h', outcome (registerRule .deaf secondRule) h =
        (.ok "rule-000000000001", h') ∧ h'.ruleNames = [("rule-000000000001", "second")] ∧
      h'.engine.book.index = [("a", ["rule-000000000001"]), ("b", ["rule-000000000001"])]) ∧
    ∃ h', outcome (createFlow .deaf secondFlow) h = (.ok "flow-000000000001", h') ∧
      h'.flowNames = [("flow-000000000001", "second")] := by
  have hrun : RegistryRun .deaf .any (Hub.withFirst "rule-000000000001" "flow-000000000001") := by
    refine .pass (.call (.register (.document (typedRule (some "rule-000000000001") "first" "a")))
      (.start (h := Hub.atMidnight ()) rfl) (RegistryCall.heeds_any _ _)) ?_
    rw [RegistryCall.run, hub_discard]
    rfl
  have hok {t : Task Unit String} {h : Hub Unit} {id : String}
      (ht : (outcome t h).1.toOption = some id) : outcome t h = (.ok id, (outcome t h).2) := by
    generalize outcome t h = run at ht ⊢
    obtain ⟨result, h'⟩ := run
    cases result with
    | error fault => cases ht
    | ok id' => rw [Option.some.inj ht]
  refine ⟨Hub.withFirst "rule-000000000001" "flow-000000000001", hrun, by decide +kernel,
    by decide +kernel, ⟨_, hok (by decide +kernel), by decide +kernel, by decide +kernel⟩,
    _, hok (by decide +kernel), by decide +kernel⟩

end EventHub
