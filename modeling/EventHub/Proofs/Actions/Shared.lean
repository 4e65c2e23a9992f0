import EventHub.Proofs.Rules.Execution
import EventHub.Proofs.Value.Json

/-!
# Actions that the engine shares with the desk

A rule runs an action that the engine shares with the desk as the desk does: its tokens are resolved by
the table of the rule's context, and its handler runs and is counted.

* **Parameters** (`outcome_require`, `outcome_require_or`): what is asked for is there, or nothing happens.
* **Counting** (`outcome_counted_ok`, `outcome_counted_error`): what a counted task leaves.
* **Actions** (`outcome_runAction_shared`): a shared action that succeeds.
* **Logging** (`runAction_logEvent`): the log action writes a line at most, whatever comes of it.
* **Publishing** (`runAction_mqttPublish`): the publish action hands one message to a broker that
  works.
-/

namespace EventHub

open EventHub.Task

variable {α : Type} {host : Host α}

/-! ## Parameters -/

/-- Parameters that are there are enough. -/
theorem outcome_require {action : StockAction} {params : Fields} {names : List String}
    (hn : ∀ name ∈ names, isBlankValue (Value.get params name) = false) (h : Hub α) :
    outcome (require action params names) h = (.ok (), h) := by
  have hmissing : names.filter (fun name => isBlankValue (Value.get params name)) = [] :=
    List.filter_eq_nil_iff.2 fun name hname => by simp [hn name hname]
  unfold require
  simp only [hmissing]
  rfl

/-- Parameters that are missing end an action before it does anything. -/
theorem outcome_require_or (action : StockAction) (params : Fields) (names : List String) (h : Hub α) :
    outcome (require action params names) h = (.ok (), h) ∨
      ∃ fault, outcome (require action params names) h = (.error fault, h) := by
  unfold require
  dsimp only
  split
  · exact .inr ⟨_, rfl⟩
  · exact .inl rfl

/-! ## Counting -/

/-- The hub after an action ended at the desk. -/
def Hub.withDesk (h : Hub α) (f : ActionDesk → ActionDesk) : Hub α := { h with desk := f h.desk }

theorem outcome_counted_ok (actionType : String) (ctx : Context) {t : Task α Value} {h h' : Hub α}
    {v : Value} (ht : outcome t h = (.ok v, h')) :
    outcome (counted actionType ctx t) h =
      (.ok v, h'.withDesk (·.succeed actionType h.now.text)) := by
  have hattempt : outcome (Task.attempt t) h = (.ok (.ok v), h') := by rw [outcome_attempt, ht]
  unfold counted
  rw [outcome_bind_ok (outcome_now h), outcome_bind_ok hattempt]
  rfl

theorem outcome_counted_error (actionType : String) (ctx : Context) {t : Task α Value} {h h' : Hub α}
    {fault : Fault} (ht : outcome t h = (.error fault, h')) : ∃ lines,
    outcome (counted actionType ctx t) h = (.error (nameFault actionType fault),
      { h'.withDesk (·.fail actionType h.now.text fault.message) with log := lines }) := by
  have hattempt : outcome (Task.attempt t) h = (.ok (.error fault), h') := by rw [outcome_attempt, ht]
  unfold counted
  rw [outcome_bind_ok (outcome_now h), outcome_bind_ok hattempt]
  cases hf : fault.ofAction with
  | true => exact ⟨h'.log, by simp only [hf]; rfl⟩
  | false => exact ⟨_, by simp only [hf]; rfl⟩

/-! ## Actions -/

/-- The action is shared: the desk has the handler, and the engine leaves the action to the desk. -/
structure Hub.Shares (h : Hub α) (actionType : String) (handler : ActionHandler) : Prop where
  desk : Assoc.get? h.desk.actions actionType = some handler
  engine : Assoc.get? h.engine.actions actionType = some (.shared actionType)

section Shared

variable {h h' : Hub α} {actionType : String} {handler : ActionHandler} {params given : Fields}
  {ctx : Context}

theorem outcome_findHandler (hd : Assoc.get? h.desk.actions actionType = some handler) :
    outcome (findHandler actionType) h = (.ok handler, h) := by
  unfold findHandler
  rw [outcome_bind_ok (outcome_get h), hd]
  rfl

/-- The desk resolves the parameters of an action and counts it. -/
theorem outcome_executeCall (host : Host α) (hd : Assoc.get? h.desk.actions actionType = some handler)
    (hg : Value.resolveFields ctx.templateValues params = .ok given) :
    outcome (executeCall host ⟨actionType, params⟩ ctx true) h =
      outcome (counted actionType ctx (runHandler host handler given ctx)) h := by
  have hp : preparedParameters ⟨actionType, params⟩ ctx true = .ok given := hg
  unfold executeCall
  rw [outcome_bind_ok (outcome_findHandler hd), hp]
  exact outcome_bind_ok (outcome_ofExcept _ h)

/-- An action of a rule goes to the desk. -/
theorem outcome_runEngineHandler (host : Host α) (hs : h.Shares actionType handler)
    (hg : Value.resolveFields ctx.templateValues params = .ok given) :
    outcome (runEngineHandler host (.shared actionType) params ctx) h =
      outcome (counted actionType (ctx.withServices h)
        (runHandler host handler given (ctx.withServices h))) h := by
  unfold runEngineHandler
  dsimp only
  rw [outcome_bind_ok (outcome_get h)]
  exact outcome_executeCall host hs.desk hg

theorem outcome_runEngineHandler_error (host : Host α) (hs : h.Shares actionType handler) {fault : Fault}
    (hg : Value.resolveFields ctx.templateValues params = .error fault) :
    outcome (runEngineHandler host (.shared actionType) params ctx) h = (.error fault, h) := by
  have hp : preparedParameters ⟨actionType, params⟩ (ctx.withServices h) true = .error fault := hg
  unfold runEngineHandler
  dsimp only
  rw [outcome_bind_ok (outcome_get h)]
  unfold executeCall
  rw [outcome_bind_ok (outcome_findHandler hs.desk), hp]
  exact outcome_bind_error (outcome_ofExcept _ h)

/-- A shared action that succeeds. -/
theorem outcome_runAction_shared (hs : h.Shares actionType handler)
    (hg : Value.resolveFields ctx.templateValues params = .ok given) {v : Value}
    (hrun : outcome (runHandler host handler given (ctx.withServices h)) h = (.ok v, h')) :
    outcome (runAction host ⟨actionType, params⟩ ctx) h =
      (.ok ⟨actionType, .ok v⟩, h'.withDesk (·.succeed actionType h.now.text)) := by
  have hattempt : outcome (Task.attempt (runEngineHandler host (.shared actionType) params ctx)) h =
      (.ok (.ok v), h'.withDesk (·.succeed actionType h.now.text)) := by
    rw [outcome_attempt, outcome_runEngineHandler host hs hg, outcome_counted_ok _ _ hrun]
  unfold runAction
  rw [outcome_bind_ok (outcome_get h), hs.engine]
  exact (outcome_bind_ok hattempt)

/-- A shared action that fails: the fault is that of the action. -/
theorem runAction_shared_error (hs : h.Shares actionType handler) {fault : Fault}
    (hrun : outcome (runEngineHandler host (.shared actionType) params ctx) h = (.error fault, h')) :
    ∃ named lines, outcome (runAction host ⟨actionType, params⟩ ctx) h =
      (.ok ⟨actionType, .error named⟩, { h' with log := lines }) := by
  have hattempt : outcome (Task.attempt (runEngineHandler host (.shared actionType) params ctx)) h =
      (.ok (.error fault), h') := by
    rw [outcome_attempt, hrun]
  have hnamed : ∃ lines, outcome (actionFault (α := α) actionType fault) h' =
      (.ok (nameFault actionType fault), { h' with log := lines }) := by
    unfold actionFault
    dsimp only
    split
    · exact ⟨_, outcome_bind_ok (outcome_log rfl _ _ h')⟩
    · exact ⟨h'.log, rfl⟩
  obtain ⟨lines, hnamed⟩ := hnamed
  refine ⟨nameFault actionType fault, lines, ?_⟩
  unfold runAction
  rw [outcome_bind_ok (outcome_get h), hs.engine]
  refine (outcome_bind_ok hattempt).trans ?_
  exact (outcome_bind_ok hnamed)

end Shared

/-! ## Logging -/

/-- Nothing but the log and the counters of the desk has changed. -/
def Hub.Writes (h h' : Hub α) : Prop :=
  ∃ lines total succeeded failed last,
    h' = { h with log := lines, desk := { h.desk with total, succeeded, failed, last } }

theorem Hub.Writes.effects {h h' : Hub α} (hw : h.Writes h') : h'.effects = h.effects := by
  obtain ⟨_, _, _, _, _, rfl⟩ := hw
  rfl

/-- The result of the log action with resolved parameters. -/
def logResult (given : Fields) (ctx : Context) (now : String) : Except Fault Value := do
  let levelName := Text.upper (Value.getOr given "level" (.text "info")).plain
  let ruleName : Value := .ofText? (ctx.rule.map (·.name))
  let message := Value.orElse (Value.get given "message")
    (.text ("Rule execution: " ++ ruleName.plain))
  let data ← (Value.orElse (Value.get given "data") (.map [])).toMap
  let data := data.put "rule_id" (.ofText? (ctx.rule.bind (·.id)))
  let data := data.put "event_id" (.ofText? (ctx.event.map (·.id)))
  .ok (.map [("logged", .bool true), ("level", .text (Text.lower levelName)),
    ("message", message), ("data", data), ("timestamp", .text now)])

/-- What is logged with data has the entries of the data, and is JSON when the parameters are. -/
theorem logResult_data {given data : Fields} {name : String} {w : Value}
    (hg : Assoc.get? given "data" = some (.map data)) (hw : Assoc.get? data name = some w)
    (hrule : name ≠ "rule_id") (hevent : name ≠ "event_id") (ctx : Context) (now : String) :
    ∃ v, logResult given ctx now = .ok v ∧ walk ["data", name] v = .ok (some w) ∧
      (Value.isJsonFields given = true → v.isJson = true) := by
  have hdata : Value.orElse (Value.get given "data") (.map []) = .map data := by
    have hne : data ≠ [] := by
      rintro rfl
      cases hw
    rw [Value.get, hg, Value.ofOption, Value.orElse, if_pos (by simpa [Value.truthy] using hne)]
  have hkept (a b : Value) :
      Assoc.get? (Assoc.put (Assoc.put data "rule_id" a) "event_id" b) name = some w := by
    rw [Assoc.get?_put_of_ne _ _ (Ne.symm hevent), Assoc.get?_put_of_ne _ _ (Ne.symm hrule), hw]
  unfold logResult
  rw [hdata]
  refine ⟨_, rfl, ?_, fun hj => ?_⟩
  · simp [walk, Value.step, Value.put, Assoc.get?, hkept]
  · have hmessage (other : String) :
        (Value.orElse (Value.get given "message") (.text other)).isJson = true := by
      rw [Value.orElse]
      split
      · exact Value.isJson_get hj "message"
      · simp
    have hentries (a b : Value) (ha : a.isJson = true) (hb : b.isJson = true) :
        Value.isJsonFields (Assoc.put (Assoc.put data "rule_id" a) "event_id" b) = true :=
      Value.isJsonFields_put (Value.isJsonFields_put
        (by simpa using Value.isJson_get? hj hg) ha _) hb _
    simp [Value.isJsonFields, Value.put, hmessage, hentries]

theorem outcome_runLogEvent (given : Fields) (ctx : Context) (h : Hub α) : ∃ lines,
    outcome (runLogEvent given ctx) h =
      (logResult given ctx h.now.text, { h with log := lines }) := by
  unfold runLogEvent logResult
  dsimp only
  rw [outcome_bind, outcome_ofExcept]
  cases (Value.orElse (Value.get given "data") (.map [])).toMap with
  | error fault => exact ⟨h.log, rfl⟩
  | ok data =>
    dsimp only
    unfold Task.log
    rw [outcome_bind_ok (outcome_modify _ h)]
    split
    · exact ⟨_, rfl⟩
    · exact ⟨h.log, rfl⟩

theorem runHandler_stock (host : Host α) {action : StockAction} (ha : action ≠ .conditional)
    (given : Fields) (ctx : Context) :
    runHandler host (.stock action) given ctx = runStock host action given ctx := by
  rw [runHandler]
  exact ha

/-- The log action of a rule writes a line at most. It has a result when its parameters can be
resolved and logged. -/
theorem runAction_logEvent (host : Host α) {h : Hub α} (hs : h.Shares "log_event" (.stock .logEvent))
    (params : Fields) (ctx : Context) : ∃ result h',
    outcome (runAction host ⟨"log_event", params⟩ ctx) h = (.ok ⟨"log_event", result⟩, h') ∧
      h.Writes h' ∧
      ∀ v, result = .ok v ↔ ∃ given, Value.resolveFields ctx.templateValues params = .ok given ∧
        logResult given ctx h.now.text = .ok v := by
  cases hg : Value.resolveFields ctx.templateValues params with
  | error fault =>
    obtain ⟨named, lines, hrun⟩ :=
      runAction_shared_error hs (outcome_runEngineHandler_error host hs hg)
    exact ⟨_, _, hrun, ⟨lines, _, _, _, _, rfl⟩, fun v => by simp⟩
  | ok given =>
    obtain ⟨lines, hlog⟩ := outcome_runLogEvent given (ctx.withServices h) h
    have hhandler : outcome (runHandler host (.stock .logEvent) given (ctx.withServices h)) h =
        (logResult given ctx h.now.text, { h with log := lines }) := by
      rw [runHandler_stock host (by decide)]
      exact hlog
    cases hr : logResult given ctx h.now.text with
    | ok v =>
      rw [hr] at hhandler
      refine ⟨_, _, outcome_runAction_shared hs hg hhandler, ⟨lines, _, _, _, _, rfl⟩, fun w => ?_⟩
      simp [hr]
    | error fault =>
      rw [hr] at hhandler
      obtain ⟨_, hcounted⟩ := outcome_counted_error "log_event" (ctx.withServices h) hhandler
      obtain ⟨named, lines, hrun⟩ := runAction_shared_error hs
        ((outcome_runEngineHandler host hs hg).trans hcounted)
      refine ⟨_, _, hrun, ⟨lines, _, _, _, _, rfl⟩, fun w => ?_⟩
      simp [hr]

/-! ## Publishing -/

/-- The broker takes every message. -/
def Broker.Works (b : Broker) : Prop := ∀ topic payload qos retain effects, ∃ answer,
  b.publish topic payload qos retain effects =
    (.ok answer, .brokerPublish topic payload qos retain :: effects)

/-- The publish action of a rule hands its message to a broker that works, once. -/
theorem runAction_mqttPublish (host : Host α) {h : Hub α}
    (hs : h.Shares "mqtt_publish" (.stock .mqttPublish))
    {broker : Broker} (hb : h.broker = some broker) (hw : broker.Works) {params : Fields}
    {ctx : Context} {topic : String} {payload : Value} {qos : Int} (ht : topic ≠ "")
    (hg : Value.resolveFields ctx.templateValues params =
      .ok [("topic", .text topic), ("payload", payload), ("qos", .int qos)]) : ∃ answer h',
    outcome (runAction host ⟨"mqtt_publish", params⟩ ctx) h =
      (.ok ⟨"mqtt_publish", .ok answer⟩, h') ∧
      h'.effects = .brokerPublish (.text topic) payload qos false :: h.effects := by
  obtain ⟨answer, hpublish⟩ := hw (.text topic) payload qos false h.effects
  let given : Fields := [("topic", .text topic), ("payload", payload), ("qos", .int qos)]
  let h₁ : Hub α := { h with effects := .brokerPublish (.text topic) payload qos false :: h.effects }
  have hcontact : outcome (Task.contact (broker.publish (.text topic) payload qos false)) h =
      (.ok answer, h₁) := by
    have hc : outcome (Task.contact (broker.publish (.text topic) payload qos false)) h =
      (match broker.publish (.text topic) payload qos false h.effects with
        | (r, effects) => (r, { h with effects := effects })) := rfl
    rw [hc, hpublish]
  have hrequire : outcome (require (α := α) .mqttPublish given ["topic"]) h = (.ok (), h) := by
    refine outcome_require (List.forall_mem_singleton.2 ?_) h
    simp [given, Value.get, Assoc.get?, Value.ofOption, isBlankValue, ht]
  have hrun : outcome (runHandler host (.stock .mqttPublish) given (ctx.withServices h)) h =
      (.ok answer, h₁) := by
    have hbroker : (ctx.withServices h).broker = some broker := hb
    have hqos : outcome (α := α) (Task.ofExcept (Value.getOr given "qos" (.int 0)).toInt) h =
      (.ok qos, h) := rfl
    rw [runHandler_stock host (by decide)]
    unfold runStock
    rw [outcome_bind_ok (outcome_get h)]
    dsimp only
    unfold runMqttPublish
    rw [outcome_bind_ok hrequire]
    dsimp only
    rw [outcome_bind_ok hqos, hbroker]
    exact hcontact
  exact ⟨answer, _, outcome_runAction_shared hs hg hrun, rfl⟩

end EventHub
