import EventHub.Proofs.Actions.Written
import EventHub.Proofs.Discovery.Generic
import EventHub.Proofs.Discovery.Relay

/-!
# What is logged of captured events

The rule of an event type keeps the data of the first event of the type among the parameters of its log
action, and the flow of an event that no rule handles keeps the data of the event. Both are resolved when
the action runs, as all parameters are, so what is logged is what was kept if that has no tokens.

* **Rules** (`Rule.IsAuto.logs_sample`): the sample of the rule, whatever event the rule runs for.
* **Flows** (`outcome_processGeneric`): the data of the event.
* **Runs** (`HubRun.logs_captured`).
-/

namespace EventHub

open EventHub.Task

variable {α : Type} {app : Application α} {host : Host α} {h : Hub α} {seen : List Event}

/-! ## Rules -/

/-- The rule of a type logs its sample with the tokens resolved by the event that it runs for, when it
logs at all; a sample without tokens is logged as it is. -/
theorem Rule.IsAuto.logs_sample {t : String} {sample : Fields} {known : List String} {r : Rule}
    (hr : r.IsAuto t sample known) (hj : Value.isJsonFields sample = true) (host : Host α)
    (ho : h.outages = []) (hl : h.Shares "log_event" (.stock .logEvent)) (e : Event)
    (ctx : Option Context) : ∃ run h' logged rest,
      outcome (executeRule host r e ctx) h = (.ok run, h') ∧
      run.outcomes = ⟨"log_event", logged⟩ :: rest ∧
      ∀ v, logged = .ok v → ∃ w,
        Value.resolve (h.ruleContext ctx r e).templateValues (.map sample) = .ok w ∧
        v.lookup "data.sample_data" = .ok (some w) ∧
        (Value.isTokenlessFields sample = true → w = .map sample) := by
  obtain ⟨params, data, hactions, hdata, -, hsample⟩ := hr.actions
  obtain ⟨outcomes, h₁, lines, hrun, hends⟩ := executeRule_ok host r e ctx ho
  obtain ⟨logged, h₂, hlog, -, hresult⟩ := runAction_logEvent host hl params (h.ruleContext ctx r e)
  rw [hactions, EventHub.runActions, outcome_bind_ok hlog] at hrun
  obtain ⟨rest, h₃, -, hpure⟩ := bind_outcome_eq_ok hrun
  cases hpure
  refine ⟨_, _, logged, rest, hends.ran, rfl, fun v hv => ?_⟩
  -- The parameters are resolved entry by entry, down to the sample.
  obtain ⟨given, hgiven, hlogged⟩ := (hresult v).1 hv
  have hget := get?_resolveFields "data" hgiven
  rw [hdata] at hget
  obtain ⟨w, hw, hgiven⟩ := hget
  rw [Value.resolve] at hw
  obtain ⟨kept, hkept, hmap⟩ := bind_eq_ok.1 hw
  cases hmap
  have hget := get?_resolveFields "sample_data" hkept
  rw [hsample hj] at hget
  obtain ⟨w, hw, hsampled⟩ := hget
  obtain ⟨v', hv', hwalk, -⟩ := logResult_data hgiven hsampled (by decide) (by decide)
    (h.ruleContext ctx r e) h.now.text
  obtain rfl := Except.ok.inj (hv'.symm.trans hlogged)
  refine ⟨w, hw, hwalk, fun hs => ?_⟩
  rw [Value.resolve_of_isTokenless _ (by simpa [Value.isTokenless] using hs)] at hw
  exact (Except.ok.inj hw).symm

/-! ## Flows -/

/-- A flow of one action that succeeds has its result. -/
theorem outcome_executeSteps_action {f : Flow} {id : String} {call : ActionInvocation}
    (hf : f.steps = [.action id call]) {input entries : Value} (hi : inputEntries input = .ok entries)
    {v : Value} (hv : v.isJson = true) {h₁ : Hub α}
    (hrun : outcome (executeCall host call (oneStepContext h f entries) true) h = (.ok v, h₁)) :
    ∃ h', outcome (executeSteps host f input) h = (.ok ([v], 0), h') := by
  let reply : StepReply := ⟨v, entries⟩
  have hstep : outcome (runStep host (.action id call) (oneStepContext h f entries)) h =
      (.ok reply, h₁) := outcome_asStep_ok (outcome_bind_ok hrun)
  have hone : outcome (stepResult host f.id (.action id call) (oneStepContext h f entries)) h =
      (.ok (reply, false), h₁) := by
    unfold stepResult
    rw [outcome_bind_ok (outcome_attempt _ h), hstep]
    rfl
  let state : FlowState := (FlowState.mk [] entries 0).add reply false
  have hsteps : outcome (runSteps host f.id (flowContext h f entries) ⟨[], entries, 0⟩ f.steps) h =
      (.ok state, h₁) := by
    rw [hf]
    unfold runSteps
    exact outcome_bind_ok hone
  have hsettled : state.settled = [v] := by
    simp [FlowState.settled, state, FlowState.add, reply, Value.settledItems,
      Value.settled_of_isJson entries hv]
  unfold executeSteps
  rw [outcome_bind, outcome_ofExcept, hi]
  dsimp only
  rw [outcome_bind_ok (outcome_get h), outcome_bind_ok hsteps,
    outcome_bind_ok (outcome_log rfl _ _ h₁), outcome_bind_ok (outcome_now _),
    outcome_bind_ok (outcome_announce_ok _ _ _), hsettled]
  exact ⟨_, rfl⟩

/-- Nothing of the event reads as a template, but for keys and metadata. -/
structure Event.Inert (e : Event) : Prop where
  type : Tokenless e.type.toList
  source : Tokenless e.source.toList
  timestamp : Tokenless e.timestamp.toList
  json : Value.isJsonFields e.data = true
  data : Value.isTokenlessFields e.data = true

/-- The parameters of the call that logs an event stay as they are. -/
theorem Event.Inert.isTokenless_genericCall {e : Event} (he : e.Inert) :
    Value.isTokenlessFields (genericCall e).parameters = true := by
  have hmessage : Tokenless (s!"Generic event {e.type} detected").toList := by
    have hsplit : (s!"Generic event {e.type} detected").toList =
        "Generic event ".toList ++ e.type.toList ++ " detected".toList := by
      simp only [String.toList_append]
      rfl
    rw [hsplit]
    exact (he.type.append (by decide)).append_right (by decide)
  have hinfo : Tokenless "info".toList := by decide
  simp only [genericCall, Value.isTokenlessFields, Value.isTokenless, Bool.and_eq_true,
    decide_eq_true_eq]
  exact ⟨hinfo, hmessage, ⟨he.type, he.source, he.timestamp, he.data, trivial⟩, trivial⟩

/-- The flow of an event that no rule handles logs the data of the event as it is. -/
theorem outcome_processGeneric {e : Event} (he : e.Inert)
    (hl : Assoc.get? h.desk.actions "log_event" = some (.stock .logEvent)) (host : Host α) :
    ∃ run h' v, outcome (processGeneric host e) h = (.ok run, h') ∧ run.results = [v] ∧
      v.lookup "data.data" = .ok (some (.map e.data)) := by
  let f := genericFlowOf h.now.text (h.genericId e) e
  let h₀ : Hub α := { h with serial := h.serial + 1 }
  let line : LogLine := ⟨.info, flowPart, s!"Processing generic event {e.type} from {e.source}"⟩
  let h₁ : Hub α := { h₀ with log := line :: h.log }
  let ctx := oneStepContext h₁ f (genericEntries e)
  -- The event has no tokens in it, so the parameters are handed on as they are written.
  have hresolve : Value.resolveFields ctx.templateValues (genericCall e).parameters =
      .ok (genericCall e).parameters := Value.resolveFields_of_isTokenless _ he.isTokenless_genericCall
  obtain ⟨data, hdata, hentry⟩ : ∃ data,
      Assoc.get? (genericCall e).parameters "data" = some (.map data) ∧
        Assoc.get? data "data" = some (.map e.data) := ⟨_, rfl, rfl⟩
  obtain ⟨v, hv, hwalk, hjson⟩ := logResult_data hdata hentry (by decide) (by decide) ctx h₁.now.text
  have hv' : v.isJson = true := hjson (by simp [genericCall, Value.isJsonFields, he.json])
  obtain ⟨lines, hlog⟩ := outcome_runLogEvent (genericCall e).parameters ctx h₁
  have hhandler : outcome (runHandler host (.stock .logEvent) (genericCall e).parameters ctx) h₁ =
      (.ok v, { h₁ with log := lines }) := by
    rw [runHandler_stock host (by decide), ← hv]
    exact hlog
  have hl₁ : Assoc.get? h₁.desk.actions "log_event" = some (.stock .logEvent) := hl
  have hcall : outcome (executeCall host (genericCall e) ctx true) h₁ = (.ok v, _) :=
    (outcome_executeCall host hl₁ hresolve).trans (outcome_counted_ok _ _ hhandler)
  obtain ⟨h₂, hsteps⟩ := outcome_executeSteps_action (f := f) rfl
    (rfl : inputEntries (genericEntries e) = .ok (genericEntries e)) hv' hcall
  have hline : outcome (Task.log .info flowPart
      s!"Processing generic event {e.type} from {e.source}") h₀ = (.ok (), h₁) := outcome_log rfl _ _ _
  have hrun : outcome (processGeneric host e) h = _ :=
    (outcome_bind_ok (outcome_makeGenericFlow e h)).trans <| (outcome_bind_ok hline).trans <|
      (outcome_bind_ok hsteps).trans (outcome_bind_ok (outcome_announce_ok _ _ _))
  exact ⟨_, _, v, hrun, rfl, hwalk⟩

/-! ## Runs -/

/-- In every hub of a run that shares the log action, the rule of a type logs the data of the first event
of the type, with the tokens resolved by the event that it runs for; data without tokens is logged as it
is. The flow of an event that no rule handles logs the data of the event as it is, if there are no
tokens. -/
theorem HubRun.logs_captured (happ : app.StaysForeign .sparing) (run : HubRun app .sparing seen h)
    (hl : h.Shares "log_event" (.stock .logEvent)) :
    (∀ t first, firstOf seen t = some first → Value.isJsonFields first.data = true →
      ∃ r, h.engine.book.get? (autoRuleId (.text t)) = some r ∧ ∀ e ctx, ∃ run h' logged rest,
        outcome (executeRule app.host r e ctx) h = (.ok run, h') ∧
        run.outcomes = ⟨"log_event", logged⟩ :: rest ∧
        ∀ v, logged = .ok v → ∃ w,
          Value.resolve (h.ruleContext ctx r e).templateValues (.map first.data) = .ok w ∧
          v.lookup "data.sample_data" = .ok (some w) ∧
          (Value.isTokenlessFields first.data = true → w = .map first.data)) ∧
    ∀ e : Event, e.Inert → ∃ run h' v, outcome (processGeneric app.host e) h = (.ok run, h') ∧
      run.results = [v] ∧ v.lookup "data.data" = .ok (some (.map e.data)) := by
  have htracks := run.tracks happ
  refine ⟨fun t first hfirst hj => ?_, fun e he => outcome_processGeneric he hl.desk app.host⟩
  have htypes := htracks.types t
  rw [hfirst] at htypes
  generalize Assoc.get? h.bus.schema.order t = names at htypes
  cases htypes with
  | seen distinct rule form indexed =>
    exact ⟨_, rule, fun e ctx => form.logs_sample hj app.host htracks.steady.inOrder hl e ctx⟩

/-- The first event of its type, with a token in its data. -/
def tokenEvent : Event := ⟨"e1", "note", "probe", "2024-01-01T00:00:00",
  [("note", .text (tokenText "source"))], []⟩

/-- A later event of the type, from another source. -/
def otherEvent : Event := ⟨"e2", "note", "other", "2024-01-01T00:01:00", [("note", .text "x")], []⟩

/-- The hub that has started and seen the event. -/
def Hub.capturing (e : Event) : Hub Nat :=
  (outcome ((HubCall.publish (.checked e)).run Application.silent.host) Hub.relaying).2

theorem HubRun.capturing {e : Event} (he : (Assoc.keys e.data).Nodup) :
    HubRun Application.silent .sparing [e] (Hub.capturing e) := by
  have hrelaying : HubRun Application.silent .sparing [] Hub.relaying :=
    .pass (.started Application.silent .sparing) ⟨rfl, rfl, rfl, rfl, rfl⟩
  have hfirst := HubRun.call (.publish (.checked e)) hrelaying fun e' he' => by
    cases he'
    exact he
  rwa [HubCall.observed_publish (by decide +kernel)] at hfirst

theorem Hub.shares_capturing {e : Event} (he : (Assoc.keys e.data).Nodup)
    (ht : Tokenless e.type.toList) : (Hub.capturing e).Shares "log_event" (.stock .logEvent) := by
  have hrun := RelayRun.call (.publish (.checked e)) RelayRun.relaying (fun e' he' => by
    cases he'
    exact ⟨he, ht⟩) nofun
  exact (hrun.advances (Application.silent_staysForeign _) (Application.silent_staysWithin _)).1.logs

/-- What the log action of a rule has logged of the sample when the rule runs for an event. -/
def loggedSample (host : Host α) (h : Hub α) (r : Rule) (e : Event) : Option Value := do
  let run ← (outcome (executeRule host r e none) h).1.toOption
  let logged ← run.outcomes.head?
  let v ← logged.result.toOption
  (v.lookup "data.sample_data").toOption.join

theorem HubRun.logs_captured_plain : ∃ r,
    (Hub.capturing plainEvent).engine.book.get? (autoRuleId (.text "a")) = some r ∧
    loggedSample Application.silent.host (Hub.capturing plainEvent) r undisguisedEvent =
      some (.map plainEvent.data) := by
  have hplain : (Assoc.keys plainEvent.data).Nodup := by decide
  obtain ⟨hrules, -⟩ := HubRun.logs_captured (Application.silent_staysForeign _)
    (HubRun.capturing hplain) (Hub.shares_capturing hplain (by decide))
  obtain ⟨r, hr, hall⟩ := hrules "a" plainEvent rfl (by decide)
  obtain ⟨run, h', logged, rest, hrun, houtcomes, hlogged⟩ := hall undisguisedEvent none
  -- The log action does not fail here.
  have hlogs : (((Hub.capturing plainEvent).engine.book.get? (autoRuleId (.text "a"))).bind fun r =>
      loggedSample Application.silent.host (Hub.capturing plainEvent) r undisguisedEvent).isSome =
        true := by decide +kernel
  refine ⟨r, hr, ?_⟩
  rw [hr, Option.bind_some] at hlogs
  simp only [loggedSample, hrun, houtcomes, Except.toOption, Option.bind_eq_bind, Option.bind_some,
    List.head?_cons] at hlogs ⊢
  cases hresult : logged with
  | error fault => simp [hresult] at hlogs
  | ok v =>
    obtain ⟨w, -, hw, hsame⟩ := hlogged v hresult
    rw [Option.bind_some, hw, hsame (by decide +kernel)]
    rfl

/-- The note of a payload. -/
def noteOf (payload : Value) : Option String :=
  match payload.step "note" with
  | .ok (some (.text s)) => some s
  | _ => none

/-- A sample with a token is not logged as it is: it is logged with what the later event has there. -/
theorem HubRun.resolves_captured : ∃ r sample,
    (Hub.capturing tokenEvent).engine.book.get? (autoRuleId (.text "note")) = some r ∧
    loggedSample Application.silent.host (Hub.capturing tokenEvent) r otherEvent = some sample ∧
    noteOf sample = some "other" ∧ sample ≠ .map tokenEvent.data := by
  have hnote : (((Hub.capturing tokenEvent).engine.book.get? (autoRuleId (.text "note"))).bind fun r =>
      (loggedSample Application.silent.host (Hub.capturing tokenEvent) r otherEvent).bind noteOf) =
        some "other" := by decide +kernel
  obtain ⟨r, hr, hrest⟩ := Option.bind_eq_some_iff.1 hnote
  obtain ⟨sample, hsample, hother⟩ := Option.bind_eq_some_iff.1 hrest
  refine ⟨r, sample, hr, hsample, hother, ?_⟩
  rintro rfl
  exact absurd hother (by decide +kernel)

end EventHub
