import EventHub.Flows.Runner
import EventHub.Proofs.Context
import EventHub.Proofs.Frame.Receive
import EventHub.Proofs.Record.Rule

/-!
# Actions as they are written

The tokens of an invocation are resolved once, where it is run. A conditional action passes its
branch on with the tokens resolved already, and nothing reads them again: whoever runs in the end is
given its own parameters, as they are written, with their tokens resolved once.

* **Entries** (`get?_resolveFields`): resolving a map resolves each of its entries.
* **Branches** (`branchAsWritten`): the parameters that a branch is written with. Taking the branch
  and resolving it commute (`resolveFields_branch`).
* **Runs** (`runWritten`, `callWritten`): a nest of actions run as it is written.
* `runHandler_eq_runWritten`: by induction on the nesting, a handler with resolved parameters does
  what it does as it is written.
* `callWritten_of_paths`: every way to an action.
-/

namespace EventHub

open EventHub.Task

variable {α : Type}

/-! ## Entries -/

/-- Resolving a map keeps its keys and resolves the value of each. -/
theorem get?_resolveFields {values : Value} {fields given : Fields} (key : String)
    (h : Value.resolveFields values fields = .ok given) :
    match Assoc.get? fields key with
    | none => Assoc.get? given key = none
    | some v => ∃ w, Value.resolve values v = .ok w ∧ Assoc.get? given key = some w := by
  induction fields generalizing given with
  | nil =>
    rw [Value.resolveFields] at h
    cases h
    rfl
  | cons entry rest ih =>
    obtain ⟨k, v⟩ := entry
    rw [Value.resolveFields] at h
    obtain ⟨w, hw, h⟩ := bind_eq_ok.1 h
    obtain ⟨more, hmore, h⟩ := bind_eq_ok.1 h
    cases h
    by_cases hk : k = key
    · subst hk
      simp [Assoc.get?, hw]
    · simpa [Assoc.get?, hk] using ih hmore

/-! ## Branches -/

/-- The parameters of the invocation that a value writes out: a map whose parameters, if it has any,
are a map. -/
def Value.writtenParameters? : Value → Option Fields
  | .map fields => match Assoc.get? fields "parameters" with
    | none | some .null => some []
    | some (.map params) => some params
    | some _ => none
  | _ => none

/-- The parameters with which a branch of a conditional action is written, if it is written out. -/
def branchAsWritten (written : Fields) (outcome : Bool) : Option Fields :=
  (Assoc.get? written (if outcome then "true_action" else "false_action")).bind
    Value.writtenParameters?

theorem depth_writtenParameters {v : Value} {params : Fields} (h : v.writtenParameters? = some params) :
    Value.depthFields params < v.depth := by
  unfold Value.writtenParameters? at h
  split at h
  · rename_i fields
    split at h
    · cases h
      simp [Value.depth, Value.depthFields]
    · cases h
      simp [Value.depth, Value.depthFields]
    · rename_i params' hp
      cases h
      have := Value.depth_get? hp
      simp only [Value.depth] at this ⊢
      omega
    · cases h
  · cases h

theorem depth_branchAsWritten {written params : Fields} {outcome : Bool}
    (h : branchAsWritten written outcome = some params) :
    Value.depthFields params < Value.depthFields written := by
  obtain ⟨branch, hb, hp⟩ := Option.bind_eq_some_iff.1 h
  exact Nat.lt_of_lt_of_le (depth_writtenParameters hp) (Value.depth_get? hb)

/-- An invocation has the parameters of the map that describes it. -/
theorem parameters_of_invocationOf {fields : Fields} {call : ActionInvocation}
    (hc : invocationOf (.map fields) = .ok call) :
    match Assoc.get? fields "parameters" with
    | none => call.parameters = []
    | some v => checkMapOrNull v = .ok call.parameters := by
  have hcheck : ActionInvocation.ofFields fields = .ok call := by
    unfold invocationOf at hc
    split at hc
    · rename_i made hmade
      cases hc
      exact hmade
    · cases hc
  obtain ⟨-, hparams⟩ := ActionInvocation.ofFields_eq_ok.1 hcheck
  have hname : camelCase "parameters" = "parameters" := by decide
  unfold defaulted field at hparams
  rw [hname] at hparams
  cases hget : Assoc.get? fields "parameters" with
  | none =>
    rw [hget] at hparams
    exact (Except.ok.inj hparams).symm
  | some v =>
    rw [hget] at hparams
    exact Checked.within_eq_ok.1 hparams

/-- The invocation of a value that writes one out, once its tokens are resolved. -/
theorem resolveFields_writtenParameters {values v w : Value} {params : Fields}
    {call : ActionInvocation} (hp : v.writtenParameters? = some params)
    (hw : Value.resolve values v = .ok w) (hc : invocationOf w = .ok call) :
    Value.resolveFields values params = .ok call.parameters := by
  unfold Value.writtenParameters? at hp
  split at hp
  case h_2 => cases hp
  rename_i fields
  rw [Value.resolve] at hw
  obtain ⟨given, hgiven, hw⟩ := bind_eq_ok.1 hw
  cases hw
  have hget := get?_resolveFields "parameters" hgiven
  have hparams := parameters_of_invocationOf hc
  -- Parameters may be missing, null, or a mapping; in each case the call carries what they resolve to.
  split at hp <;> rename_i hv <;> rw [hv] at hget <;> cases hp
  · rw [hget] at hparams
    rw [hparams, Value.resolveFields]
  · obtain ⟨w, hw, hget⟩ := hget
    obtain rfl : Value.null = w := by simpa [Value.resolve] using hw
    rw [hget] at hparams
    rw [← Except.ok.inj hparams, Value.resolveFields]
  · obtain ⟨w, hw, hget⟩ := hget
    rw [Value.resolve] at hw
    obtain ⟨params', hparams', hw⟩ := bind_eq_ok.1 hw
    cases hw
    rw [hget] at hparams
    have hmap : checkMapOrNull (.map params') = .ok params' := by simp [checkMapOrNull, checkMap]
    rw [hparams', Except.ok.inj (hmap.symm.trans hparams)]

/-- Taking a branch that is written out, and resolving it, commute. -/
theorem resolveFields_branch {values branch : Value} {written given params : Fields} {outcome : Bool}
    {call : ActionInvocation} (hg : Value.resolveFields values written = .ok given)
    (hb : chosenBranch given outcome = some branch) (hc : invocationOf branch = .ok call)
    (hw : branchAsWritten written outcome = some params) :
    Value.resolveFields values params = .ok call.parameters := by
  obtain ⟨v, hv, hp⟩ := Option.bind_eq_some_iff.1 hw
  obtain ⟨hbranch, -⟩ := Option.filter_eq_some_iff.1 hb
  have hget := get?_resolveFields (if outcome then "true_action" else "false_action") hg
  rw [hv] at hget
  obtain ⟨w, hresolve, hgiven⟩ := hget
  cases hbranch.symm.trans hgiven
  exact resolveFields_writtenParameters hp hresolve hc

/-! ## Runs -/

/-- A handler at work that is given its parameters with their tokens resolved, where `written` is how
they are written. What a conditional action runs is given its own parameters, as they are written,
with their tokens resolved. A branch that is not written out, but had from a token, is run with the
parameters that it has there. -/
def runWritten (host : Host α) (values : Value) (ctx : Context) (handler : ActionHandler)
    (written given : Fields) : Task α Value := do
  match handler with
  | .stock .conditional =>
    let outcome ← branchOutcome host given ctx
    match chosenBranch given outcome with
    | none => idleBranch outcome
    | some branch =>
      let call ← Task.ofExcept (invocationOf branch)
      let inner ← findHandler call.type
      match hw : branchAsWritten written outcome with
      | none =>
        let result ← counted call.type ctx (runHandler host inner call.parameters ctx)
        ranBranch outcome branch result
      | some params =>
        have : Value.depthFields params < Value.depthFields written := depth_branchAsWritten hw
        let given ← Task.ofExcept (Value.resolveFields values params)
        let result ← counted call.type ctx (runWritten host values ctx inner params given)
        ranBranch outcome branch result
  | handler => runHandler host handler given ctx
termination_by Value.depthFields written

/-- Runs an invocation as it is written: its handler is given its parameters with their tokens
resolved by the values. -/
def callWritten (host : Host α) (values : Value) (ctx : Context) (call : ActionInvocation) :
    Task α Value := do
  let handler ← findHandler call.type
  let given ← Task.ofExcept (Value.resolveFields values call.parameters)
  counted call.type ctx (runWritten host values ctx handler call.parameters given)

theorem ofExcept_ok_bind {β γ : Type} (b : β) (f : β → Task α γ) :
    Task.ofExcept (.ok b) >>= f = f b := rfl

variable (host : Host α)

/-- The conditional action runs the handler of the branch that its condition selects. -/
theorem runHandler_conditional (params : Fields) (ctx : Context) :
    runHandler host (.stock .conditional) params ctx = (do
      let taken ← branchOutcome host params ctx
      match chosenBranch params taken with
      | none => idleBranch taken
      | some branch =>
        let call ← Task.ofExcept (invocationOf branch)
        let inner ← findHandler call.type
        let result ← counted call.type ctx (runHandler host inner call.parameters ctx)
        ranBranch taken branch result) := by
  rw [runHandler]
  refine bind_congr fun taken => ?_
  split
  · rename_i hb
    simp only [hb]
  · rename_i branch hb
    simp only [hb]
    split
    · rename_i fault hc
      simp only [hc]
      rfl
    · rename_i call hc
      simp only [hc]
      rfl

/-- A handler that is given resolved parameters does what it does as it is written: by induction on
the nesting, as the recursion of the conditional action is. -/
theorem runHandler_eq_runWritten (ctx : Context) (handler : ActionHandler)
    {values : Value} {written given : Fields} (hg : Value.resolveFields values written = .ok given) :
    runHandler host handler given ctx = runWritten host values ctx handler written given := by
  fun_induction runWritten host values ctx handler written given with
  | case1 written given ih =>
    rw [runHandler_conditional]
    refine bind_congr fun taken => ?_
    cases hb : chosenBranch given taken with
    | none => rfl
    | some branch =>
      dsimp only
      cases hc : invocationOf branch with
      | error fault => rfl
      | ok call =>
        rw [ofExcept_ok_bind, ofExcept_ok_bind]
        refine bind_congr fun inner => ?_
        split
        · rfl
        · rename_i params hw
          have hparams := resolveFields_branch hg hb hc hw
          rw [hparams, ofExcept_ok_bind, ih taken inner params hw call.parameters hparams]
  | case2 => rfl

/-- An invocation is run as it is written. -/
theorem executeCall_eq_callWritten (call : ActionInvocation) (ctx : Context) :
    executeCall host call ctx true = callWritten host ctx.templateValues ctx call := by
  refine bind_congr fun handler => ?_
  unfold preparedParameters
  rw [if_pos rfl]
  cases hg : Value.resolveFields ctx.templateValues call.parameters with
  | error fault => rfl
  | ok given =>
    rw [ofExcept_ok_bind, ofExcept_ok_bind, runHandler_eq_runWritten host ctx handler hg]

/-- What an action of a rule comes to, when it is run by the task. -/
def ruleOutcome (actionType : String) (t : Task α Value) : Task α ActionOutcome := do
  match ← Task.attempt t with
  | .ok v => return ⟨actionType, .ok v⟩
  | .error fault => return ⟨actionType, .error (← actionFault actionType fault)⟩

/-- Whichever way an action is reached, called with an invocation or with a value that describes one,
as the step of a flow, or as an action of a rule that the hub shares with the engine, it is run as it
is written: its handler is given its parameters with their tokens resolved once, by the values of the
context, and so is every handler that conditional actions nested in it choose. -/
theorem callWritten_of_paths (call : ActionInvocation) (ctx : Context) :
    executeCall host call ctx true = callWritten host ctx.templateValues ctx call ∧
    (∀ v, executeAction host v ctx true =
      Task.ofExcept (invocationOf v) >>= callWritten host ctx.templateValues ctx) ∧
    (∀ stepId, runStep host (.action stepId call) ctx = asStep (.text stepId) do
      return .ofResult ctx (← callWritten host ctx.templateValues ctx call)) ∧
    ∀ h : Hub α, Assoc.get? h.engine.actions call.type = some (.shared call.type) →
      outcome (runAction host call ctx) h = outcome (ruleOutcome call.type
        (callWritten host ctx.templateValues (ctx.withServices h) call)) h := by
  refine ⟨executeCall_eq_callWritten host call ctx, fun v => ?_, fun stepId => ?_, fun h hshared => ?_⟩
  · exact bind_congr fun call => executeCall_eq_callWritten host call ctx
  · unfold runStep
    rw [← executeCall_eq_callWritten]
  · have hrun : outcome (runEngineHandler host (.shared call.type) call.parameters ctx) h =
        outcome (callWritten host ctx.templateValues (ctx.withServices h) call) h := by
      unfold runEngineHandler
      dsimp only
      rw [outcome_bind_ok (outcome_get h), executeCall_eq_callWritten,
        ctx.templateValues_withServices h]
    obtain ⟨r, h', hwritten⟩ : ∃ r h', outcome
      (callWritten host ctx.templateValues (ctx.withServices h) call) h = (r, h') := ⟨_, _, rfl⟩
    have hleft : outcome (Task.attempt (runEngineHandler host (.shared call.type) call.parameters ctx))
        h = (.ok r, h') := by rw [outcome_attempt, hrun, hwritten]
    have hright : outcome (Task.attempt
        (callWritten host ctx.templateValues (ctx.withServices h) call)) h = (.ok r, h') := by
      rw [outcome_attempt, hwritten]
    unfold runAction ruleOutcome
    rw [outcome_bind_ok (outcome_get h), hshared]
    dsimp only
    refine (outcome_bind_ok hleft).trans (Eq.trans ?_ (outcome_bind_ok hright).symm)
    cases r <;> rfl

/-- An application whose actions give their parameters back. -/
def Application.echoing : Application Unit where
  ask _ _ := .ok .null
  act _ _ v _ := return ⟨v, v, none⟩
  serve _ _ _ := return ()

/-- A conditional action, with another one in its branch, whose branch passes a note on. -/
def nestedNote : ActionInvocation :=
  ⟨"conditional_action", [("condition", .bool true), ("true_action", .map [
    ("type", .text "conditional_action"), ("parameters", .map [("condition", .bool true),
      ("true_action", .map [("type", .text "echo"),
        ("parameters", .map [("message", .text "\x7b\x7bnote\x7d\x7d")])])])])]⟩

/-- The context of an event with a note that looks like a token. -/
def noteContext : Context :=
  { Context.bare "2024-01-01T00:00:00" with
    event := some ⟨"e1", "a", "probe", "2024-01-01T00:00:00",
      [("note", .text "\x7b\x7bzone\x7d\x7d"), ("zone", .text "z1")], []⟩ }

/-- A hub with both actions, shared with the engine. -/
def Hub.withEcho : Hub Unit :=
  let h := Hub.atMidnight ()
  { h with
    desk := { h.desk with
      actions := [("conditional_action", .stock .conditional), ("echo", .function "echo")] }
    engine := { h.engine with
      actions := [("conditional_action", .shared "conditional_action"), ("echo", .shared "echo")] } }

/-- The message that an outcome of the nest has. -/
def ActionOutcome.message? (o : ActionOutcome) : Option String := do
  let v ← o.result.toOption
  let found ← (v.lookup "result.result.message").toOption
  found.map Value.plain

theorem callWritten_of_paths_nestedNote :
    let told := outcome (ruleOutcome nestedNote.type (callWritten Application.echoing.host
      noteContext.templateValues (noteContext.withServices Hub.withEcho) nestedNote)) Hub.withEcho
    outcome (runAction Application.echoing.host nestedNote noteContext) Hub.withEcho = told ∧
      told.1.toOption.bind ActionOutcome.message? = some "\x7b\x7bzone\x7d\x7d" := by
  obtain ⟨-, -, -, hrule⟩ := callWritten_of_paths Application.echoing.host nestedNote noteContext
  exact ⟨hrule Hub.withEcho rfl, by decide +kernel⟩

end EventHub
