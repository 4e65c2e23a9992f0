import EventHub.Proofs.Actions.Shared
import EventHub.Proofs.Actions.Written

/-!
# Nests of conditional actions

A conditional action runs the branch that its condition selects, which may be a conditional action again.
The desk counts every level on its way back, and a fault gets its name where it is first raised.

* **Counting** (`Hub.Counted`): what the desk counted, and that it changed nothing else.
* **Nests** (`Nest`): the path through a nest that the conditions select, and where it ends.
* **Levels** (`outcome_conditional`): a level runs its branch, as the desk runs any invocation.
* **Paths** (`Nest.outcome_leaf`, `Nest.outcome_absent`): what comes back through the levels of a nest, by
  induction on the path.
* `executeCall_nest`: the four ways in which a nest ends.
-/

namespace EventHub

open EventHub.Task

variable {α : Type}

/-! ## Counting -/

/-- Every run was counted as a success or as a failure. -/
def ActionDesk.Balanced (d : ActionDesk) : Prop := d.total = d.succeeded + d.failed

/-- The frame in which the desk stays balanced. -/
def Frame.deskBalanced : Frame α := .ofInvariant fun h => h.desk.Balanced

theorem Frame.deskBalanced_open : (Frame.deskBalanced (α := α)).OpenToRuns where
  log _ _ hk := hk
  effects _ _ hk := hk
  serial _ _ hk := hk
  cache _ _ hk := hk
  succeed h _ _ hk := by
    show h.desk.total + 1 = h.desk.succeeded + 1 + h.desk.failed
    have : h.desk.total = h.desk.succeeded + h.desk.failed := hk
    omega
  fail h _ _ _ hk := by
    show h.desk.total + 1 = h.desk.succeeded + (h.desk.failed + 1)
    have : h.desk.total = h.desk.succeeded + h.desk.failed := hk
    omega

/-- The numbers of runs, of successes and of failures. -/
def ActionDesk.counts (d : ActionDesk) : Nat × Nat × Nat := (d.total, d.succeeded, d.failed)

/-- After `left` nothing but the log and the counters of the desk has changed, and the desk has counted so
many successes and failures on top of what it had counted `before`. -/
structure Hub.Counted (before left after : Hub α) (succeeded failed : Nat) : Prop where
  writes : left.Writes after
  total : after.desk.total = before.desk.total + (succeeded + failed)
  succeeded : after.desk.succeeded = before.desk.succeeded + succeeded
  failed : after.desk.failed = before.desk.failed + failed

namespace Hub.Counted

variable {before left between after : Hub α} {succeeded failed more worse : Nat}

/-- Nothing is counted yet where the counts are those from before. -/
theorem of_counts (hsame : left.desk.counts = before.desk.counts) : before.Counted left left 0 0 := by
  simp only [ActionDesk.counts, Prod.mk.injEq] at hsame
  obtain ⟨htotal, hsucceeded, hfailed⟩ := hsame
  exact ⟨⟨_, _, _, _, _, rfl⟩, htotal, hsucceeded, hfailed⟩

theorem succeed (hc : before.Counted left after succeeded failed) (actionType started : String) :
    before.Counted left (after.withDesk (·.succeed actionType started)) (succeeded + 1) failed where
  writes := by
    obtain ⟨lines, total, successes, failures, last, rfl⟩ := hc.writes
    exact ⟨_, _, _, _, _, rfl⟩
  total := by
    have htotal := hc.total
    simp only [Hub.withDesk, ActionDesk.succeed]
    omega
  succeeded := by
    simp only [Hub.withDesk, ActionDesk.succeed, hc.succeeded, Nat.add_assoc]
  failed := hc.failed

theorem fail (hc : before.Counted left after succeeded failed) (actionType started error : String)
    (lines : List LogLine) : before.Counted left
      { after.withDesk (·.fail actionType started error) with log := lines } succeeded (failed + 1) where
  writes := by
    obtain ⟨lines, total, successes, failures, last, rfl⟩ := hc.writes
    exact ⟨_, _, _, _, _, rfl⟩
  total := by
    have htotal := hc.total
    simp only [Hub.withDesk, ActionDesk.fail]
    omega
  succeeded := hc.succeeded
  failed := by
    simp only [Hub.withDesk, ActionDesk.fail, hc.failed, Nat.add_assoc]

theorem trans (hc : before.Counted left between succeeded failed)
    (hc' : between.Counted between after more worse) :
    before.Counted left after (more + succeeded) (worse + failed) where
  writes := by
    obtain ⟨lines, total, successes, failures, last, rfl⟩ := hc.writes
    obtain ⟨lines, total, successes, failures, last, rfl⟩ := hc'.writes
    exact ⟨_, _, _, _, _, rfl⟩
  total := by
    rw [hc'.total, hc.total]
    omega
  succeeded := by
    rw [hc'.succeeded, hc.succeeded]
    omega
  failed := by
    rw [hc'.failed, hc.failed]
    omega

theorem balanced (hc : before.Counted left after succeeded failed) (hb : before.desk.Balanced) :
    after.desk.Balanced := by
  have hbefore : before.desk.total = before.desk.succeeded + before.desk.failed := hb
  show after.desk.total = after.desk.succeeded + after.desk.failed
  rw [hc.total, hc.succeeded, hc.failed]
  omega

end Hub.Counted

/-! ## Nests -/

/-- The condition of a conditional action is there, and comes to the outcome without raising. -/
def Decides (ask : String → Value → Except Fault Value) (values : Value) (params : Fields)
    (taken : Bool) : Prop :=
  (Value.get params "condition").isNull = false ∧
    Condition.holds ask values (Value.get params "condition") = .ok taken

/-- Where the selected path through a nest ends: at a branch that is absent, or at an action. -/
inductive NestEnd
  | absent (taken : Bool)
  | leaf (call : ActionInvocation)

/-- The type that a map has for a branch, as it is written there. -/
def writtenType (branch : Value) : Option Value := branch.fields?.map (Value.get · "type")

/-- Conditional actions, one in the selected branch of the other: so many of them, the first with these
parameters. The path has the outcome of every condition that selects a branch, and the type that is written
there. Of the other branches nothing is asked. -/
inductive Nest (ask : String → Value → Except Fault Value) (values : Value) :
    Nat → Fields → List (Bool × Value) → NestEnd → Prop
  | absent {params : Fields} {taken : Bool} (decides : Decides ask values params taken)
    (branch : chosenBranch params taken = none) : Nest ask values 1 params [] (.absent taken)
  | leaf {params : Fields} {taken : Bool} {v written : Value} {call : ActionInvocation}
    (decides : Decides ask values params taken) (branch : chosenBranch params taken = some v)
    (entry : writtenType v = some written) (called : invocationOf v = .ok call) :
    Nest ask values 1 params [(taken, written)] (.leaf call)
  | nested {params : Fields} {taken : Bool} {v written : Value} {call : ActionInvocation} {n : Nat}
    {path : List (Bool × Value)} {ending : NestEnd}
    (decides : Decides ask values params taken) (branch : chosenBranch params taken = some v)
    (entry : writtenType v = some written) (called : invocationOf v = .ok call)
    (conditional : call.type = "conditional_action")
    (inner : Nest ask values n call.parameters path ending) :
    Nest ask values (n + 1) params ((taken, written) :: path) ending

/-- Of every conditional action that selects a branch the path has a level. -/
theorem Nest.length_path {ask : String → Value → Except Fault Value} {values : Value} {n : Nat}
    {params : Fields} {path : List (Bool × Value)} {ending : NestEnd}
    (hnest : Nest ask values n params path ending) : match ending with
      | .absent _ => path.length + 1 = n
      | .leaf _ => path.length = n := by
  induction hnest with
  | absent decides branch => rfl
  | leaf decides branch entry called => rfl
  | @nested _ _ _ _ _ n path ending decides branch entry called conditional inner ih =>
    cases ending with
    | absent taken => exact congrArg (· + 1) ih
    | leaf call => exact congrArg (· + 1) ih

/-- What a conditional action gives back that ran a branch. -/
def branchRecord (taken : Bool) (actionType result : Value) : Value :=
  .map [("condition_result", .bool taken), ("executed", .bool true), ("action", actionType),
    ("result", result)]

/-- What a conditional action gives back that ran nothing. -/
def idleRecord (taken : Bool) (now : String) : Value :=
  .map [("condition_result", .bool taken), ("executed", .bool false), ("timestamp", .text now)]

/-- The records of a path around the result at its end. -/
def nestedRecords (path : List (Bool × Value)) (result : Value) : Value :=
  path.foldr (fun level result => branchRecord level.1 level.2 result) result

/-! ## Levels -/

section Levels

variable {host : Host α} {ctx : Context} {h : Hub α} {params : Fields} {taken : Bool} {v written : Value}
  {call : ActionInvocation}

theorem Decides.outcome (hd : Decides host.app.ask ctx.templateValues params taken) (h : Hub α) :
    Task.outcome (branchOutcome host params ctx) h = (.ok taken, h) := by
  unfold branchOutcome
  dsimp only
  rw [if_neg (by rw [hd.1]; exact Bool.false_ne_true), hd.2]
  rfl

/-- A level without a branch runs nothing. -/
theorem outcome_conditional_idle (hd : Decides host.app.ask ctx.templateValues params taken)
    (hb : chosenBranch params taken = none) (h : Hub α) :
    outcome (runHandler host (.stock .conditional) params ctx) h =
      (.ok (idleRecord taken h.now.text), h) := by
  rw [runHandler_conditional, outcome_bind_ok (hd.outcome h), hb]
  rfl

/-- A level runs its branch as the desk runs any invocation whose tokens are resolved. -/
theorem outcome_conditional (hd : Decides host.app.ask ctx.templateValues params taken)
    (hb : chosenBranch params taken = some v) (he : writtenType v = some written)
    (hc : invocationOf v = .ok call) (h : Hub α) :
    outcome (runHandler host (.stock .conditional) params ctx) h =
      outcome (do
        let result ← executeCall host call ctx false
        return branchRecord taken written result) h := by
  obtain ⟨fields, hfields, rfl⟩ := Option.map_eq_some_iff.1 he
  have hran (result : Value) : ranBranch (α := α) taken v result =
      pure (branchRecord taken (Value.get fields "type") result) := by
    unfold ranBranch
    rw [hfields]
    rfl
  have hprepared : preparedParameters call ctx false = .ok call.parameters := rfl
  rw [runHandler_conditional, outcome_bind_ok (hd.outcome h), hb]
  simp only [hc, hran, ofExcept_ok_bind, executeCall, hprepared, bind_assoc]

theorem outcome_executeCall_unknown (hn : h.desk.has call.type = false) (resolve : Bool) :
    outcome (executeCall host call ctx resolve) h = (.error (.actionNotFound call.type), h) :=
  outcome_bind_error (findHandler_eq_error hn)

/-- The desk runs the handler of an invocation with the parameters that were prepared, and counts it. -/
theorem outcome_executeCall_prepared {handler : ActionHandler} {resolve : Bool}
    (hd : Assoc.get? h.desk.actions call.type = some handler)
    (hp : preparedParameters call ctx resolve = .ok params) :
    outcome (executeCall host call ctx resolve) h =
      outcome (counted call.type ctx (runHandler host handler params ctx)) h := by
  rw [executeCall, outcome_bind_ok (outcome_findHandler hd), hp, ofExcept_ok_bind]

end Levels

/-! ## Paths -/

section Paths

variable {host : Host α} {ctx : Context} {h left : Hub α} {n : Nat} {params : Fields}
  {path : List (Bool × Value)} {ending : NestEnd} {fault : Fault}

/-- The desk runs the first conditional action of a nest, with its tokens resolved, and counts it. -/
def runNest (host : Host α) (params : Fields) (ctx : Context) : Task α Value :=
  counted "conditional_action" ctx (runHandler host (.stock .conditional) params ctx)

/-- An invocation of a conditional action runs the nest of the parameters that were prepared for it. -/
theorem outcome_executeCall_nest {call : ActionInvocation} {resolve : Bool}
    (hcall : call.type = "conditional_action")
    (hdesk : Assoc.get? h.desk.actions "conditional_action" = some (.stock .conditional))
    (hp : preparedParameters call ctx resolve = .ok params) :
    outcome (executeCall host call ctx resolve) h = outcome (runNest host params ctx) h := by
  rw [outcome_executeCall_prepared (hcall ▸ hdesk) hp, hcall, runNest]

theorem nameFault_of_ofAction (actionType : String) (hf : fault.ofAction = true) :
    nameFault actionType fault = fault := if_pos hf

theorem ofAction_nameFault (actionType : String) : (nameFault actionType fault).ofAction = true := by
  unfold nameFault
  split
  · assumption
  · rfl

/-- What comes back from an inner nest comes back from the outer one: a result in a record, a fault as it
is. -/
theorem outcome_runNest_inner {taken : Bool} {v written : Value} {call : ActionInvocation}
    (hd : Decides host.app.ask ctx.templateValues params taken)
    (hb : chosenBranch params taken = some v) (he : writtenType v = some written)
    (hc : invocationOf v = .ok call) {r : Except Fault Value} {inner : Hub α} {s f : Nat}
    {before : Hub α} (hrun : outcome (executeCall host call ctx false) h = (r, inner))
    (hcounted : before.Counted left inner s f) :
    ∃ after, match r with
      | .ok result => outcome (runNest host params ctx) h =
          (.ok (branchRecord taken written result), after) ∧ before.Counted left after (s + 1) f
      | .error fault => outcome (runNest host params ctx) h =
          (.error (nameFault "conditional_action" fault), after) ∧ before.Counted left after s (f + 1) := by
  have hlevel := outcome_conditional hd hb he hc h
  cases r with
  | ok result =>
    rw [outcome_bind_ok hrun] at hlevel
    exact ⟨_, outcome_counted_ok _ ctx hlevel, hcounted.succeed _ _⟩
  | error fault =>
    rw [outcome_bind_error hrun] at hlevel
    obtain ⟨lines, houtcome⟩ := outcome_counted_error "conditional_action" ctx hlevel
    exact ⟨_, houtcome, hcounted.fail _ _ _ lines⟩

/-- At the end of the path an action was run: its result comes back in one record after the other, and its
fault under the name that it was first given. By induction on the path. -/
theorem Nest.outcome_leaf {leaf : ActionInvocation}
    (hnest : Nest host.app.ask ctx.templateValues n params path (.leaf leaf))
    (hdesk : Assoc.get? h.desk.actions "conditional_action" = some (.stock .conditional))
    {r : Except Fault Value} (hrun : outcome (executeCall host leaf ctx false) h = (r, left)) :
    ∃ after, match r with
      | .ok result => outcome (runNest host params ctx) h = (.ok (nestedRecords path result), after) ∧
          left.Counted left after n 0
      | .error fault => outcome (runNest host params ctx) h =
          (.error (nameFault "conditional_action" fault), after) ∧ left.Counted left after 0 n := by
  -- The ending is fixed in the statement, and the induction needs it as a variable.
  generalize hending : NestEnd.leaf leaf = ending at hnest
  induction hnest with
  | absent decides branch => cases hending
  | leaf decides branch entry called =>
    cases hending
    exact outcome_runNest_inner decides branch entry called hrun (.of_counts rfl)
  | @nested params taken v written call n path ending decides branch entry called conditional inner ih =>
    obtain ⟨after, hinner⟩ := ih hending
    have hcall : outcome (executeCall host call ctx false) h =
        outcome (runNest host call.parameters ctx) h := outcome_executeCall_nest conditional hdesk rfl
    cases r with
    | ok result =>
      obtain ⟨hinner, hcounted⟩ := hinner
      exact outcome_runNest_inner decides branch entry called (hcall.trans hinner) hcounted
    | error fault =>
      obtain ⟨hinner, hcounted⟩ := hinner
      obtain ⟨after', houter, hcounted'⟩ :=
        outcome_runNest_inner decides branch entry called (hcall.trans hinner) hcounted
      -- The fault has been named by the level below, and no level names it anew.
      rw [nameFault_of_ofAction _ (ofAction_nameFault _)] at houter
      exact ⟨after', houter, hcounted'⟩

/-- At the end of the path is no branch, and nothing was run. By induction on the path. -/
theorem Nest.outcome_absent {taken : Bool}
    (hnest : Nest host.app.ask ctx.templateValues n params path (.absent taken))
    (hdesk : Assoc.get? h.desk.actions "conditional_action" = some (.stock .conditional)) :
    ∃ after, outcome (runNest host params ctx) h =
        (.ok (nestedRecords path (idleRecord taken h.now.text)), after) ∧ h.Counted h after n 0 := by
  generalize hending : NestEnd.absent taken = ending at hnest
  induction hnest with
  | absent decides branch =>
    cases hending
    have hlevel := outcome_conditional_idle decides branch h
    exact ⟨_, outcome_counted_ok _ ctx hlevel, (Hub.Counted.of_counts rfl).succeed _ _⟩
  | leaf decides branch entry called => cases hending
  | @nested params taken' v written call n path ending decides branch entry called conditional inner ih =>
    obtain ⟨after, hinner, hcounted⟩ := ih hending
    have hcall : outcome (executeCall host call ctx false) h =
        outcome (runNest host call.parameters ctx) h := outcome_executeCall_nest conditional hdesk rfl
    exact outcome_runNest_inner decides branch entry called (hcall.trans hinner) hcounted

/-- A nest of conditional actions, whose conditions come to what they come to without raising, when it has
its tokens resolved. Nothing is run but the action at the end of the selected path, once: nothing else is left
of the nest than what the desk counted and logged.

If the action gives a result, this comes back in the records of the nest, and a run more than the nest has
levels is counted as a success. If it raises, its fault comes back with its text, under its type, and as many
runs are counted as failures. If nobody knows the action, its fault has the type of the last level, and every
level is counted as a failure; if there is no branch at the end, every level is counted as a success. The
action is one that does not use the desk.

Whatever is invoked, the desk stays balanced, if functions and whoever is notified keep it so. -/
theorem executeCall_nest (host : Host α) {call : ActionInvocation} (ctx : Context) (resolve : Bool)
    (hcall : call.type = "conditional_action")
    (hdesk : Assoc.get? h.desk.actions "conditional_action" = some (.stock .conditional))
    (hparams : preparedParameters call ctx resolve = .ok params)
    (hnest : Nest host.app.ask ctx.templateValues n params path ending) :
    let run := outcome (executeCall host call ctx resolve) h
    (match ending with
    | .absent taken => path.length + 1 = n ∧
      run.1 = .ok (nestedRecords path (idleRecord taken h.now.text)) ∧ h.Counted h run.2 n 0
    | .leaf leaf => path.length = n ∧
      (h.desk.has leaf.type = false →
        run.1 = .error (.action "conditional_action" s!"Unknown action type: {leaf.type}"
          (some (.actionNotFound leaf.type))) ∧ h.Counted h run.2 0 n) ∧
      ∀ handler r left, Assoc.get? h.desk.actions leaf.type = some handler →
        outcome (runHandler host handler leaf.parameters ctx) h = (r, left) →
        left.desk.counts = h.desk.counts →
        match r with
        | .ok result => run.1 = .ok (nestedRecords path result) ∧ h.Counted left run.2 (n + 1) 0
        | .error fault => fault.ofAction = false →
          run.1 = .error (.action leaf.type fault.message (some fault)) ∧ h.Counted left run.2 0 (n + 1)) ∧
    (∀ left succeeded failed, h.Counted left run.2 succeeded failed → h.desk.Balanced →
      run.2.desk.Balanced) ∧
    (host.ActsWithin .deskBalanced → host.ReportsWithin .deskBalanced Topic.notification →
      ∀ call ctx resolve, Within .deskBalanced (executeCall host call ctx resolve)) := by
  intro run
  have hrun : run = outcome (runNest host params ctx) h := outcome_executeCall_nest hcall hdesk hparams
  -- The balance follows from the counts; what is left is how the nest ends.
  refine ⟨?_, fun left s f hc => hc.balanced, fun ha hn call ctx resolve =>
    within_executeCall Frame.deskBalanced_open ha hn call ctx resolve⟩
  rw [hrun]
  cases ending with
  | absent taken =>
    obtain ⟨after, hnested, hcounted⟩ := hnest.outcome_absent hdesk
    rw [hnested]
    exact ⟨hnest.length_path, rfl, hcounted⟩
  | leaf leaf =>
    -- An action is at the end: one that nobody knows, or one whose handler returns or raises.
    refine ⟨hnest.length_path, fun hunknown => ?_, fun handler r left hhandler hleaf hquiet => ?_⟩
    · obtain ⟨after, hnested, hcounted⟩ :=
        hnest.outcome_leaf hdesk (outcome_executeCall_unknown hunknown false)
      rw [hnested]
      exact ⟨rfl, hcounted⟩
    · have hcall : outcome (executeCall host leaf ctx false) h =
          outcome (counted leaf.type ctx (runHandler host handler leaf.parameters ctx)) h :=
        outcome_executeCall_prepared hhandler rfl
      -- The handler itself left the counters alone, so all runs that are counted are those of the levels.
      have hnothing : h.Counted left left 0 0 := .of_counts hquiet
      cases r with
      | ok result =>
        obtain ⟨after, hnested, hcounted⟩ :=
          hnest.outcome_leaf hdesk (hcall.trans (outcome_counted_ok leaf.type ctx hleaf))
        rw [hnested]
        exact ⟨rfl, (hnothing.succeed _ _).trans hcounted⟩
      | error fault =>
        intro hfault
        obtain ⟨lines, hfailed⟩ := outcome_counted_error leaf.type ctx hleaf
        obtain ⟨after, hnested, hcounted⟩ := hnest.outcome_leaf hdesk (hcall.trans hfailed)
        rw [hnested, nameFault_of_ofAction _ (ofAction_nameFault _), nameFault, if_neg (by simp [hfault])]
        exact ⟨rfl, (hnothing.fail _ _ _ lines).trans hcounted⟩

end Paths

/-- Functions that raise. -/
def Application.exploding : Application Unit where
  ask _ _ := .ok .null
  act _ name _ _ := throw (.raised .runtime name)
  serve _ _ _ := return ()

/-- A desk with the conditional action and a function that raises. -/
def Hub.mined : Hub Unit :=
  let h := Hub.atMidnight ()
  { h with desk := { h.desk with
      actions := [("conditional_action", .stock .conditional), ("boom", .function "boom")] } }

/-- The second of two conditional actions leads to the function. The first has another branch that is no
invocation. -/
def fuse : ActionInvocation :=
  ⟨"conditional_action", [("condition", .bool false), ("true_action", .int 7), ("false_action", .map [
    ("type", .text "conditional_action"), ("parameters", .map [("condition", .bool true),
      ("true_action", .map [("type", .text "boom")])])])]⟩

theorem fuse_nest : Nest Application.exploding.ask (Context.bare "2024-01-01T00:00:00").templateValues 2
    fuse.parameters [(false, .text "conditional_action"), (true, .text "boom")] (.leaf ⟨"boom", []⟩) :=
  .nested ⟨rfl, rfl⟩ rfl rfl rfl rfl (.leaf ⟨rfl, rfl⟩ rfl rfl rfl)

/-- The fault of the function comes back through both levels, and three runs have failed. -/
theorem executeCall_nest_fuse :
    (fuse.type = "conditional_action" ∧
      Assoc.get? Hub.mined.desk.actions "conditional_action" = some (.stock .conditional) ∧
      preparedParameters fuse (Context.bare "2024-01-01T00:00:00") true = .ok fuse.parameters ∧
      Nest Application.exploding.ask (Context.bare "2024-01-01T00:00:00").templateValues 2 fuse.parameters
        [(false, .text "conditional_action"), (true, .text "boom")] (.leaf ⟨"boom", []⟩)) ∧
    let run := outcome (executeCall Application.exploding.host fuse (Context.bare "2024-01-01T00:00:00") true)
      Hub.mined
    run.1 = .error (.action "boom" "boom" (some (.raised .runtime "boom"))) ∧
      run.2.desk.counts = (3, 0, 3) := by
  have hprepared : preparedParameters fuse (Context.bare "2024-01-01T00:00:00") true = .ok fuse.parameters :=
    rfl
  obtain ⟨⟨-, -, hknown⟩, -, -⟩ := executeCall_nest Application.exploding.host
    (Context.bare "2024-01-01T00:00:00") true (h := Hub.mined) rfl rfl hprepared fuse_nest
  have hleaf : outcome (runHandler Application.exploding.host (.function "boom") []
      (Context.bare "2024-01-01T00:00:00")) Hub.mined = (.error (.raised .runtime "boom"), Hub.mined) := by
    rw [runHandler]
    rfl
  obtain ⟨hresult, hcounted⟩ := hknown (.function "boom") _ _ rfl hleaf rfl rfl
  exact ⟨⟨rfl, rfl, hprepared, fuse_nest⟩, hresult,
    Prod.ext hcounted.total (Prod.ext hcounted.succeeded hcounted.failed)⟩

end EventHub
