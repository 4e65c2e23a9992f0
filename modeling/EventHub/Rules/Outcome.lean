import EventHub.Fault

/-!
# What came of rules

The results of the actions of a rule that was run, and of all rules that an event ran.

* `RuleRun.failures`: the actions that failed.
* `RuleRuns.processed_iff`: an event is processed when it ran a rule.
-/

namespace EventHub

/-- The result of one action of a rule. -/
structure ActionOutcome where
  action : String
  result : Except Fault Value

/-- The results of a rule that was run, in the order of its actions. -/
structure RuleRun where
  ruleId : String
  ruleName : String
  eventId : String
  outcomes : List ActionOutcome
  timestamp : String

/-- The rules that an event ran. -/
abbrev RuleRuns := List RuleRun

/-- The fault of an action, if it failed. -/
def ActionOutcome.fault? (o : ActionOutcome) : Option Fault :=
  match o.result with
  | .ok _ => none
  | .error fault => some fault

/-- The outcome as a value. -/
def ActionOutcome.toValue (o : ActionOutcome) : Value :=
  match o.result with
  | .ok v => .map [("action", .text o.action), ("success", .bool true), ("result", v)]
  | .error fault =>
    .map [("action", .text o.action), ("success", .bool false), ("error", .text fault.message)]

/-- The faults of the actions that failed. -/
def RuleRun.failures (r : RuleRun) : List Fault := r.outcomes.filterMap ActionOutcome.fault?

/-- The run as a value. -/
def RuleRun.toValue (r : RuleRun) : Value :=
  .map [("rule_id", .text r.ruleId), ("rule_name", .text r.ruleName),
    ("event_id", .text r.eventId), ("results", .list (r.outcomes.map ActionOutcome.toValue)),
    ("timestamp", .text r.timestamp)]

/-- Did the event run a rule? -/
def RuleRuns.processed (runs : RuleRuns) : Bool := !runs.isEmpty

/-- The runs as a value. -/
def RuleRuns.toValue (runs : RuleRuns) : Value :=
  .map [("processed", .bool (RuleRuns.processed runs)), ("rules_matched", .int runs.length),
    ("executions", .list (runs.map RuleRun.toValue))]

theorem RuleRuns.processed_iff (runs : RuleRuns) :
    RuleRuns.processed runs = true ↔ 0 < runs.length := by
  cases runs <;> simp [processed]

end EventHub
