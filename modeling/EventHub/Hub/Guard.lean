import EventHub.Hub.State

/-!
# Guarded tasks

* `Task.guarded`: a task whose fault is logged, with a value to go on with.
-/

namespace EventHub.Task

variable {α β : Type}

/-- Runs a task. A fault is logged by the part, if one is given, and the fallback taken. -/
def guarded (part : Option String) (name : String) (extra : Fields) (fallback : β)
    (t : Task α β) : Task α β := do
  match ← attempt t with
  | .ok b => return b
  | .error fault =>
    if let some part := part then logFault part s!"{name} failed" extra fault
    return fallback

end EventHub.Task
