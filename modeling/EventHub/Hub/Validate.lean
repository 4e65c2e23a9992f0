import EventHub.Hub.State
import EventHub.Record.Any

/-!
# Records from values

Values that an application gives in place of records. An event that comes without an id draws
one; whatever is wrong is told at once.

* `validRecord`, `validEvent`, `validRule`, `validFlow`: the records of values.
-/

namespace EventHub

variable {α : Type}

/-- The result of a check, or a fault with its issues. -/
def validated {β : Type} (name : String) : Checked β → Task α β
  | .ok b => return b
  | .error issues => throw (.validation name issues)

/-- An id for a value that needs one to become a record of the kind. -/
def idFor (kind : RecordKind) (v : Value) : Task α String :=
  if kind.needsId v then Task.freshId "event" else return ""

/-- A record of a kind, as a value. -/
def validRecord (kind : RecordKind) (v : Value) : Task α Value := do
  let fresh ← idFor kind v
  validated kind.name (kind.check (← Task.now) fresh v)

/-- An event. -/
def validEvent (v : Value) : Task α Event := do
  validated RecordKind.event.name (Event.check (← idFor .event v) v)

/-- A rule. -/
def validRule (v : Value) : Task α Rule := do
  validated RecordKind.rule.name (Rule.check (← Task.now) v)

/-- A flow. -/
def validFlow (v : Value) : Task α Flow := do
  validated RecordKind.flow.name (Flow.check (← Task.now) v)

end EventHub
