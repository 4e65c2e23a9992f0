import EventHub.Hub.State
import EventHub.Template

/-!
# Transforms

A transform makes a value of a source: through a template, whose tokens also name the keys of the
source, or by a function of the application, which may change the source.

* `applyTransform`: what a transform makes.
-/

namespace EventHub

variable {α : Type}

/-- An answer that leaves the value as it is. -/
def Reply.ofAnswer (answer argument : Value) : Reply := ⟨answer, argument, none⟩

/-- The table of a context with the keys of a source over it. -/
def valuesWith (ctx : Context) (source : Value) : Value :=
  if source.isMap then ctx.templateValues.update source else ctx.templateValues

/-- Applies a transform to a source. -/
def applyTransform (host : Host α) (source spec : Value) (ctx : Context) : Task α Reply := do
  let fields ← match spec.fields? with
    | some fields => pure fields
    | none => throw (.noMember spec.typeName "get")
  match Value.get fields "type" with
  | .text "template" =>
    let answer ← Task.ofExcept ((valuesWith ctx source).resolve (Value.get fields "template"))
    return .ofAnswer answer source
  | .text "function" =>
    match Value.get fields "function" with
    | .function name => host.app.act host.receive name source ctx
    | _ => throw (.raised .value "function transform requires a callable")
  | kind => throw (.raised .value ("Unknown transform type: " ++ kind.plain))

end EventHub
