import EventHub.Flows.Listen
import EventHub.Proofs.Frame
import EventHub.Proofs.Record.Flow

/-!
# The flow of an event that no rule handles

The definition that is made for such an event always describes a flow (`genericFlow_check`): one that
logs the event in a single step. The flow is made at the hub and not registered
(`outcome_makeGenericFlow`).
-/

namespace EventHub

open EventHub.Task

variable {α : Type}

/-- The call that logs an event. -/
def genericCall (e : Event) : ActionInvocation :=
  ⟨"log_event", [("level", .text "info"), ("message", .text s!"Generic event {e.type} detected"),
    ("data", .map [("event_type", .text e.type), ("source", .text e.source),
      ("timestamp", .text e.timestamp), ("data", .map e.data)])]⟩

/-- The step that logs an event. -/
def genericStep (e : Event) : Step := .action "generic-log" (genericCall e)

/-- The flow that logs an event. -/
def genericFlowOf (now id : String) (e : Event) : Flow where
  id := some id
  name := s!"Generic {e.type} Flow"
  description := s!"Auto-generated flow for generic event type: {e.type}"
  steps := [genericStep e]
  metadata := ⟨true, some genericCategory, true, some e.type, now, now⟩

/-- The definition always describes the flow. -/
theorem genericFlow_check (now id : String) (e : Event) :
    Flow.check now (genericFlow id e) = .ok (genericFlowOf now id e) := by
  have hname : s!"Generic {e.type} Flow" ≠ "" := by
    simp only [ne_eq, String.append_eq_empty_iff]
    exact fun h => absurd h.1.1 (by decide)
  unfold genericFlow
  rw [Flow.check_map]
  refine (Flow.ofFields_eq_ok (f := genericFlowOf now id e)).2 ?_
  exact ⟨rfl, required_eq_ok.2 ⟨"name", _, rfl, checkName_text hname⟩, rfl, rfl, rfl⟩

/-- The id of the flow that the hub makes for the event. -/
def Hub.genericId (h : Hub α) (e : Event) : String :=
  s!"generic-{e.type}-{Task.idDigits (h.serial + 1)}"

theorem outcome_makeGenericFlow (e : Event) (h : Hub α) :
    outcome (makeGenericFlow e) h =
      (.ok (genericFlowOf h.now.text (h.genericId e) e), { h with serial := h.serial + 1 }) := by
  have hid : outcome (Task.freshId (α := α) s!"generic-{e.type}") h =
    (.ok (h.genericId e), { h with serial := h.serial + 1 }) := rfl
  unfold makeGenericFlow
  rw [outcome_bind_ok hid, outcome_bind_ok (outcome_now _), genericFlow_check]
  rfl

end EventHub
