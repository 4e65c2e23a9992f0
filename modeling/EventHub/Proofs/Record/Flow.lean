import EventHub.Proofs.Record.Rule
import EventHub.Record.Flow

/-!
# Flows and events from values

A checked flow has of each field what its check gives (`Flow.ofFields_eq_ok`), and so have checked
metadata (`FlowMetadata.check_eq_ok`) and a checked event (`Event.ofFields_eq_ok`).
-/

namespace EventHub

theorem Flow.ofFields_eq_ok {now : String} {fields : Fields} {f : Flow} :
    Flow.ofFields now fields = .ok f ↔
      defaulted fields "id" none (optional checkText) = .ok f.id ∧
      required fields "name" checkName = .ok f.name ∧
      defaulted fields "description" "" checkText = .ok f.description ∧
      required fields "steps" (checkSome Step.check) = .ok f.steps ∧
      defaulted fields "metadata" (FlowMetadata.fresh now) (FlowMetadata.checkOrNull now) =
        .ok f.metadata := by
  simp only [Flow.ofFields, Checked.apply_eq_ok]
  constructor
  · rintro ⟨_, m, ⟨_, s, ⟨_, d, ⟨_, n, ⟨_, i, hf, hi, rfl⟩, hn, rfl⟩, hd, rfl⟩, hs, rfl⟩, hm, rfl⟩
    cases hf
    exact ⟨hi, hn, hd, hs, hm⟩
  · rintro ⟨hi, hn, hd, hs, hm⟩
    exact ⟨_, _, ⟨_, _, ⟨_, _, ⟨_, _, ⟨_, _, rfl, hi, rfl⟩, hn, rfl⟩, hd, rfl⟩, hs, rfl⟩, hm, rfl⟩

theorem FlowMetadata.check_eq_ok {now : String} {fields : Fields} {m : FlowMetadata} :
    FlowMetadata.check now (.map fields) = .ok m ↔
      defaulted fields "enabled" true checkBool = .ok m.enabled ∧
      defaulted fields "category" none (optional checkText) = .ok m.category ∧
      defaulted fields "auto_generated" false checkBool = .ok m.autoGenerated ∧
      defaulted fields "event_type" none (optional checkText) = .ok m.eventType ∧
      defaulted fields "created_at" now checkText = .ok m.createdAt ∧
      defaulted fields "updated_at" now checkText = .ok m.updatedAt := by
  have he : FlowMetadata.check now (.map fields) = Checked.apply _ _ := Eq.refl _
  rw [he]
  simp only [Checked.apply_eq_ok]
  constructor
  · rintro ⟨_, u, ⟨_, c, ⟨_, t, ⟨_, a, ⟨_, k, ⟨_, e, hf, he, rfl⟩, hk, rfl⟩, ha, rfl⟩, ht, rfl⟩, hc, rfl⟩,
      hu, rfl⟩
    cases hf
    exact ⟨he, hk, ha, ht, hc, hu⟩
  · rintro ⟨he, hk, ha, ht, hc, hu⟩
    exact ⟨_, _, ⟨_, _, ⟨_, _, ⟨_, _, ⟨_, _, ⟨_, _, rfl, he, rfl⟩, hk, rfl⟩, ha, rfl⟩, ht, rfl⟩, hc, rfl⟩,
      hu, rfl⟩

theorem Flow.check_map (now : String) (fields : Fields) :
    Flow.check now (.map fields) = Flow.ofFields now fields := Eq.refl _

theorem Event.ofFields_eq_ok {freshId : String} {fields : Fields} {e : Event} :
    Event.ofFields freshId fields = .ok e ↔
      defaulted fields "id" freshId checkText = .ok e.id ∧
      required fields "type" checkName = .ok e.type ∧
      required fields "source" checkName = .ok e.source ∧
      required fields "timestamp" checkTimestamp = .ok e.timestamp ∧
      defaulted fields "data" [] checkMapOrNull = .ok e.data ∧
      defaulted fields "metadata" [] checkMapOrNull = .ok e.metadata := by
  simp only [Event.ofFields, Checked.apply_eq_ok]
  constructor
  · rintro ⟨_, m, ⟨_, d, ⟨_, t, ⟨_, s, ⟨_, k, ⟨_, i, hf, hi, rfl⟩, hk, rfl⟩, hs, rfl⟩, ht, rfl⟩,
      hd, rfl⟩, hm, rfl⟩
    cases hf
    exact ⟨hi, hk, hs, ht, hd, hm⟩
  · rintro ⟨hi, hk, hs, ht, hd, hm⟩
    exact ⟨_, _, ⟨_, _, ⟨_, _, ⟨_, _, ⟨_, _, ⟨_, _, rfl, hi, rfl⟩, hk, rfl⟩, hs, rfl⟩, ht, rfl⟩,
      hd, rfl⟩, hm, rfl⟩

end EventHub
