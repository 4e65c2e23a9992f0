import EventHub.Flows.Book
import EventHub.Proofs.Record.Flow

/-!
# Checks at other times

The time of a check is the default of the times in the metadata of a record, and nothing else. So a
definition that describes a rule or a flow at one time describes one with the same id at any other.

* **Metadata** (`RuleMetadata.check_elsewhen`, `FlowMetadata.check_elsewhen`)
* **Records** (`Definition.toRule_elsewhen`, `Definition.toFlow_elsewhen`)
-/

namespace EventHub

variable {α β : Type} {now : String}

/-! ## Metadata -/

theorem Checked.isOk_apply (f : Checked (α → β)) (a : Checked α) :
    (Checked.apply f a).isOk = (f.isOk && a.isOk) := by
  cases f <;> cases a <;> rfl

/-- Whether a field passes its check does not depend on its default. -/
theorem isOk_defaulted (fields : Fields) (name : String) (default default' : α)
    (check : Value → Checked α) : (defaulted fields name default check).isOk =
      (defaulted fields name default' check).isOk := by
  unfold defaulted
  split <;> rfl

theorem isOk_iff {ε : Type} {x : Except ε α} : x.isOk = true ↔ ∃ a, x = .ok a := by
  cases x <;> simp [Except.isOk, Except.toBool]

/-- Times that follow other fields pass their checks whatever their defaults are. -/
theorem isOk_timed (front : Checked (String → String → α)) (fields : Fields) (now now' : String) :
    ((front.apply (defaulted fields "created_at" now checkText)).apply
        (defaulted fields "updated_at" now checkText)).isOk =
      ((front.apply (defaulted fields "created_at" now' checkText)).apply
        (defaulted fields "updated_at" now' checkText)).isOk := by
  simp only [Checked.isOk_apply, isOk_defaulted fields "created_at" now now',
    isOk_defaulted fields "updated_at" now now']

theorem elsewhen_of_isOk {x x' : Checked α} (hx : x.isOk = x'.isOk) {a : α} (h : x = .ok a) :
    ∃ a', x' = .ok a' := isOk_iff.1 (hx ▸ isOk_iff.2 ⟨a, h⟩)

theorem RuleMetadata.check_elsewhen {v : Value} {m : RuleMetadata}
    (h : RuleMetadata.checkOrNull now v = .ok m) (now' : String) :
    ∃ m', RuleMetadata.checkOrNull now' v = .ok m' := by
  have hcheck (v : Value) : (RuleMetadata.check now v).isOk = (RuleMetadata.check now' v).isOk := by
    unfold RuleMetadata.check
    cases recordEntries .ruleMetadata v with
    | error issues => rfl
    | ok fields => exact isOk_timed _ fields now now'
  cases v
  case null => exact ⟨_, rfl⟩
  all_goals exact elsewhen_of_isOk (hcheck _) h

theorem FlowMetadata.check_elsewhen {v : Value} {m : FlowMetadata}
    (h : FlowMetadata.checkOrNull now v = .ok m) (now' : String) :
    ∃ m', FlowMetadata.checkOrNull now' v = .ok m' := by
  have hcheck (v : Value) : (FlowMetadata.check now v).isOk = (FlowMetadata.check now' v).isOk := by
    unfold FlowMetadata.check
    cases recordEntries .flowMetadata v with
    | error issues => rfl
    | ok fields => exact isOk_timed _ fields now now'
  cases v
  case null => exact ⟨_, rfl⟩
  all_goals exact elsewhen_of_isOk (hcheck _) h

/-- A field whose check passes at one time passes it at another. -/
theorem defaulted_elsewhen {fields : Fields} {name : String} {default : α} (default' : α)
    {check check' : Value → Checked α} {a : α}
    (hc : ∀ v a, check v = .ok a → ∃ a', check' v = .ok a')
    (h : defaulted fields name default check = .ok a) :
    ∃ a', defaulted fields name default' check' = .ok a' := by
  unfold defaulted at h ⊢
  split at h
  · rename_i given v _
    obtain ⟨a', ha'⟩ := hc v a (Checked.within_eq_ok.1 h)
    exact ⟨a', Checked.within_eq_ok.2 ha'⟩
  · exact ⟨default', rfl⟩

/-! ## Records -/

theorem Rule.check_elsewhen {v : Value} {r : Rule} (h : Rule.check now v = .ok r) (now' : String) :
    ∃ r', Rule.check now' v = .ok r' ∧ r'.id = r.id := by
  obtain ⟨fields, hf, h⟩ := bind_eq_ok.1 h
  obtain ⟨hid, hname, hdescription, hconditions, hactions, hmetadata⟩ := Rule.ofFields_eq_ok.1 h
  obtain ⟨metadata, hm⟩ := defaulted_elsewhen (RuleMetadata.fresh now')
    (fun _ _ hv => RuleMetadata.check_elsewhen hv now') hmetadata
  exact ⟨{ r with metadata }, bind_eq_ok.2 ⟨fields, hf, Rule.ofFields_eq_ok.2
    ⟨hid, hname, hdescription, hconditions, hactions, hm⟩⟩, rfl⟩

theorem Flow.check_elsewhen {v : Value} {f : Flow} (h : Flow.check now v = .ok f) (now' : String) :
    ∃ f', Flow.check now' v = .ok f' ∧ f'.id = f.id := by
  obtain ⟨fields, hf, h⟩ := bind_eq_ok.1 h
  obtain ⟨hid, hname, hdescription, hsteps, hmetadata⟩ := Flow.ofFields_eq_ok.1 h
  obtain ⟨metadata, hm⟩ := defaulted_elsewhen (FlowMetadata.fresh now')
    (fun _ _ hv => FlowMetadata.check_elsewhen hv now') hmetadata
  exact ⟨{ f with metadata }, bind_eq_ok.2 ⟨fields, hf, Flow.ofFields_eq_ok.2
    ⟨hid, hname, hdescription, hsteps, hm⟩⟩, rfl⟩

/-- A definition describes a rule at all times or at none, with the same id. -/
theorem Definition.toRule_elsewhen {d : Definition Rule} {r : Rule} (h : d.toRule now = .ok r)
    (now' : String) : ∃ r', d.toRule now' = .ok r' ∧ r'.id = r.id := by
  cases d with
  | document v =>
    obtain ⟨entries, hv, h⟩ := bind_eq_ok.1 h
    split at h
    · rename_i found hfound
      cases h
      obtain ⟨r', hr', hid⟩ := Rule.check_elsewhen hfound now'
      exact ⟨r', bind_eq_ok.2 ⟨entries, hv, by rw [hr']⟩, hid⟩
    · cases h
  | checked given =>
    unfold toRule at h ⊢
    dsimp only at h ⊢
    split at h
    · rename_i found hfound
      obtain ⟨r', hr', hid⟩ := Rule.check_elsewhen hfound now'
      rw [hr']
      refine ⟨_, rfl, ?_⟩
      cases h
      split <;> exact hid
    · cases h

/-- A definition describes a flow at all times or at none, with the same id. -/
theorem Definition.toFlow_elsewhen {d : Definition Flow} {f : Flow} (h : d.toFlow now = .ok f)
    (now' : String) : ∃ f', d.toFlow now' = .ok f' ∧ f'.id = f.id := by
  cases d with
  | document v =>
    obtain ⟨entries, hv, h⟩ := bind_eq_ok.1 h
    split at h
    · rename_i found hfound
      cases h
      obtain ⟨f', hf', hid⟩ := Flow.check_elsewhen hfound now'
      exact ⟨f', bind_eq_ok.2 ⟨entries, hv, by rw [hf']⟩, hid⟩
    · cases h
  | checked given => exact ⟨f, h, rfl⟩

end EventHub
