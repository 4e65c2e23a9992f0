import EventHub.Proofs.Discovery.NewFields

/-!
# The rule of an event type

The rule that is made for a newly seen event type, and what becomes of it when fields are discovered.

* **Form** (`Rule.IsAuto`): what such a rule looks like after any number of discoveries: its metadata
  and its log action know the same names, and it still publishes as it did when it was made.
* **Making** (`autoRule_toRule`, `autoRuleOf_isAuto`): the definition that is made for a type describes
  such a rule.
* **Extending** (`IsAuto.extend`): names that the rule does not know give an update, and the update
  gives the rule that knows them, too.
-/

namespace EventHub

/-! ## The form of the rule -/

/-- What a log action keeps of the names that were discovered. -/
def loggedFields (known : List String) : Option Value :=
  if known = [] then none else some (.list (known.map .text))

theorem recordedIn_of_loggedFields {data : Fields} {known : List String}
    (h : Assoc.get? data "new_fields" = loggedFields known) : recordedIn data = known.map .text := by
  by_cases hknown : known = []
  · rw [recordedIn, h, loggedFields, if_pos hknown, hknown, List.map_nil]
  · rw [recordedIn, h, loggedFields, if_neg hknown]

/-- The parameters with which the rule of an event type publishes its events again. -/
def republishing (t : String) : Fields :=
  [("topic", .text (republishTopic t)),
    ("payload", .map [("type", .text t), ("source", .text (tokenText "source")),
      ("timestamp", .text (tokenText "timestamp")), ("data", .text (tokenText "data"))]),
    ("qos", .int 1)]

theorem dumpFields_republishing (t : String) : Value.dumpFields (republishing t) = republishing t :=
  Value.dumpFields_of_isJson (by simp [republishing, Value.isJsonFields])

/-- The rule of an event type that was made with the sample and knows the names (module doc). -/
structure Rule.IsAuto (t : String) (sample : Fields) (known : List String) (r : Rule) : Prop where
  id : r.id = some (autoRuleId (.text t))
  name : r.name ≠ ""
  conditions : r.conditions = some ⟨some (.one t), none, none, none, none⟩
  actions : ∃ logged data,
    r.actions = [⟨"log_event", logged⟩, ⟨"mqtt_publish", republishing t⟩] ∧
      Assoc.get? logged "data" = some (.map data) ∧
      Assoc.get? data "new_fields" = loggedFields known ∧
      (Value.isJsonFields sample = true → Assoc.get? data "sample_data" = some (.map sample))
  enabled : r.metadata.enabled = true
  flagged : r.metadata.autoGenerated = true
  fields : r.metadata.discoveredFields = known

theorem Rule.IsAuto.eventTypes {t : String} {sample : Fields} {known : List String} {r : Rule}
    (h : r.IsAuto t sample known) : r.eventTypes = [t] := by
  rw [Rule.eventTypes, h.conditions]
  rfl

/-- The rule that is made for an event type. -/
def autoRuleOf (now t : String) (sample : Fields) : Rule where
  id := some (autoRuleId (.text t))
  name := s!"Auto-generated {t} Rule"
  description := s!"Automatically generated rule for event type: {t}"
  conditions := some ⟨some (.one t), none, none, none, none⟩
  actions := [
    ⟨"log_event", [("level", .text "info"),
      ("message", .text s!"Auto-generated rule triggered for {t}"),
      ("data", .map [("rule", .text (autoRuleId (.text t))), ("event_type", .text t),
        ("sample_data", .map sample)])]⟩,
    ⟨"mqtt_publish", republishing t⟩]
  metadata := ⟨true, some autoCategory, true, some t, [], none, now, now⟩

/-- The definition always describes the rule. -/
theorem autoRule_toRule (now t : String) (sample : Fields) :
    (Definition.document (autoRule (.text t) (.map sample))).toRule now =
      .ok (autoRuleOf now t sample) := by
  have hname : s!"Auto-generated {t} Rule" ≠ "" := by
    simp only [ne_eq, String.append_eq_empty_iff]
    exact fun h => absurd h.1.1 (by decide)
  have hcheck : Rule.check now (autoRule (.text t) (.map sample)) =
      .ok (autoRuleOf now t sample) := by
    have hc (fields : Fields) : Rule.check now (.map fields) = Rule.ofFields now fields := Eq.refl _
    unfold autoRule
    rw [hc]
    exact Rule.ofFields_eq_ok.2 ⟨rfl, required_eq_ok.2 ⟨"name", _, rfl, checkName_text hname⟩, rfl,
      rfl, rfl, rfl⟩
  rw [Definition.toRule_document]
  refine bind_eq_ok.2 ⟨_, Value.toMap_map _, ?_⟩
  have := hcheck
  unfold autoRule at this
  rw [this]

theorem autoRuleOf_isAuto (now t : String) (sample : Fields) :
    (autoRuleOf now t sample).IsAuto t sample [] where
  id := rfl
  name := by
    simp only [autoRuleOf, ne_eq, String.append_eq_empty_iff]
    exact fun h => absurd h.1.1 (by decide)
  conditions := rfl
  actions := ⟨_, _, rfl, rfl, rfl, fun _ => rfl⟩
  enabled := rfl
  flagged := rfl
  fields := rfl

/-! ## Discovered fields -/

namespace Rule.IsAuto

variable {t : String} {sample : Fields} {known names : List String} {r : Rule}

theorem listsNew (hr : r.IsAuto t sample known) : ∀ a ∈ r.actions, ∀ data ∈ a.logData?, ListsNew data := by
  obtain ⟨logged, data, hactions, hdata, hnew, -⟩ := hr.actions
  rw [hactions]
  intro a ha data' hdata'
  obtain ⟨htype, hgiven⟩ := logData?_eq_some.1 hdata'
  obtain rfl | ha := List.mem_cons.1 ha
  · obtain rfl : data = data' := by simpa [hdata] using hgiven
    intro v hv
    rw [hnew, loggedFields] at hv
    split at hv
    · cases hv
    · exact (Option.some.inj hv) ▸ rfl
  · rw [List.mem_singleton.1 ha] at htype
    have hother : "mqtt_publish" ≠ "log_event" := by decide
    exact (hother htype).elim

/-- Names that the rule does not know give an update, and the update gives the rule that knows
them, too. -/
theorem extend (hr : r.IsAuto t sample known) (hn : names ≠ []) (h : (known ++ names).Nodup)
    (now : String) :
    ∃ updates r', mergeNewFields r names = .ok (some updates) ∧
      RuleBook.revise now (autoRuleId (.text t)) r updates = .ok r' ∧
      r'.IsAuto t sample (known ++ names) := by
  obtain ⟨logged, data, hactions, hdata, hnew, hsample⟩ := hr.actions
  let all : Value := .list ((known ++ names).map .text)
  let recorded : ActionInvocation :=
    ⟨"log_event", Assoc.put logged "data" (.map (Assoc.put data "new_fields" all))⟩
  let actions : List ActionInvocation := [recorded, ⟨"mqtt_publish", republishing t⟩]
  have hplace : ActionInvocation.logData? ⟨"log_event", logged⟩ = some data :=
    logData?_eq_some.2 ⟨rfl, .inr hdata⟩
  have hfresh : unlisted known names = names := unlisted_of_nodup h
  -- The first action has the place for the fields, so the record goes there and nowhere else.
  have hmerge : mergeNewFields r names = .ok (some (fieldsUpdate actions (known ++ names))) := by
    obtain ⟨hnone, -⟩ | ⟨-, recorded', hrecorded, hmerge⟩ := mergeNewFields_cases hr.listsNew names
    · rw [hr.fields, hfresh] at hnone
      exact (hn hnone).elim
    · rw [hactions] at hrecorded
      cases hrecorded with
      | first place =>
        obtain rfl := Option.some.inj (hplace.symm.trans place)
        rw [record_eq hplace hn, recording, withUnlisted, recordedIn_of_loggedFields hnew, textsOf_texts,
          hfresh, ← List.map_append, hr.fields, hfresh] at hmerge
        exact hmerge
      | later noPlace more =>
        rw [hplace] at noPlace
        cases noPlace
  -- The update leaves a rule that passes the check, and the check gives it back with its data dumped.
  have hcomplete : (r.withFields now actions (known ++ names)).Complete :=
    ⟨hr.name, by simp [Rule.withFields, actions], by simp [Rule.withFields, actions, recorded]⟩
  refine ⟨_, _, hmerge, RuleBook.revise_fieldsUpdate hr.id hcomplete, ?_⟩
  have hcustom : r.custom = none := by rw [Rule.custom, hr.conditions]; rfl
  rw [hcustom]
  refine ⟨hr.id, hr.name, ?_, ?_, hr.enabled, hr.flagged, rfl⟩
  · simp [Rule.dumped, Rule.withFields, Rule.withCustom, hr.conditions, RuleConditions.dumped]
  · have hkept : (r.withFields now actions (known ++ names)).dumped.actions =
        [⟨"log_event", Value.dumpFields recorded.parameters⟩, ⟨"mqtt_publish", republishing t⟩] := by
      rw [← dumpFields_republishing t]
      rfl
    refine ⟨_, Value.dumpFields (Assoc.put data "new_fields" all), hkept, ?_, ?_, fun hj => ?_⟩
    · rw [get?_dumpFields, Assoc.get?_put_self, Option.map_some, Value.dump_map]
    · have hne : known ++ names ≠ [] := by simp [hn]
      rw [get?_dumpFields, Assoc.get?_put_self, Option.map_some, dump_texts, loggedFields, if_neg hne]
    · rw [get?_dumpFields, Assoc.get?_put_of_ne _ _ (by decide), hsample hj, Option.map_some,
        Value.dump_of_isJson (by simpa using hj)]

end Rule.IsAuto

end EventHub
