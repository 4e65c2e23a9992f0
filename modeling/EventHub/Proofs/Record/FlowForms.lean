import EventHub.Proofs.Record.Flow
import EventHub.Proofs.Record.RuleForms

/-!
# Flows and events written out and read again

A flow that was checked from a JSON value holds JSON values and predicates only (`Flow.Plain`), and
so does an event (`Event.Plain`). Written out in either form and checked again, each is the same.

* **Conditions** (`Value.IsTest`): what the condition of a step is. A predicate is written out as a
  map and told by that; all else is JSON that is no map.
* **Steps** (`Step.check_write`): one case for each kind of step.
* **Flows and events** (`Flow.check_write`, `Event.check_write`): from the parts.
-/

namespace EventHub

/-! ## Conditions -/

theorem Predicate.check_write (form : Form) {p : Predicate} (hp : p.value.isJson = true) :
    Predicate.check (form.write p.toValue) = .ok p := by
  have hop : checkWord Operator.words (.text p.op.name) = .ok p.op := by
    have hname : Operator.words.lookup p.op.name = some p.op := Operator.ofName?_name p.op
    simp only [checkWord, hname]
  rw [toValue, form.write_record]
  refine bind_eq_ok.2 ⟨_, rfl, ?_⟩
  simp only [Predicate.ofFields, Checked.apply_eq_ok]
  exact ⟨_, _, ⟨_, _, ⟨_, _, rfl, required_json_entries form rfl rfl rfl (by simp) (by simp) rfl,
    rfl⟩, defaulted_json_entries form rfl rfl rfl (by simp) (by simp) hop, rfl⟩,
    defaulted_json_entries form rfl rfl rfl hp Eq.symm rfl, rfl⟩

theorem Predicate.isJson_of_check {v : Value} (hv : v.isJson = true) {p : Predicate}
    (h : Predicate.check v = .ok p) : p.value.isJson = true := by
  obtain ⟨fields, hf, h⟩ := bind_eq_ok.1 h
  simp only [Predicate.ofFields, Checked.apply_eq_ok] at h
  obtain ⟨_, value, ⟨_, op, ⟨_, path, hmk, -, rfl⟩, -, rfl⟩, hvalue, rfl⟩ := h
  cases hmk
  obtain rfl | ⟨w, hw, hc⟩ := of_defaulted_isJson (recordEntries_isJson hv hf) hvalue
  · exact Value.isJson_null
  · cases hc
    exact hw

/-- What a list of conditions holds: predicates, and JSON values that are no maps. -/
inductive Value.IsTestItem : Value → Prop
  | literal {v : Value} (json : v.isJson = true) (flat : ∀ fields, v ≠ .map fields) : IsTestItem v
  | predicate {p : Predicate} (json : p.value.isJson = true) : IsTestItem p.toValue

/-- What the condition of a step is: such an item, or a list of such items. It is never null. -/
inductive Value.IsTest : Value → Prop
  | item {v : Value} (item : v.IsTestItem) (given : v ≠ .null) (single : ∀ items, v ≠ .list items) :
    IsTest v
  | list {items : List Value} (each : ∀ v ∈ items, v.IsTestItem) : IsTest (.list items)

theorem Value.IsTest.ne_null {v : Value} (hv : v.IsTest) : v ≠ .null := by
  cases hv with
  | item _ given _ => exact given
  | list => simp

theorem checkConditionItem_write (form : Form) {v : Value} (hv : v.IsTestItem) :
    checkConditionItem (form.write v) = .ok v := by
  cases hv with
  | literal json flat =>
    rw [form.write_of_isJson json]
    unfold checkConditionItem
    split
    · exact absurd rfl (flat _)
    · simp [Value.isJson] at json
    · rfl
  | @predicate p json =>
    have hp := p.check_write form json
    rw [Predicate.toValue, form.write_record] at hp ⊢
    rw [checkConditionItem, hp]
    rfl

/-- A map or table is a predicate, and all else stays as it is. -/
theorem of_checkConditionItem {v t : Value} (h : checkConditionItem v = .ok t) :
    (t = v ∧ ∀ fields, v ≠ .map fields) ∨ ∃ p, Predicate.check v = .ok p ∧ t = p.toValue := by
  have hmade {w : Value} (h : (Predicate.check w).map Predicate.toValue = .ok t) :
      ∃ p, Predicate.check w = .ok p ∧ t = p.toValue := by
    cases hp : Predicate.check w with
    | error issues => simp [hp, Except.map] at h
    | ok p =>
      rw [hp] at h
      exact ⟨p, rfl, (Except.ok.inj h).symm⟩
  unfold checkConditionItem at h
  split at h
  · exact .inr (hmade h)
  · exact .inr (hmade h)
  · rename_i hflat _
    exact .inl ⟨(Except.ok.inj h).symm, hflat⟩

theorem isTestItem_of_check {v t : Value} (hv : v.isJson = true)
    (h : checkConditionItem v = .ok t) : t.IsTestItem := by
  obtain ⟨rfl, hflat⟩ | ⟨p, hp, rfl⟩ := of_checkConditionItem h
  · exact .literal hv hflat
  · exact .predicate (Predicate.isJson_of_check hv hp)

/-- A condition that is no list is checked as an item. -/
theorem checkCondition_of_single {v : Value} (hn : v ≠ .null) (hl : ∀ items, v ≠ .list items) :
    checkCondition v = checkConditionItem v := by
  unfold checkCondition
  split
  · exact absurd rfl hn
  · exact absurd rfl (hl _)
  · rfl

theorem checkCondition_write (form : Form) {v : Value} (hv : v.IsTest) :
    checkCondition (form.write v) = .ok v := by
  cases hv with
  | item item given single =>
    rw [checkCondition_of_single (fun hn => given (form.write_eq_null.1 hn)) fun items hl => ?_,
      checkConditionItem_write form item]
    obtain ⟨_, rfl⟩ := form.of_write_eq_list hl
    exact single _ rfl
  | @list items each =>
    have hall : (items.map form.write).mapM checkConditionItem = .ok items := by
      induction items with
      | nil => rfl
      | cons v rest ih =>
        have hv := checkConditionItem_write form (each v List.mem_cons_self)
        have hrest := ih fun w hw => each w (List.mem_cons_of_mem v hw)
        rw [List.map_cons, List.mapM_cons, hv]
        exact bind_eq_ok.2 ⟨v, rfl, bind_eq_ok.2 ⟨rest, hrest, rfl⟩⟩
    rw [form.write_list, checkCondition, hall]
    rfl

theorem isTestItem_of_mem_mapM {items tests : List Value} (hv : ∀ v ∈ items, v.isJson = true)
    (h : items.mapM checkConditionItem = .ok tests) {t : Value} (ht : t ∈ tests) :
    t.IsTestItem := by
  induction items generalizing tests with
  | nil =>
    cases h
    cases ht
  | cons v rest ih =>
    rw [List.mapM_cons] at h
    obtain ⟨first, hfirst, h⟩ := bind_eq_ok.1 h
    obtain ⟨more, hmore, h⟩ := bind_eq_ok.1 h
    cases h
    rcases List.mem_cons.1 ht with rfl | ht
    · exact isTestItem_of_check (hv v List.mem_cons_self) hfirst
    · exact ih (fun w hw => hv w (List.mem_cons_of_mem v hw)) hmore ht

theorem isTest_of_check {v t : Value} (hv : v.isJson = true) (h : checkCondition v = .ok t) :
    t.IsTest := by
  unfold checkCondition at h
  split at h
  · cases h
  · rename_i items
    cases hm : items.mapM checkConditionItem with
    | error issues => simp [hm, Except.map] at h
    | ok tests =>
      rw [hm] at h
      cases h
      exact .list fun t ht =>
        isTestItem_of_mem_mapM (Value.isJsonItems_iff.1 (by simpa using hv)) hm ht
  · rename_i hn hl
    have hitem := isTestItem_of_check hv h
    obtain ⟨rfl, -⟩ | ⟨p, -, rfl⟩ := of_checkConditionItem h
    · exact .item hitem hn hl
    · exact .item hitem (by simp [Predicate.toValue]) (by simp [Predicate.toValue])

/-! ## Steps -/

/-- The transform has a template, which is JSON. -/
structure TransformSpec.Plain (t : TransformSpec) : Prop where
  type : t.type = .template
  template : t.template.isJson = true
  given : t.template ≠ .null
  function : t.function = none

theorem TransformSpec.complete_eq_ok {t t' : TransformSpec} (h : t.complete = .ok t') :
    t' = t ∧ (t.type = .template → t.template ≠ .null) ∧
      (t.type = .function → t.function ≠ none) := by
  obtain ⟨type, template, function⟩ := t
  unfold complete at h
  cases type <;> cases template <;> cases function <;> simp_all [Checked.fail] 

theorem TransformSpec.plain_of_check {v : Value} (hv : v.isJson = true) {t : TransformSpec}
    (h : TransformSpec.check v = .ok t) : t.Plain := by
  obtain ⟨fields, hf, h⟩ := bind_eq_ok.1 h
  obtain ⟨made, h, hcomplete⟩ := bind_eq_ok.1 h
  have hfields := recordEntries_isJson hv hf
  simp only [Checked.apply_eq_ok] at h
  obtain ⟨_, function, ⟨_, template, ⟨_, type, hmk, -, rfl⟩, ht, rfl⟩, hfn, rfl⟩ := h
  cases hmk
  obtain ⟨rfl, hgiven, hcallable⟩ := complete_eq_ok hcomplete
  obtain rfl := function_isJson hfields hfn
  obtain rfl : type = .template := by
    cases type with
    | template => rfl
    | function => exact absurd rfl (hcallable rfl)
  refine ⟨rfl, ?_, hgiven rfl, rfl⟩
  obtain rfl | ⟨w, hw, hc⟩ := of_defaulted_isJson hfields ht
  · exact Value.isJson_null
  · cases hc
    exact hw

theorem TransformSpec.check_write (form : Form) {t : TransformSpec} (ht : t.Plain) :
    TransformSpec.check (form.write t.toValue) = .ok t := by
  have hcomplete : t.complete = .ok t := by
    unfold complete
    split <;> simp_all [ht.type, ht.given]
  obtain ⟨type, template, function⟩ := t
  obtain rfl : type = .template := ht.type
  obtain rfl : function = none := ht.function
  rw [toValue, form.write_record]
  refine bind_eq_ok.2 ⟨_, rfl, bind_eq_ok.2 ⟨_, ?_, hcomplete⟩⟩
  simp only [Checked.apply_eq_ok]
  exact ⟨_, _, ⟨_, _, ⟨_, _, rfl, required_json_entries form rfl rfl rfl (by simp) (by simp) rfl,
    rfl⟩, defaulted_json_entries form rfl rfl rfl ht.template Eq.symm rfl, rfl⟩,
    defaulted_hidden_entries form rfl (by decide) rfl, rfl⟩

/-- What a step is that was checked from JSON. -/
inductive Step.Plain : Step → Prop
  | rule {id ruleId : String} (hid : id ≠ "") (hrule : ruleId ≠ "") : Plain (.rule id ruleId)
  | action {id : String} {call : ActionInvocation} (hid : id ≠ "") (hcall : call.Plain) :
    Plain (.action id call)
  | condition {id : String} {test : Value} (hid : id ≠ "") (htest : test.IsTest) :
    Plain (.condition id test)
  | transform {id : String} {input : Value} {spec : TransformSpec} (hid : id ≠ "")
    (hinput : input.isJson = true) (hspec : spec.Plain) : Plain (.transform id input spec)

theorem checkRuleStep_plain {v : Value} {s : Step} (h : checkRuleStep v = .ok s) : s.Plain := by
  obtain ⟨fields, -, h⟩ := bind_eq_ok.1 h
  simp only [Checked.apply_eq_ok] at h
  obtain ⟨_, ruleId, ⟨_, _, ⟨_, id, hmk, hid, rfl⟩, -, rfl⟩, hrule, rfl⟩ := h
  cases hmk
  exact .rule (checkName_ne_empty hid) (checkName_ne_empty hrule)

theorem checkActionStep_plain {v : Value} (hv : v.isJson = true) {s : Step}
    (h : checkActionStep v = .ok s) : s.Plain := by
  obtain ⟨fields, hf, h⟩ := bind_eq_ok.1 h
  simp only [Checked.apply_eq_ok] at h
  obtain ⟨_, call, ⟨_, _, ⟨_, id, hmk, hid, rfl⟩, -, rfl⟩, hcall, rfl⟩ := h
  cases hmk
  obtain ⟨w, hw, hc⟩ := of_required_isJson (recordEntries_isJson hv hf) hcall
  exact .action (checkName_ne_empty hid) (ActionInvocation.plain_of_check hw hc)

theorem checkConditionStep_plain {v : Value} (hv : v.isJson = true) {s : Step}
    (h : checkConditionStep v = .ok s) : s.Plain := by
  obtain ⟨fields, hf, h⟩ := bind_eq_ok.1 h
  simp only [Checked.apply_eq_ok] at h
  obtain ⟨_, test, ⟨_, _, ⟨_, id, hmk, hid, rfl⟩, -, rfl⟩, htest, rfl⟩ := h
  cases hmk
  obtain ⟨w, hw, hc⟩ := of_required_isJson (recordEntries_isJson hv hf) htest
  exact .condition (checkName_ne_empty hid) (isTest_of_check hw hc)

theorem checkTransformStep_plain {v : Value} (hv : v.isJson = true) {s : Step}
    (h : checkTransformStep v = .ok s) : s.Plain := by
  obtain ⟨fields, hf, h⟩ := bind_eq_ok.1 h
  have hfields := recordEntries_isJson hv hf
  simp only [Checked.apply_eq_ok] at h
  obtain ⟨_, spec, ⟨_, input, ⟨_, _, ⟨_, id, hmk, hid, rfl⟩, -, rfl⟩, hinput, rfl⟩, hspec, rfl⟩ := h
  cases hmk
  obtain ⟨w, hw, hc⟩ := of_required_isJson hfields hspec
  refine .transform (checkName_ne_empty hid) ?_ (TransformSpec.plain_of_check hw hc)
  obtain rfl | ⟨u, hu, hc⟩ := of_defaulted_isJson hfields hinput
  · exact Value.isJson_null
  · cases hc
    exact hu

theorem Step.plain_of_check {v : Value} (hv : v.isJson = true) {s : Step}
    (h : Step.check v = .ok s) : s.Plain := by
  cases v with
  | map fields =>
    obtain ⟨tag, -, h⟩ := checkTagged_eq_ok.1 h
    unfold checkStepOf at h
    split at h
    · exact checkRuleStep_plain (Checked.within_eq_ok.1 h)
    · exact checkActionStep_plain hv (Checked.within_eq_ok.1 h)
    · exact checkConditionStep_plain hv (Checked.within_eq_ok.1 h)
    · exact checkTransformStep_plain hv (Checked.within_eq_ok.1 h)
    · cases h
  | _ => simp_all [Step.check, Checked.fail, Value.isJson]

/-- The field `type` of a written step tells how it is checked. -/
theorem Step.check_record (form : Form) {kind : RecordKind} {fields : Fields} {tag : String}
    {s : Step} (hk : Assoc.keys fields = kind.fieldNames) (hs : kind.hides "type" = false)
    (hg : Assoc.get? fields "type" = some (.text tag))
    (hc : checkStepOf (.text tag) (.map (form.entries kind fields)) = .ok s) :
    Step.check (form.write (.record kind fields)) = .ok s := by
  have ht := get?_entries form hk hs hg (by simp) (by decide)
  rw [form.write_text] at ht
  rw [form.write_record]
  exact checkTagged_eq_ok.2 ⟨_, ht, hc⟩

/-- A step is read again as what it is: one case for each kind. -/
theorem Step.check_write (form : Form) {s : Step} (hs : s.Plain) :
    Step.check (form.write s.toValue) = .ok s := by
  -- Each type has its own fields: the type selects the check, and every field is read back by its own.
  cases hs with
  | rule hid hrule =>
    refine check_record form rfl rfl rfl (Checked.within_eq_ok.2 (bind_eq_ok.2 ⟨_, rfl, ?_⟩))
    simp only [Checked.apply_eq_ok]
    exact ⟨_, _, ⟨_, _, ⟨_, _, rfl,
      required_json_entries form rfl rfl rfl (by simp) (by simp) (checkName_text hid), rfl⟩,
      required_json_entries form rfl rfl rfl (by simp) (by simp) rfl, rfl⟩,
      required_json_entries form rfl rfl rfl (by simp) (by simp) (checkName_text hrule), rfl⟩
  | action hid hcall =>
    refine check_record form rfl rfl rfl (Checked.within_eq_ok.2 (bind_eq_ok.2 ⟨_, rfl, ?_⟩))
    simp only [Checked.apply_eq_ok]
    exact ⟨_, _, ⟨_, _, ⟨_, _, rfl,
      required_json_entries form rfl rfl rfl (by simp) (by simp) (checkName_text hid), rfl⟩,
      required_json_entries form rfl rfl rfl (by simp) (by simp) rfl, rfl⟩,
      required_entries form rfl rfl rfl (by simp [ActionInvocation.toValue])
        (ActionInvocation.check_write form hcall), rfl⟩
  | condition hid htest =>
    refine check_record form rfl rfl rfl (Checked.within_eq_ok.2 (bind_eq_ok.2 ⟨_, rfl, ?_⟩))
    simp only [Checked.apply_eq_ok]
    exact ⟨_, _, ⟨_, _, ⟨_, _, rfl,
      required_json_entries form rfl rfl rfl (by simp) (by simp) (checkName_text hid), rfl⟩,
      required_json_entries form rfl rfl rfl (by simp) (by simp) rfl, rfl⟩,
      required_entries form rfl rfl rfl htest.ne_null (checkCondition_write form htest), rfl⟩
  | transform hid hinput hspec =>
    refine check_record form rfl rfl rfl (Checked.within_eq_ok.2 (bind_eq_ok.2 ⟨_, rfl, ?_⟩))
    simp only [Checked.apply_eq_ok]
    exact ⟨_, _, ⟨_, _, ⟨_, _, ⟨_, _, rfl,
      required_json_entries form rfl rfl rfl (by simp) (by simp) (checkName_text hid), rfl⟩,
      required_json_entries form rfl rfl rfl (by simp) (by simp) rfl, rfl⟩,
      defaulted_json_entries form rfl rfl rfl hinput Eq.symm rfl, rfl⟩,
      required_entries form rfl rfl rfl (by simp [TransformSpec.toValue])
        (TransformSpec.check_write form hspec), rfl⟩

/-! ## Flows -/

theorem FlowMetadata.check_write (form : Form) (now : String) (m : FlowMetadata) :
    FlowMetadata.check now (form.write m.toValue) = .ok m := by
  rw [toValue, form.write_record]
  refine bind_eq_ok.2 ⟨_, rfl, ?_⟩
  simp only [Checked.apply_eq_ok]
  exact ⟨_, _, ⟨_, _, ⟨_, _, ⟨_, _, ⟨_, _, ⟨_, _, rfl,
    defaulted_json_entries form rfl rfl rfl (by simp) (by simp) rfl, rfl⟩,
    optional_text_entries form rfl rfl rfl, rfl⟩,
    defaulted_json_entries form rfl rfl rfl (by simp) (by simp) rfl, rfl⟩,
    optional_text_entries form rfl rfl rfl, rfl⟩,
    defaulted_json_entries form rfl rfl rfl (by simp) (by simp) rfl, rfl⟩,
    defaulted_json_entries form rfl rfl rfl (by simp) (by simp) rfl, rfl⟩

/-- The flow has a name and steps, and its steps hold JSON values and predicates only. -/
structure Flow.Plain (f : Flow) : Prop where
  name : f.name ≠ ""
  steps : f.steps ≠ []
  each : ∀ s ∈ f.steps, s.Plain

theorem Flow.plain_of_check {now : String} {v : Value} (hv : v.isJson = true) {f : Flow}
    (h : Flow.check now v = .ok f) : f.Plain := by
  obtain ⟨fields, hf, h⟩ := bind_eq_ok.1 h
  obtain ⟨-, hn, -, hs, -⟩ := Flow.ofFields_eq_ok.1 h
  obtain ⟨w, hw, hs⟩ := of_required_isJson (recordEntries_isJson hv hf) hs
  obtain ⟨hl, hne⟩ := checkSome_eq_ok.1 hs
  refine ⟨checkName_ne_empty hn, hne, fun s hmem => ?_⟩
  obtain ⟨u, hu, hc⟩ := of_mem_checkList_isJson hw hl hmem
  exact Step.plain_of_check hu hc

/-- A plain flow that is written out and checked again is the same. -/
theorem Flow.check_write (form : Form) (now : String) {f : Flow} (hf : f.Plain) :
    Flow.check now (form.write f.toValue) = .ok f := by
  have hmeta : FlowMetadata.checkOrNull now (form.write f.metadata.toValue) = .ok f.metadata := by
    have hm := f.metadata.check_write form now
    rw [FlowMetadata.toValue, form.write_record] at hm ⊢
    exact hm
  rw [toValue, form.write_record, Flow.check_map]
  exact Flow.ofFields_eq_ok.2
    ⟨optional_text_entries form rfl rfl rfl,
      required_json_entries form rfl rfl rfl (by simp) (by simp) (checkName_text hf.name),
      defaulted_json_entries form rfl rfl rfl (by simp) (by simp) rfl,
      required_entries form rfl rfl rfl (by simp) (checkSome_eq_ok.2
        ⟨checkList_write form fun s hs => Step.check_write form (hf.each s hs), hf.steps⟩),
      defaulted_entries form rfl rfl rfl (by simp [FlowMetadata.toValue]) hmeta⟩

/-! ## Events -/

/-- The event has a type, a source and a timestamp, and its data is JSON. -/
structure Event.Plain (e : Event) : Prop where
  type : e.type ≠ ""
  source : e.source ≠ ""
  timestamp : e.timestamp ≠ ""
  data : Value.isJsonFields e.data = true
  metadata : Value.isJsonFields e.metadata = true

theorem Event.plain_of_check {freshId : String} {v : Value} (hv : v.isJson = true) {e : Event}
    (h : Event.check freshId v = .ok e) : e.Plain := by
  obtain ⟨fields, hf, h⟩ := bind_eq_ok.1 h
  have hfields := recordEntries_isJson hv hf
  obtain ⟨-, htype, hsource, htime, hdata, hmeta⟩ := Event.ofFields_eq_ok.1 h
  have hmap {name : String} {entries : Fields}
      (h : defaulted fields name [] checkMapOrNull = .ok entries) :
      Value.isJsonFields entries = true := by
    obtain rfl | ⟨w, hw, hc⟩ := of_defaulted_isJson hfields h
    · rfl
    · exact checkMapOrNull_isJson hw hc
  refine ⟨checkName_ne_empty htype, checkName_ne_empty hsource, ?_, hmap hdata, hmap hmeta⟩
  obtain ⟨w, hw, hc⟩ := of_required_isJson hfields htime
  intro he
  rw [he] at hc
  unfold checkTimestamp at hc
  split at hc <;> cases checkName_eq_ok hc

/-- A plain event that is written out and checked again is the same. -/
theorem Event.check_write (form : Form) (freshId : String) {e : Event} (he : e.Plain) :
    Event.check freshId (form.write e.toValue) = .ok e := by
  rw [toValue, form.write_record]
  exact Event.ofFields_eq_ok.2
    ⟨defaulted_json_entries form rfl rfl rfl (by simp) (by simp) rfl,
      required_json_entries form rfl rfl rfl (by simp) (by simp) (checkName_text he.type),
      required_json_entries form rfl rfl rfl (by simp) (by simp) (checkName_text he.source),
      required_json_entries form rfl rfl rfl (by simp) (by simp) (checkName_text he.timestamp),
      defaulted_json_entries form rfl rfl rfl (by simpa using he.data) (by simp) rfl,
      defaulted_json_entries form rfl rfl rfl (by simpa using he.metadata) (by simp) rfl⟩

/-! ## Both -/

/-- A flow or an event that was checked from a JSON value is the same when it is written out, as a
document or under its own names, and checked again, whatever the time and whatever the id that an
event without one would be given. -/
theorem json_definitions_roundTrip {v : Value} (hv : v.isJson = true)
    (now now' fresh fresh' : String) :
    (∀ f, Flow.check now v = .ok f →
      Flow.check now' f.toValue.document = .ok f ∧ Flow.check now' f.toValue.dump = .ok f) ∧
    ∀ e, Event.check fresh v = .ok e →
      Event.check fresh' e.toValue.document = .ok e ∧ Event.check fresh' e.toValue.dump = .ok e := by
  refine ⟨fun f hf => ?_, fun e he => ?_⟩
  · have hplain := Flow.plain_of_check hv hf
    exact ⟨Flow.check_write .document now' hplain, Flow.check_write .plain now' hplain⟩
  · have hplain := Event.plain_of_check hv he
    exact ⟨Event.check_write .document fresh' hplain, Event.check_write .plain fresh' hplain⟩

/-- A flow with a step of each kind, and conditions of every shape. -/
def stepsOfEachKind : Value :=
  .map [("name", .text "Night"), ("metadata", .null), ("steps", .list [
    .map [("id", .text "fire"), ("type", .text "rule"), ("ruleId", .text "r1")],
    .map [("id", .text "note"), ("type", .text "action"),
      ("action", .map [("type", .text "log_event"), ("parameters", .map [("data", .null)])])],
    .map [("id", .text "gate"), ("type", .text "condition"), ("condition", .list [.bool true,
      .text "data.level", .null, .map [("field", .text "level"), ("value", .null)]])],
    .map [("id", .text "shape"), ("type", .text "transform"), ("input", .null),
      ("transform", .map [("type", .text "template"), ("template", .list [.text "a", .null])])]])]

/-- What the flow is when it was checked at the given time. -/
def stepsOfEachKindAt (now : String) : Flow :=
  { id := none, name := "Night", description := "", metadata := .fresh now
    steps := [.rule "fire" "r1", .action "note" ⟨"log_event", [("data", .null)]⟩,
      .condition "gate" (.list [.bool true, .text "data.level", .null,
        Predicate.toValue ⟨"level", .eq, .null⟩]),
      .transform "shape" .null ⟨.template, .list [.text "a", .null], none⟩] }

/-- An event without an id, without metadata, and with null in its data. -/
def nullReading : Value :=
  .map [("type", .text "reading"), ("source", .text "probe"), ("timestamp", .text "noon"),
    ("data", .map [("level", .null), ("id", .list [.int 1, .null])]), ("metadata", .null)]

/-- What the event is when it was given the id. -/
def nullReadingOf (id : String) : Event :=
  ⟨id, "reading", "probe", "noon", [("level", .null), ("id", .list [.int 1, .null])], []⟩

theorem json_definitions_roundTrip_stepsOfEachKind :
    (Flow.check "t1" stepsOfEachKind = .ok (stepsOfEachKindAt "t1") ∧
      Flow.check "t2" (stepsOfEachKindAt "t1").toValue.document = .ok (stepsOfEachKindAt "t1") ∧
      Flow.check "t2" (stepsOfEachKindAt "t1").toValue.dump = .ok (stepsOfEachKindAt "t1")) ∧
    Event.check "e1" nullReading = .ok (nullReadingOf "e1") ∧
      Event.check "e2" (nullReadingOf "e1").toValue.document = .ok (nullReadingOf "e1") ∧
      Event.check "e2" (nullReadingOf "e1").toValue.dump = .ok (nullReadingOf "e1") := by
  have hflow : Flow.check "t1" stepsOfEachKind = .ok (stepsOfEachKindAt "t1") := by rfl
  have hevent : Event.check "e1" nullReading = .ok (nullReadingOf "e1") := by rfl
  exact ⟨⟨hflow, (json_definitions_roundTrip (by decide) "t1" "t2" "" "").1 _ hflow⟩,
    hevent, (json_definitions_roundTrip (by decide) "" "" "e1" "e2").2 _ hevent⟩

end EventHub
