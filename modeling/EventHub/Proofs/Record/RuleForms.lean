import EventHub.Proofs.Record.Forms

/-!
# Rules that hold JSON values only

Such a rule (`Rule.Plain`) asks no function of the application, and its actions and conditions hold
JSON values. Checking a JSON value gives one, and each is told by what it is written out as, in
either form.

* **From JSON** (`Rule.plain_of_check`): what a check makes of a JSON value.
* **And back** (`Rule.check_write`): a plain rule that is written out and checked again is the same.
* **Written out** (`Rule.isJson_entries`): a plain rule is written out as a JSON value.
-/

namespace EventHub

variable {α : Type}

/-! ## Values that may be absent -/

theorem ofText?_eq_ofOption (s : Option String) : Value.ofText? s = .ofOption (s.map .text) := by
  cases s <;> rfl

theorem of_optional {check : Value → Checked α} {v : Value} {a : α}
    (h : optional check v = .ok (some a)) : check v = .ok a := by
  unfold optional at h
  split at h
  · cases h
  · split at h <;> simp_all

theorem optional_some {check : Value → Checked α} {v : Value} (hv : v ≠ .null) {a : α}
    (h : check v = .ok a) : optional check v = .ok (some a) := by
  unfold optional
  split
  · exact absurd rfl hv
  · rw [h]

theorem of_mem_checkList_isJson {check : Value → Checked α} {v : Value} (hv : v.isJson = true)
    {results : List α} (h : checkList check v = .ok results) {a : α} (ha : a ∈ results) :
    ∃ w, w.isJson = true ∧ check w = .ok a := by
  cases v with
  | list items =>
    obtain ⟨w, hw, hc⟩ := Checked.of_mem_items h ha
    exact ⟨w, Value.isJsonItems_iff.1 (by simpa using hv) w hw, hc⟩
  | _ => simp_all [checkList, Checked.fail, Value.isJson]

section Entries

variable {kind : RecordKind} {fields : Fields} {name : String} {check : Value → Checked α}

/-- A field that may be absent is read again, whether it is written out or left out. -/
theorem optional_entries (form : Form) (hk : Assoc.keys fields = kind.fieldNames)
    (hs : kind.hides name = false) {f : α → Value} {o : Option α}
    (hg : Assoc.get? fields name = some (.ofOption (o.map f))) (hf : ∀ a, f a ≠ .null)
    (hc : ∀ a ∈ o, check (form.write (f a)) = .ok a) :
    defaulted (form.entries kind fields) name none (optional check) = .ok o := by
  cases o with
  | none => exact defaulted_entries form hk hs hg (fun _ => rfl) (by rw [form.write_of_isJson] <;> rfl)
  | some a =>
    refine defaulted_entries form hk hs hg (fun hn => absurd hn (hf a)) ?_
    exact optional_some (fun hn => hf a (form.write_eq_null.1 hn)) (hc a rfl)

/-- A text that may be absent is read again. -/
theorem optional_text_entries (form : Form) (hk : Assoc.keys fields = kind.fieldNames)
    (hs : kind.hides name = false) {s : Option String}
    (hg : Assoc.get? fields name = some (.ofText? s)) :
    defaulted (form.entries kind fields) name none (optional checkText) = .ok s := by
  rw [ofText?_eq_ofOption] at hg
  exact optional_entries form hk hs hg (by simp) fun s _ => by rw [form.write_text]; rfl

/-- A list is read again, item by item. -/
theorem checkList_write (form : Form) {f : α → Value} {items : List α}
    (hc : ∀ a ∈ items, check (form.write (f a)) = .ok a) :
    checkList check (form.write (.list (items.map f))) = .ok items := by
  have h := Checked.items_map (g := id) hc 0
  rw [form.write_list, List.map_map]
  rwa [List.map_id] at h

end Entries

/-! ## Actions -/

/-- The invocation names an action, and its parameters are JSON. -/
structure ActionInvocation.Plain (a : ActionInvocation) : Prop where
  type : a.type ≠ ""
  parameters : Value.isJsonFields a.parameters = true

theorem checkMapOrNull_isJson {v : Value} (hv : v.isJson = true) {fields : Fields}
    (h : checkMapOrNull v = .ok fields) : Value.isJsonFields fields = true := by
  cases v <;> simp_all [checkMapOrNull, checkMap, Checked.fail, Value.isJson]
  subst h
  rfl

theorem checkName_ne_empty {fields : Fields} {name s : String}
    (h : required fields name checkName = .ok s) : s ≠ "" := by
  rintro rfl
  cases required_checkName h

theorem ActionInvocation.plain_of_check {v : Value} (hv : v.isJson = true) {a : ActionInvocation}
    (h : ActionInvocation.check v = .ok a) : a.Plain := by
  obtain ⟨fields, hf, h⟩ := bind_eq_ok.1 h
  obtain ⟨ht, hp⟩ := ofFields_eq_ok.1 h
  refine ⟨checkName_ne_empty ht, ?_⟩
  obtain hp | ⟨w, hw, hp⟩ := of_defaulted_isJson (recordEntries_isJson hv hf) hp
  · rw [hp]
    rfl
  · exact checkMapOrNull_isJson hw hp

theorem ActionInvocation.check_write (form : Form) {a : ActionInvocation} (ha : a.Plain) :
    ActionInvocation.check (form.write a.toValue) = .ok a := by
  rw [toValue, form.write_record]
  exact ofFields_eq_ok.2
    ⟨required_json_entries form rfl rfl rfl (by simp) (by simp) (checkName_text ha.type),
      defaulted_json_entries form rfl rfl rfl (by simpa using ha.parameters) (by simp) rfl⟩

/-! ## Conditions -/

/-- JSON names no function. -/
theorem function_isJson {fields : Fields} (hf : Value.isJsonFields fields = true) {name : String}
    {o : Option String} (h : defaulted fields name none (optional checkFunction) = .ok o) :
    o = none := by
  cases o with
  | none => rfl
  | some f =>
    obtain h | ⟨w, hw, h⟩ := of_defaulted_isJson hf h
    · cases h
    · have hc := of_optional h
      cases w <;> simp_all [checkFunction, Checked.fail, Value.isJson]

/-- The conditions ask no function, and the data that they want is JSON. -/
structure RuleConditions.Plain (c : RuleConditions) : Prop where
  data : ∀ fields ∈ c.data, Value.isJsonFields fields = true
  custom : c.custom = none

theorem RuleConditions.plain_of_check {v : Value} (hv : v.isJson = true) {c : RuleConditions}
    (h : RuleConditions.check v = .ok c) : c.Plain := by
  obtain ⟨fields, hf, h⟩ := bind_eq_ok.1 h
  have hfields := recordEntries_isJson hv hf
  simp only [Checked.apply_eq_ok] at h
  obtain ⟨_, custom, ⟨_, window, ⟨_, data, ⟨_, source, ⟨_, type, hmk, -, rfl⟩, -, rfl⟩, hd, rfl⟩, -,
    rfl⟩, hc, rfl⟩ := h
  cases hmk
  constructor
  · rintro found rfl
    obtain hd | ⟨w, hw, hd⟩ := of_defaulted_isJson hfields hd
    · cases hd
    · have hm := of_optional hd
      cases w <;> simp_all [checkMap, Checked.fail, Value.isJson]
  · exact function_isJson hfields hc

theorem TimeRange.check_write (form : Form) (t : TimeRange) :
    TimeRange.check (form.write t.toValue) = .ok t := by
  rw [toValue, form.write_record]
  refine bind_eq_ok.2 ⟨_, rfl, ?_⟩
  simp only [Checked.apply_eq_ok]
  exact ⟨_, _, ⟨_, _, rfl, optional_text_entries form rfl rfl rfl, rfl⟩,
    optional_text_entries form rfl rfl rfl, rfl⟩

theorem Names.isJson_toValue (n : Names) : n.toValue.isJson = true := by
  cases n with
  | one name => exact Value.isJson_text name
  | many names => simp [toValue, Value.isJsonItems_iff]

theorem Names.check_write (form : Form) (n : Names) :
    checkNames (form.write n.toValue) = .ok n := by
  rw [form.write_of_isJson n.isJson_toValue, n.check_toValue]

theorem RuleConditions.check_write (form : Form) {c : RuleConditions} (hc : c.Plain) :
    RuleConditions.check (form.write c.toValue) = .ok c := by
  have hnames (n : Names) : n.toValue ≠ .null := by cases n <;> simp [Names.toValue]
  have hwindow (t : TimeRange) : t.toValue ≠ .null := by simp [TimeRange.toValue]
  have hdata (fields : Fields) (hmem : fields ∈ c.data) :
      checkMap (form.write (.map fields)) = .ok fields := by
    rw [form.write_of_isJson (by simpa using hc.data fields hmem)]
    rfl
  obtain ⟨types, sources, data, window, custom⟩ := c
  obtain rfl : custom = none := hc.custom
  rw [toValue, form.write_record]
  refine bind_eq_ok.2 ⟨_, rfl, ?_⟩
  simp only [Checked.apply_eq_ok]
  exact ⟨_, _, ⟨_, _, ⟨_, _, ⟨_, _, ⟨_, _, rfl,
    optional_entries form rfl rfl rfl hnames fun n _ => n.check_write form, rfl⟩,
    optional_entries form rfl rfl rfl hnames fun n _ => n.check_write form, rfl⟩,
    optional_entries form rfl rfl rfl (by simp) hdata, rfl⟩,
    optional_entries form rfl rfl rfl hwindow fun t _ => t.check_write form, rfl⟩,
    defaulted_hidden_entries form rfl (by decide) rfl, rfl⟩

/-! ## Metadata -/

theorem RuleMetadata.check_write (form : Form) (now : String) (m : RuleMetadata) :
    RuleMetadata.check now (form.write m.toValue) = .ok m := by
  rw [toValue, form.write_record]
  exact check_eq_ok.2
    ⟨defaulted_json_entries form rfl rfl rfl (by simp) (by simp) rfl,
      optional_text_entries form rfl rfl rfl,
      defaulted_json_entries form rfl rfl rfl (by simp) (by simp) rfl,
      optional_text_entries form rfl rfl rfl,
      defaulted_entries form rfl rfl rfl (by simp)
        (checkList_write form fun s _ => by rw [form.write_text]; rfl),
      optional_entries form rfl rfl rfl (by simp)
        (fun n _ => by rw [form.write_of_isJson (Value.isJson_int n)]; rfl),
      defaulted_json_entries form rfl rfl rfl (by simp) (by simp) rfl,
      defaulted_json_entries form rfl rfl rfl (by simp) (by simp) rfl⟩

/-! ## Rules -/

/-- The rule has a name and actions, and holds JSON values only (module doc). -/
structure Rule.Plain (r : Rule) : Prop where
  name : r.name ≠ ""
  conditions : ∀ c ∈ r.conditions, c.Plain
  actions : r.actions ≠ []
  calls : ∀ a ∈ r.actions, a.Plain

theorem Rule.Plain.complete {r : Rule} (hr : r.Plain) : r.Complete :=
  ⟨hr.name, hr.actions, fun a ha => (hr.calls a ha).type⟩

/-- A plain rule asks no function. -/
theorem Rule.Plain.custom {r : Rule} (hr : r.Plain) : r.custom = none := by
  unfold Rule.custom
  cases hc : r.conditions with
  | none => rfl
  | some c => exact (hr.conditions c hc).custom

theorem Rule.Plain.withCustom {r : Rule} (hr : r.Plain) : (r.withCustom none).Plain := by
  refine ⟨hr.name, fun c hc => ?_, hr.actions, hr.calls⟩
  obtain ⟨given, hgiven, rfl⟩ := Option.map_eq_some_iff.1 hc
  exact ⟨(hr.conditions given hgiven).data, rfl⟩

/-- Checking a JSON value gives a plain rule. -/
theorem Rule.plain_of_check {now : String} {v : Value} (hv : v.isJson = true) {r : Rule}
    (h : Rule.check now v = .ok r) : r.Plain := by
  obtain ⟨fields, hf, h⟩ := bind_eq_ok.1 h
  have hfields := recordEntries_isJson hv hf
  obtain ⟨-, hn, -, hc, ha, -⟩ := Rule.ofFields_eq_ok.1 h
  obtain ⟨w, hw, hs⟩ := of_required_isJson hfields ha
  obtain ⟨hl, hne⟩ := checkSome_eq_ok.1 hs
  refine ⟨checkName_ne_empty hn, fun c hmem => ?_, hne, fun a hmem => ?_⟩
  · obtain hnone | ⟨u, hu, hcheck⟩ := of_defaulted_isJson hfields hc
    · simp [hnone] at hmem
    · exact RuleConditions.plain_of_check hu (of_optional (hmem ▸ hcheck))
  · obtain ⟨u, hu, hcheck⟩ := of_mem_checkList_isJson hw hl hmem
    exact ActionInvocation.plain_of_check hu hcheck

/-- A plain rule that is written out and checked again is the same. -/
theorem Rule.check_write (form : Form) (now : String) {r : Rule} (hr : r.Plain) :
    Rule.check now (form.write r.toValue) = .ok r := by
  have hconditions (c : RuleConditions) : c.toValue ≠ .null := by simp [RuleConditions.toValue]
  have hmeta : RuleMetadata.checkOrNull now (form.write r.metadata.toValue) = .ok r.metadata := by
    have hm := r.metadata.check_write form now
    rw [RuleMetadata.toValue, form.write_record] at hm ⊢
    exact hm
  rw [toValue, form.write_record]
  exact Rule.ofFields_eq_ok.2
    ⟨optional_text_entries form rfl rfl rfl,
      required_json_entries form rfl rfl rfl (by simp) (by simp) (checkName_text hr.name),
      defaulted_json_entries form rfl rfl rfl (by simp) (by simp) rfl,
      optional_entries form rfl rfl rfl hconditions
        fun c hmem => RuleConditions.check_write form (hr.conditions c hmem),
      required_entries form rfl rfl rfl (by simp) (checkSome_eq_ok.2
        ⟨checkList_write form fun a ha => ActionInvocation.check_write form (hr.calls a ha),
          hr.actions⟩),
      defaulted_entries form rfl rfl rfl (by simp [RuleMetadata.toValue]) hmeta⟩

theorem isJson_ofOption {f : α → Value} {o : Option α} (h : ∀ a ∈ o, (f a).isJson = true) :
    (Value.ofOption (o.map f)).isJson = true := by
  cases o with
  | none => simp [Value.ofOption]
  | some a => exact h a rfl

theorem isJson_list_map {f : α → Value} {items : List α} (h : ∀ a ∈ items, (f a).isJson = true) :
    (Value.list (items.map f)).isJson = true := by
  simpa [Value.isJsonItems_iff] using h

theorem RuleMetadata.isJson_entries (m : RuleMetadata) : Value.isJsonFields m.entries = true := by
  have hpriority : (Value.ofOption (m.priority.map .int)).isJson = true :=
    isJson_ofOption fun n _ => Value.isJson_int n
  simp [entries, Value.isJsonFields, Value.isJson_ofText?, hpriority, Value.isJsonItems_iff]

theorem RuleConditions.isJson_entries {c : RuleConditions} (hc : c.Plain) :
    Value.isJsonFields c.entries = true := by
  have hnames (names : Option Names) : (Value.ofOption (names.map Names.toValue)).isJson = true :=
    isJson_ofOption fun n _ => n.isJson_toValue
  have hdata : (Value.ofOption (c.data.map fun d => .map (Value.dumpFields d))).isJson = true :=
    isJson_ofOption fun d hd => by
      rw [Value.dumpFields_of_isJson (hc.data d hd)]
      simpa using hc.data d hd
  have hwindow : (Value.ofOption (c.timeRange.map fun t => .map t.entries)).isJson = true :=
    isJson_ofOption fun t _ => by simp [TimeRange.entries, Value.isJsonFields, Value.isJson_ofText?]
  simp [entries, Value.isJsonFields, hnames, hdata, hwindow]

theorem ActionInvocation.isJson_entries {a : ActionInvocation} (ha : a.Plain) :
    Value.isJsonFields a.entries = true := by
  simp [entries, Value.isJsonFields, Value.dumpFields_of_isJson ha.parameters, ha.parameters]

/-- A plain rule is written out as JSON. -/
theorem Rule.isJson_entries {r : Rule} (hr : r.Plain) : Value.isJsonFields r.entries = true := by
  have hconditions : (Value.ofOption (r.conditions.map fun c => .map c.entries)).isJson = true :=
    isJson_ofOption fun c hc => by
      simpa using RuleConditions.isJson_entries (hr.conditions c hc)
  have hactions : (Value.list (r.actions.map fun a => .map a.entries)).isJson = true :=
    isJson_list_map fun a ha => by simpa using ActionInvocation.isJson_entries (hr.calls a ha)
  rw [entries]
  simp only [Value.isJsonFields, Value.isJson_ofText?, Value.isJson_text, hconditions, hactions,
    Value.isJson_map, RuleMetadata.isJson_entries, Bool.and_self]

end EventHub
