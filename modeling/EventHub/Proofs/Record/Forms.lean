import EventHub.Proofs.Record.RoundTrip
import EventHub.Proofs.Value.Json

/-!
# Fields of records that were written out

A record is written out in one of two forms (`Form`): under its own names, or as a document, under
its wire names and without null fields. Checks find a field in both of them.

* **Names** (`RecordKind.wire_name`): the wire names of the fields of a record are distinct, and
  none of them is the name of another field.
* **Fields** (`field_entries`, `get?_entries`): a field that is shown is found with its value
  written out, or it is null and left out.
* **Checks** (`required_entries`, `defaulted_entries`): what a check of a field gives when the
  record was written out, and from what it came when the fields are JSON (`of_required_isJson`,
  `of_defaulted_isJson`).
-/

namespace EventHub

/-! ## Names -/

/-- A wire name tells its field, among the names and the wire names of a kind of record. -/
theorem RecordKind.wire_name (kind : RecordKind) : ∀ a ∈ kind.fieldNames, ∀ b ∈ kind.fieldNames,
    (camelCase a = camelCase b → a = b) ∧ (camelCase a = b → a = b) := by
  cases kind <;> decide +kernel

theorem RecordKind.nodup_fieldNames (kind : RecordKind) : kind.fieldNames.Nodup := by
  cases kind <;> decide

/-! ## Forms -/

/-- The forms in which a record is written out (module doc). -/
inductive Form
  | plain | document

/-- The value written out. -/
def Form.write : Form → Value → Value
  | .plain => Value.dump
  | .document => Value.document

/-- The fields of a record written out. -/
def Form.entries : Form → RecordKind → Fields → Fields
  | .plain => Value.dumpRecord
  | .document => Value.wireRecord true

namespace Form

variable (form : Form)

theorem write_record (kind : RecordKind) (fields : Fields) :
    form.write (.record kind fields) = .map (form.entries kind fields) := by
  cases form <;> simp [write, entries, Value.dump, Value.document, Value.wire]

theorem write_eq_null {v : Value} : form.write v = .null ↔ v = .null := by
  cases form <;> cases v <;> simp [write, Value.dump, Value.document, Value.wire]

theorem of_write_eq_list {v : Value} {items : List Value} (h : form.write v = .list items) :
    ∃ given, v = .list given := by
  cases form <;> cases v <;> simp_all [write, Value.dump, Value.document, Value.wire]

theorem write_of_isJson {v : Value} (hv : v.isJson = true) : form.write v = v := by
  cases form with
  | plain => exact Value.dump_of_isJson hv
  | document => exact Value.wire_of_isJson true hv

@[simp] theorem write_text (s : String) : form.write (.text s) = .text s :=
  form.write_of_isJson (Value.isJson_text s)

theorem write_list (items : List Value) :
    form.write (.list items) = .list (items.map form.write) := by
  cases form with
  | plain =>
    rw [write, Value.dump]
    congr 1
    induction items with
    | nil => simp [Value.dumpItems]
    | cons v rest ih => rw [Value.dumpItems, ih, List.map_cons]
  | document =>
    rw [write, Value.document, Value.wire]
    congr 1
    induction items with
    | nil => simp [Value.wireItems]
    | cons v rest ih => rw [Value.wireItems, ih, List.map_cons]; rfl

end Form

/-! ## Fields -/

section Entries

variable {kind : RecordKind} {fields : Fields} {name : String} {v : Value}

theorem get?_dumpRecord (hs : kind.hides name = false) :
    Assoc.get? (Value.dumpRecord kind fields) name = (Assoc.get? fields name).map Value.dump := by
  induction fields with
  | nil => simp [Value.dumpRecord]
  | cons e rest ih =>
    obtain ⟨k, w⟩ := e
    rw [Value.dumpRecord]
    by_cases hk : k = name
    · subst hk
      simp [hs, Assoc.get?]
    · split <;> simpa [Assoc.get?, hk] using ih

theorem of_mem_keys_dumpRecord {key : String}
    (h : key ∈ Assoc.keys (Value.dumpRecord kind fields)) :
    key ∈ Assoc.keys fields ∧ kind.hides key = false := by
  induction fields with
  | nil => simp [Value.dumpRecord] at h
  | cons e rest ih =>
    obtain ⟨k, w⟩ := e
    rw [Value.dumpRecord] at h
    split at h <;> grind [Assoc.keys_cons]

theorem of_mem_keys_wireRecord {key : String}
    (h : key ∈ Assoc.keys (Value.wireRecord true kind fields)) :
    ∃ k ∈ Assoc.keys fields, camelCase k = key ∧ kind.hides k = false := by
  induction fields with
  | nil => simp [Value.wireRecord] at h
  | cons e rest ih =>
    obtain ⟨k, w⟩ := e
    rw [Value.wireRecord] at h
    split at h <;> grind [Assoc.keys_cons]

/-- A document has a field under its wire name, unless the field is null. -/
theorem get?_wireRecord (hd : (Assoc.keys fields).Nodup) (hs : kind.hides name = false)
    (hw : ∀ k ∈ Assoc.keys fields, camelCase k = camelCase name → k = name)
    (hg : Assoc.get? fields name = some v) :
    Assoc.get? (Value.wireRecord true kind fields) (camelCase name) =
      if v.isNull then none else some v.document := by
  induction fields with
  | nil => cases hg
  | cons e rest ih =>
    obtain ⟨k, w⟩ := e
    obtain ⟨hnew, hrest⟩ := List.nodup_cons.1 hd
    rw [Value.wireRecord]
    by_cases hk : k = name
    · subst hk
      obtain rfl : w = v := by simpa [Assoc.get?] using hg
      cases hn : w.isNull with
      | false => simp [hs, Assoc.get?, Value.document]
      | true =>
        have hgone : Assoc.get? (Value.wireRecord true kind rest) (camelCase k) = none := by
          refine (Assoc.get?_eq_none_iff _ _).2 fun hmem => ?_
          obtain ⟨k', hmem', he, -⟩ := of_mem_keys_wireRecord hmem
          exact hnew (hw k' (List.mem_cons_of_mem k hmem') he ▸ hmem')
        simpa [hs] using hgone
    · have hg' : Assoc.get? rest name = some v := by simpa [Assoc.get?, hk] using hg
      have hne : camelCase k ≠ camelCase name := fun he => hk (hw k List.mem_cons_self he)
      have hr := ih hrest (fun k' hmem => hw k' (List.mem_cons_of_mem k hmem)) hg'
      split
      · exact hr
      · simpa [Assoc.get?, hne] using hr

/-- A field of a written record is found with its value written out. Only a document leaves it out,
when it is null. -/
theorem field_entries (form : Form) (hk : Assoc.keys fields = kind.fieldNames)
    (hs : kind.hides name = false) (hg : Assoc.get? fields name = some v) :
    (∃ given, field (form.entries kind fields) name = some (given, form.write v)) ∨
      (v = .null ∧ field (form.entries kind fields) name = none) := by
  have hname : name ∈ kind.fieldNames := hk ▸ List.mem_map_of_mem (Assoc.mem_of_get? hg)
  unfold field
  cases form with
  | plain =>
    -- The wire name is looked up first; in the plain form it stands only where it is the field's own name.
    left
    have hown : Assoc.get? (Form.plain.entries kind fields) name = some v.dump := by
      rw [Form.entries, get?_dumpRecord hs, hg, Option.map_some]
    by_cases hc : camelCase name ∈ kind.fieldNames
    · have he := (kind.wire_name name hname _ hc).2 rfl
      exact ⟨camelCase name, by rw [← he, hown]; rfl⟩
    · have hnone : Assoc.get? (Form.plain.entries kind fields) (camelCase name) = none := by
        refine (Assoc.get?_eq_none_iff _ _).2 fun hmem => hc (hk ▸ ?_)
        exact (of_mem_keys_dumpRecord hmem).1
      exact ⟨name, by rw [hnone, hown]; rfl⟩
  | document =>
    have hwire := get?_wireRecord (v := v) (hk ▸ kind.nodup_fieldNames) hs
      (fun k hmem => (kind.wire_name k (hk ▸ hmem) name hname).1) hg
    rw [Form.entries, hwire]
    cases hn : v.isNull with
    | false => exact .inl ⟨camelCase name, rfl⟩
    | true =>
      -- A null is left out of the document, and no other field is written under the name.
      right
      refine ⟨by cases v <;> simp_all [Value.isNull], ?_⟩
      have hgone : Assoc.get? (Value.wireRecord true kind fields) name = none := by
        by_cases he : camelCase name = name
        · rw [← he, hwire, hn]
          rfl
        · refine (Assoc.get?_eq_none_iff _ _).2 fun hmem => he ?_
          obtain ⟨k, hmem', hkn, -⟩ := of_mem_keys_wireRecord hmem
          rwa [(kind.wire_name k (hk ▸ hmem') name hname).2 hkn] at hkn
      simp [hgone]

/-- A field of one word has the same name in both forms. -/
theorem get?_entries (form : Form) (hk : Assoc.keys fields = kind.fieldNames)
    (hs : kind.hides name = false) (hg : Assoc.get? fields name = some v) (hn : v ≠ .null)
    (hw : camelCase name = name) :
    Assoc.get? (form.entries kind fields) name = some (form.write v) := by
  obtain ⟨given, hf⟩ | ⟨hnull, -⟩ := field_entries form hk hs hg
  · unfold field at hf
    rw [hw] at hf
    split at hf
    · rename_i w hget
      cases hf
      exact hget
    · rename_i hnone
      rw [hnone] at hf
      cases hf
  · exact absurd hnull hn

variable {α : Type} {a : α} {check : Value → Checked α}

/-- A hidden field is not written out, and takes its default when it is read. -/
theorem defaulted_hidden_entries (form : Form) (hk : Assoc.keys fields = kind.fieldNames)
    (hname : name ∈ kind.fieldNames) (hs : kind.hides name = true) {default : α} :
    defaulted (form.entries kind fields) name default check = .ok default := by
  have hgone (key : String) (hkey : ∀ k ∈ kind.fieldNames, (k = key ∨ camelCase k = key) → k = name) :
      Assoc.get? (form.entries kind fields) key = none := by
    refine (Assoc.get?_eq_none_iff _ _).2 fun hmem => ?_
    cases form with
    | plain =>
      obtain ⟨hmem', hshown⟩ := of_mem_keys_dumpRecord hmem
      simp [← hkey key (hk ▸ hmem') (.inl rfl), hshown] at hs
    | document =>
      obtain ⟨k, hmem', he, hshown⟩ := of_mem_keys_wireRecord hmem
      simp [← hkey k (hk ▸ hmem') (.inr he), hshown] at hs
  have hwire := hgone (camelCase name) fun k hmem => Or.rec
    (fun he => ((kind.wire_name name hname k hmem).2 he.symm).symm) (kind.wire_name k hmem name hname).1
  have hown := hgone name fun k hmem => Or.rec id (kind.wire_name k hmem name hname).2
  have hnone : field (form.entries kind fields) name = none := by
    rw [field, hwire, hown]
    rfl
  rw [defaulted, hnone]

/-- A required field of a written record is read again. -/
theorem required_entries (form : Form) (hk : Assoc.keys fields = kind.fieldNames)
    (hs : kind.hides name = false) (hg : Assoc.get? fields name = some v) (hn : v ≠ .null)
    (hc : check (form.write v) = .ok a) :
    required (form.entries kind fields) name check = .ok a := by
  obtain ⟨given, hf⟩ | ⟨hnull, -⟩ := field_entries form hk hs hg
  · exact required_eq_ok.2 ⟨given, _, hf, hc⟩
  · exact absurd hnull hn

/-- A field of a written record is read again, also where null is its default and left out. -/
theorem defaulted_entries (form : Form) (hk : Assoc.keys fields = kind.fieldNames)
    (hs : kind.hides name = false) (hg : Assoc.get? fields name = some v) {default : α}
    (hn : v = .null → default = a) (hc : check (form.write v) = .ok a) :
    defaulted (form.entries kind fields) name default check = .ok a := by
  obtain ⟨given, hf⟩ | ⟨hnull, hf⟩ := field_entries form hk hs hg
  · exact defaulted_of_field hf hc
  · rw [defaulted, hf, hn hnull]

/-- A required field that holds JSON. -/
theorem required_json_entries (form : Form) (hk : Assoc.keys fields = kind.fieldNames)
    (hs : kind.hides name = false) (hg : Assoc.get? fields name = some v) (hj : v.isJson = true)
    (hn : v ≠ .null) (hc : check v = .ok a) :
    required (form.entries kind fields) name check = .ok a :=
  required_entries form hk hs hg hn ((form.write_of_isJson hj).symm ▸ hc)

/-- A field with a default that holds JSON. -/
theorem defaulted_json_entries (form : Form) (hk : Assoc.keys fields = kind.fieldNames)
    (hs : kind.hides name = false) (hg : Assoc.get? fields name = some v) (hj : v.isJson = true)
    {default : α} (hn : v = .null → default = a) (hc : check v = .ok a) :
    defaulted (form.entries kind fields) name default check = .ok a :=
  defaulted_entries form hk hs hg hn ((form.write_of_isJson hj).symm ▸ hc)

end Entries

/-! ## Fields that are JSON -/

section Json

variable {α : Type} {a : α} {check : Value → Checked α} {fields : Fields} {name : String}
  (hf : Value.isJsonFields fields = true)
include hf

theorem of_required_isJson (h : required fields name check = .ok a) :
    ∃ v, v.isJson = true ∧ check v = .ok a := by
  obtain ⟨given, v, hv, hc⟩ := required_eq_ok.1 h
  exact ⟨v, field_isJson hf hv, hc⟩

theorem of_defaulted_isJson {default : α} (h : defaulted fields name default check = .ok a) :
    a = default ∨ ∃ v, v.isJson = true ∧ check v = .ok a := by
  unfold defaulted at h
  split at h
  · rename_i given v hv
    exact .inr ⟨v, field_isJson hf hv, Checked.within_eq_ok.1 h⟩
  · exact .inl (Except.ok.inj h).symm

end Json

end EventHub
