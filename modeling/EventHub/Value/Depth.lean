import EventHub.Value.Basic

/-!
# The depth of values

How deeply lists, maps and records are nested in a value. What is part of a value is less deep.

* `Value.depth_get?`: the value of a key is no deeper than the entries.
* `Value.depth_ofList`: entries get no deeper when repeated keys are brought together.
* `Value.depth_textEntries`: nor do those of a table when only the texts among its keys stay.
-/

namespace EventHub.Value

mutual

/-- The depth of a value. -/
def depth : Value → Nat
  | list items | tuple items | set items => depthItems items + 1
  | map fields | record _ fields => depthFields fields + 1
  | table entries => depthEntries entries + 1
  | _ => 0

/-- The depth of the deepest item. -/
def depthItems : List Value → Nat
  | [] => 0
  | v :: rest => max v.depth (depthItems rest)

/-- The depth of the deepest value of a map. -/
def depthFields : List (String × Value) → Nat
  | [] => 0
  | (_, v) :: rest => max v.depth (depthFields rest)

/-- The depth of the deepest value of a table. -/
def depthEntries : List (Value × Value) → Nat
  | [] => 0
  | (_, v) :: rest => max v.depth (depthEntries rest)

end

theorem depth_get? {fields : Fields} {key : String} {v : Value}
    (h : Assoc.get? fields key = some v) : v.depth ≤ depthFields fields := by
  induction fields with
  | nil => simp [Assoc.get?] at h
  | cons entry rest ih =>
    obtain ⟨k, w⟩ := entry
    simp only [Assoc.get?] at h
    simp only [depthFields]
    split at h
    · cases h
      omega
    · have := ih h
      omega

theorem depth_put (fields : Fields) (key : String) (v : Value) :
    depthFields (Assoc.put fields key v) ≤ max (depthFields fields) v.depth := by
  induction fields with
  | nil => simp [Assoc.put, depthFields]
  | cons entry rest ih =>
    obtain ⟨k, w⟩ := entry
    simp only [Assoc.put]
    split <;> simp only [depthFields] <;> omega

theorem depth_merge (fields updates : Fields) :
    depthFields (Assoc.merge fields updates) ≤ max (depthFields fields) (depthFields updates) := by
  induction updates generalizing fields with
  | nil => simp [Assoc.merge, depthFields]
  | cons entry rest ih =>
    obtain ⟨k, w⟩ := entry
    have h1 := ih (Assoc.put fields k w)
    have h2 := depth_put fields k w
    simp only [Assoc.merge, List.foldl_cons] at h1 ⊢
    simp only [depthFields]
    omega

theorem depth_ofList (fields : Fields) :
    depthFields (Assoc.ofList fields) ≤ depthFields fields := by
  have := depth_merge [] fields
  simp only [depthFields] at this
  simp only [Assoc.ofList]
  omega

theorem depth_textEntries (entries : List (Value × Value)) :
    depthFields (textEntries entries) ≤ depthEntries entries := by
  induction entries with
  | nil => simp [textEntries, depthFields]
  | cons e rest ih =>
    obtain ⟨k, v⟩ := e
    cases k <;> simp only [textEntries, depthFields, depthEntries] <;> omega

end EventHub.Value
