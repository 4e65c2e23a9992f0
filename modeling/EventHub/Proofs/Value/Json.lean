import EventHub.Json.Encode
import EventHub.Record.Check
import EventHub.Value.InputPart
import EventHub.Value.Path

/-!
# JSON values

The values that JSON texts write: null, truth values, numbers, texts, lists of such values, and
maps from texts to them. They hold no records, so writing them out leaves them as they are.

* `Value.isJson`: is the value one of them?
* `Value.dump_of_isJson`, `Value.wire_of_isJson`: written out, such a value is the same.
* `Value.settled_of_isJson`: such a value holds no parts of the input of a flow.
* `Value.jsonWithin_of_isJson`: such a value is written, if it is not nested too deep.
* `Value.isJson_of_walk`: what a path leads to in such a value is one.
* `field_isJson`, `recordEntries_isJson`: what a check reads of such a value is of the same sort.
-/

namespace EventHub

namespace Value

mutual

/-- Could a JSON text write the value? -/
def isJson : Value → Bool
  | null | bool _ | int _ | float _ | nan _ | text _ => true
  | list items => isJsonItems items
  | map fields => isJsonFields fields
  | _ => false

/-- Could a JSON text write every item? -/
def isJsonItems : List Value → Bool
  | [] => true
  | v :: rest => v.isJson && isJsonItems rest

/-- Could a JSON text write every entry? -/
def isJsonFields : List (String × Value) → Bool
  | [] => true
  | (_, v) :: rest => v.isJson && isJsonFields rest

end

theorem isJsonItems_iff {items : List Value} :
    isJsonItems items = true ↔ ∀ v ∈ items, v.isJson = true := by
  induction items with
  | nil => simp [isJsonItems]
  | cons v rest ih => simp [isJsonItems, ih]

theorem isJsonFields_iff {fields : Fields} :
    isJsonFields fields = true ↔ ∀ e ∈ fields, e.2.isJson = true := by
  induction fields with
  | nil => simp [isJsonFields]
  | cons e rest ih => simp [isJsonFields, ih]

@[simp] theorem isJson_list (items : List Value) : (list items).isJson = isJsonItems items := rfl

@[simp] theorem isJson_map (fields : Fields) : (map fields).isJson = isJsonFields fields := rfl

@[simp] theorem isJson_bool (b : Bool) : (bool b).isJson = true := rfl

@[simp] theorem isJson_int (n : Int) : (int n).isJson = true := rfl

@[simp] theorem isJson_text (s : String) : (text s).isJson = true := rfl

@[simp] theorem isJson_null : null.isJson = true := rfl

theorem isJson_get? {fields : Fields} (hf : isJsonFields fields = true) {key : String} {v : Value}
    (hg : Assoc.get? fields key = some v) : v.isJson = true :=
  isJsonFields_iff.1 hf _ (Assoc.mem_of_get? hg)

theorem isJson_get {fields : Fields} (hf : isJsonFields fields = true) (key : String) :
    (get fields key).isJson = true := by
  rw [get]
  cases hg : Assoc.get? fields key with
  | none => exact isJson_null
  | some v => exact isJson_get? hf hg

@[simp] theorem isJson_ofText? (s : Option String) : (ofText? s).isJson = true := by
  cases s <;> simp [ofText?]

theorem isJsonFields_put {fields : Fields} (hf : isJsonFields fields = true) {v : Value}
    (hv : v.isJson = true) (key : String) : isJsonFields (Assoc.put fields key v) = true := by
  induction fields with
  | nil => simp [Assoc.put, isJsonFields, hv]
  | cons e rest ih =>
    simp only [isJsonFields, Bool.and_eq_true] at hf
    rw [Assoc.put]
    split
    · simp [isJsonFields, hv, hf.2]
    · simp [isJsonFields, hf.1, ih hf.2]

theorem isJsonFields_merge {fields updates : Fields} (hf : isJsonFields fields = true)
    (hu : isJsonFields updates = true) : isJsonFields (Assoc.merge fields updates) = true := by
  unfold Assoc.merge
  induction updates generalizing fields with
  | nil => exact hf
  | cons e rest ih =>
    simp only [isJsonFields, Bool.and_eq_true] at hu
    exact ih (isJsonFields_put hf hu.1 _) hu.2

mutual

theorem dump_of_isJson : ∀ {v : Value}, v.isJson = true → v.dump = v
  | null, _ | bool _, _ | int _, _ | float _, _ | nan _, _ | text _, _ => by simp [dump]
  | list items, h => by rw [dump, dumpItems_of_isJson (by simpa using h)]
  | map fields, h => by rw [dump, dumpFields_of_isJson (by simpa using h)]
  | bytes _, h | tuple _, h | set _, h | table _, h | moment _, h | function _, h | record _ _, h
  | inputPart _, h => by simp [isJson] at h

theorem dumpItems_of_isJson : ∀ {items : List Value}, isJsonItems items = true →
    dumpItems items = items
  | [], _ => by rw [dumpItems]
  | v :: rest, h => by
    simp only [isJsonItems, Bool.and_eq_true] at h
    rw [dumpItems, dump_of_isJson h.1, dumpItems_of_isJson h.2]

theorem dumpFields_of_isJson : ∀ {fields : Fields}, isJsonFields fields = true →
    dumpFields fields = fields
  | [], _ => by rw [dumpFields]
  | (k, v) :: rest, h => by
    simp only [isJsonFields, Bool.and_eq_true] at h
    rw [dumpFields, dump_of_isJson h.1, dumpFields_of_isJson h.2]

end

mutual

theorem wire_of_isJson (compact : Bool) : ∀ {v : Value}, v.isJson = true → v.wire compact = v
  | null, _ | bool _, _ | int _, _ | float _, _ | nan _, _ | text _, _ => by simp [wire]
  | list items, h => by rw [wire, wireItems_of_isJson compact (by simpa using h)]
  | map fields, h => by rw [wire, wireFields_of_isJson compact (by simpa using h)]
  | bytes _, h | tuple _, h | set _, h | table _, h | moment _, h | function _, h | record _ _, h
  | inputPart _, h => by simp [isJson] at h

theorem wireItems_of_isJson (compact : Bool) : ∀ {items : List Value}, isJsonItems items = true →
    wireItems compact items = items
  | [], _ => by rw [wireItems]
  | v :: rest, h => by
    simp only [isJsonItems, Bool.and_eq_true] at h
    rw [wireItems, wire_of_isJson compact h.1, wireItems_of_isJson compact h.2]

theorem wireFields_of_isJson (compact : Bool) : ∀ {fields : Fields},
    isJsonFields fields = true → wireFields compact fields = fields
  | [], _ => by rw [wireFields]
  | (k, v) :: rest, h => by
    simp only [isJsonFields, Bool.and_eq_true] at h
    rw [wireFields, wire_of_isJson compact h.1, wireFields_of_isJson compact h.2]

end

mutual

theorem settled_of_isJson (input : Value) : ∀ {v : Value}, v.isJson = true → settled input v = v
  | null, _ | bool _, _ | int _, _ | float _, _ | nan _, _ | text _, _ => by simp [settled]
  | list items, h => by rw [settled, settledItems_of_isJson input (by simpa using h)]
  | map fields, h => by rw [settled, settledFields_of_isJson input (by simpa using h)]
  | bytes _, h | tuple _, h | set _, h | table _, h | moment _, h | function _, h | record _ _, h
  | inputPart _, h => by simp [isJson] at h

theorem settledItems_of_isJson (input : Value) : ∀ {items : List Value}, isJsonItems items = true →
    settledItems input items = items
  | [], _ => by rw [settledItems]
  | v :: rest, h => by
    simp only [isJsonItems, Bool.and_eq_true] at h
    rw [settledItems, settled_of_isJson input h.1, settledItems_of_isJson input h.2]

theorem settledFields_of_isJson (input : Value) : ∀ {fields : Fields},
    isJsonFields fields = true → settledFields input fields = fields
  | [], _ => by rw [settledFields]
  | (k, v) :: rest, h => by
    simp only [isJsonFields, Bool.and_eq_true] at h
    rw [settledFields, settled_of_isJson input h.1, settledFields_of_isJson input h.2]

end

end Value

/-! ## Written values -/

theorem Json.Obstacle.below_eq {depth : Nat} {inner : Nat → Option Obstacle}
    (h : ∀ levels, inner levels = if depth ≤ levels then none else some .depth) (levels : Nat) :
    below levels inner = if depth + 1 ≤ levels then none else some .depth := by
  cases levels with
  | zero => rfl
  | succ levels =>
    rw [below, h]
    simp only [Nat.add_le_add_iff_right]

theorem Json.Obstacle.or_eq (d e levels : Nat) :
    (if d ≤ levels then none else some depth).or (if e ≤ levels then none else some depth) =
      if max d e ≤ levels then none else some depth := by
  by_cases hd : d ≤ levels
  · by_cases he : e ≤ levels
    · rw [if_pos hd, if_pos he, if_pos (Nat.max_le.2 ⟨hd, he⟩), Option.or_none]
    · rw [if_pos hd, if_neg he, if_neg (by omega), Option.none_or]
  · rw [if_neg hd, if_neg (show ¬ max d e ≤ levels by omega), Option.some_or]

namespace Value

mutual

/-- Only its depth may keep a JSON value from being written. -/
theorem obstacle?_of_isJson : ∀ {v : Value}, v.isJson = true → ∀ levels,
    Json.obstacle? v levels = if v.depth ≤ levels then none else some .depth
  | null, _, _ | bool _, _, _ | int _, _, _ | float _, _, _ | nan _, _, _ | text _, _, _ => by
    simp [Json.obstacle?, depth]
  | list items, h, levels => by
    rw [Json.obstacle?, depth, Json.Obstacle.below_eq (itemObstacle?_of_isJson (by simpa using h))]
  | map fields, h, levels => by
    rw [Json.obstacle?, depth, Json.Obstacle.below_eq (fieldObstacle?_of_isJson (by simpa using h))]
  | bytes _, h, _ | tuple _, h, _ | set _, h, _ | table _, h, _ | moment _, h, _ | function _, h, _
  | record _ _, h, _ | inputPart _, h, _ => by simp [isJson] at h

theorem itemObstacle?_of_isJson : ∀ {items : List Value}, isJsonItems items = true → ∀ levels,
    Json.itemObstacle? items levels = if depthItems items ≤ levels then none else some .depth
  | [], _, _ => by simp [Json.itemObstacle?, depthItems]
  | v :: rest, h, levels => by
    simp only [isJsonItems, Bool.and_eq_true] at h
    rw [Json.itemObstacle?, obstacle?_of_isJson h.1, itemObstacle?_of_isJson h.2,
      Json.Obstacle.or_eq, depthItems]

theorem fieldObstacle?_of_isJson : ∀ {fields : Fields}, isJsonFields fields = true → ∀ levels,
    Json.fieldObstacle? fields levels = if depthFields fields ≤ levels then none else some .depth
  | [], _, _ => by simp [Json.fieldObstacle?, depthFields]
  | (k, v) :: rest, h, levels => by
    simp only [isJsonFields, Bool.and_eq_true] at h
    rw [Json.fieldObstacle?, obstacle?_of_isJson h.1, fieldObstacle?_of_isJson h.2,
      Json.Obstacle.or_eq, depthFields]

end

/-- A JSON value is written when there are levels enough, and else it is too deep. -/
theorem jsonWithin_of_isJson {v : Value} (hv : v.isJson = true) (levels : Nat) :
    v.jsonWithin levels = if v.depth ≤ levels then .ok (Json.chars v)
      else .error (.raised .recursion Json.writeDepthMessage) := by
  rw [jsonWithin, obstacle?_of_isJson hv]
  by_cases hd : v.depth ≤ levels
  · rw [if_pos hd, if_pos hd]
  · rw [if_neg hd, if_neg hd]

theorem json_of_isJson {v : Value} (hv : v.isJson = true) : v.json = .ok (Json.chars v) := by
  rw [json, jsonWithin_of_isJson hv, if_pos (Nat.le_refl _)]

/-! ## Paths in JSON values -/

theorem isJson_of_step {v w : Value} {segment : String} (hv : v.isJson = true)
    (h : v.step segment = .ok (some w)) : w.isJson = true := by
  cases v with
  | map fields => exact isJson_get? (by simpa using hv) (Except.ok.inj h)
  | list items =>
    have h : itemAt items segment = .ok (some w) := h
    unfold itemAt at h
    split at h
    · exact isJsonItems_iff.1 (by simpa using hv) w (List.mem_of_getElem? (Except.ok.inj h))
    · cases h
    · cases h
  | _ => simp_all [step, isJson]

theorem isJson_of_walk {segments : List String} {v w : Value} (hv : v.isJson = true)
    (h : walk segments v = .ok (some w)) : w.isJson = true := by
  induction segments generalizing v with
  | nil =>
    cases h
    exact hv
  | cons segment rest ih =>
    rw [walk] at h
    split at h
    · rename_i next hstep
      exact ih (isJson_of_step hv hstep) h
    · cases h
    · cases h

end Value

/-! ## Checks of JSON values -/

variable {α : Type}

theorem field_isJson {fields : Fields} (hf : Value.isJsonFields fields = true)
    {name given : String} {v : Value} (hv : field fields name = some (given, v)) :
    v.isJson = true := by
  unfold field at hv
  split at hv
  · rename_i w hw
    cases hv
    exact Value.isJson_get? hf hw
  · obtain ⟨w, hw, he⟩ := Option.map_eq_some_iff.1 hv
    cases he
    exact Value.isJson_get? hf hw

theorem recordEntries_isJson {kind : RecordKind} {v : Value} {fields : Fields}
    (hv : v.isJson = true) (h : recordEntries kind v = .ok fields) :
    Value.isJsonFields fields = true := by
  cases v <;> simp_all [recordEntries, Checked.fail, Value.isJson]

end EventHub
