import EventHub.Proofs.Number.Digits
import EventHub.Value.Path

/-!
# Where paths lead

What a path leads to in any value, said without the walk: a segment names an entry of a map, a field of a
record or, written as a number in decimal digits, an item of a list or tuple.

* **Numbers** (`isNumeral_iff`, `isMisnumbered_iff`): which segments number an item, and which are a fault.
* **Segments** (`Value.entry_iff`, `Value.refuses_iff`): what a segment names in a value, and where it is a
  fault.
* **Paths** (`Value.trail_iff`, `Value.endsAt_iff`): a trail of entries from segment to segment, and where
  it ends early.
* **Lookups** (`Value.lookup_outcomes`): the value, nothing or a fault, each with the exact condition it
  has. Paths compose (`Value.lookup_append`).
-/

namespace EventHub

open Text

/-! ## Numbers -/

/-- The segment writes the number in decimal digits, no more of them than can be read. -/
def IsNumeral (segment : String) (n : Nat) : Prop :=
  digits? segment.toList = some n ∧ segment.toList.length ≤ Number.maxIntDigits

/-- The number of decimal digits that the segment begins with. -/
def decimalsOf (segment : String) : Nat := (segment.toList.takeWhile isDecimal).length

/-- The segment consists of digits, decimal ones or others. -/
def IsDigits (segment : String) : Prop := segment ≠ "" ∧ ∀ c ∈ segment.toList, isDigit c = true

/-- The segment consists of digits and is no numeral: they are too many, or some are not decimal. -/
def IsMisnumbered (segment : String) (fault : Fault) : Prop :=
  IsDigits segment ∧
    if Number.maxIntDigits < decimalsOf segment then
      fault = .value (.intDigits (decimalsOf segment))
    else digits? segment.toList = none ∧ fault = .value (.intText segment)

theorem isDigit_of_isDecimal {c : Char} (h : isDecimal c = true) : isDigit c = true := by
  simp [isDigit, h]

/-- What writes a number consists of decimal digits only. -/
theorem decimal_of_digits? {segment : String} {n : Nat} (h : digits? segment.toList = some n) :
    segment ≠ "" ∧ (∀ c ∈ segment.toList, isDecimal c = true) ∧
      decimalsOf segment = segment.toList.length := by
  have hne : segment.toList ≠ [] := by
    intro hnil
    rw [hnil] at h
    cases h
  have hall : segment.toList.all isDecimal = true := by
    rw [← isSome_readDigits 0, ← digits?_of_ne_nil hne, h, Option.isSome_some]
  refine ⟨by simpa using hne, List.all_eq_true.1 hall, ?_⟩
  rw [decimalsOf, List.takeWhile_eq_self_iff.2 (List.all_eq_true.1 hall)]

theorem isDigits_iff {segment : String} :
    IsDigits segment ↔ (segment.isEmpty || !segment.toList.all isDigit) = false := by
  simp [IsDigits]

theorem indexOf?_of_not_isDigits {segment : String} (h : ¬ IsDigits segment) :
    indexOf? segment = .ok none := by
  rw [isDigits_iff, Bool.not_eq_false] at h
  rw [indexOf?, if_pos h]

/-- The index of a segment of digits is the number that it writes. -/
theorem indexOf?_of_isDigits {segment : String} (h : IsDigits segment) : indexOf? segment =
    if Number.maxIntDigits < decimalsOf segment then
      .error (.value (.intDigits (decimalsOf segment)))
    else match digits? segment.toList with
      | some n => .ok (some n)
      | none => .error (.value (.intText segment)) := by
  rw [indexOf?, if_neg (by simp [isDigits_iff.1 h]), Number.readInt_digits h.1 h.2, decimalsOf]
  by_cases hlong : Number.maxIntDigits < (segment.toList.takeWhile isDecimal).length
  · rw [if_pos hlong, if_pos hlong]
  · rw [if_neg hlong, if_neg hlong]
    cases digits? segment.toList <;> rfl

theorem isNumeral_iff {segment : String} {n : Nat} :
    IsNumeral segment n ↔ indexOf? segment = .ok (some n) := by
  constructor
  · rintro ⟨hdigits, hlength⟩
    obtain ⟨hne, hall, hcount⟩ := decimal_of_digits? hdigits
    rw [indexOf?_of_isDigits ⟨hne, fun c hc => isDigit_of_isDecimal (hall c hc)⟩, hcount,
      if_neg (by omega), hdigits]
  · intro h
    by_cases hdigits : IsDigits segment
    case neg =>
      rw [indexOf?_of_not_isDigits hdigits] at h
      cases h
    rw [indexOf?_of_isDigits hdigits] at h
    split at h
    case isTrue => cases h
    rename_i hcount
    split at h
    case h_2 => cases h
    rename_i m hnumber
    cases h
    rw [(decimal_of_digits? hnumber).2.2] at hcount
    exact ⟨hnumber, by omega⟩

theorem isMisnumbered_iff {segment : String} {fault : Fault} :
    IsMisnumbered segment fault ↔ indexOf? segment = .error fault := by
  unfold IsMisnumbered
  by_cases hdigits : IsDigits segment
  · rw [indexOf?_of_isDigits hdigits, and_iff_right hdigits]
    split
    · simp [eq_comm]
    · cases digits? segment.toList <;> simp [eq_comm]
  · rw [indexOf?_of_not_isDigits hdigits]
    exact iff_of_false (fun h => hdigits h.1) (by simp)

/-! ## Segments -/

namespace Value

/-- What a segment names in a value: the value of a key, an item by its number, or a field. -/
inductive Entry : Value → String → Value → Prop
  | key {fields : Fields} {segment : String} {w : Value} (found : Assoc.get? fields segment = some w) :
    Entry (map fields) segment w
  | textKey {entries : List (Value × Value)} {segment : String} {w : Value}
    (found : Assoc.get? (textEntries entries) segment = some w) : Entry (table entries) segment w
  | item {items : List Value} {segment : String} {n : Nat} {w : Value} (numeral : IsNumeral segment n)
    (found : items[n]? = some w) : Entry (list items) segment w
  | tupleItem {items : List Value} {segment : String} {n : Nat} {w : Value}
    (numeral : IsNumeral segment n) (found : items[n]? = some w) : Entry (tuple items) segment w
  | field {kind : RecordKind} {fields : Fields} {segment : String} {w : Value}
    (found : Assoc.get? fields segment = some w) : Entry (record kind fields) segment w

/-- The segment is a fault in the value: digits that are no numeral, where items have numbers, or a field
that a record of the kind has and this one, which was not checked, does not. -/
inductive Refuses : Value → String → Fault → Prop
  | item {items : List Value} {segment : String} {fault : Fault} (unread : IsMisnumbered segment fault) :
    Refuses (list items) segment fault
  | tupleItem {items : List Value} {segment : String} {fault : Fault}
    (unread : IsMisnumbered segment fault) : Refuses (tuple items) segment fault
  | field {kind : RecordKind} {fields : Fields} {segment : String} (known : segment ∈ kind.fieldNames)
    (missing : Assoc.get? fields segment = none) :
    Refuses (record kind fields) segment (.noMember kind.name segment)

section Segments

variable {v w : Value} {segment : String} {fault : Fault}

theorem itemAt_eq_some {items : List Value} : itemAt items segment = .ok (some w) ↔
    ∃ n, IsNumeral segment n ∧ items[n]? = some w := by
  simp only [isNumeral_iff, itemAt]
  cases indexOf? segment with
  | error _ => simp
  | ok found => cases found <;> simp

theorem itemAt_eq_error {items : List Value} :
    itemAt items segment = .error fault ↔ IsMisnumbered segment fault := by
  rw [isMisnumbered_iff, itemAt]
  cases indexOf? segment with
  | error _ => simp
  | ok found => cases found <;> simp

theorem memberAt_eq_some {kind : RecordKind} {fields : Fields} :
    memberAt kind fields segment = .ok (some w) ↔ Assoc.get? fields segment = some w := by
  unfold memberAt
  split
  · simp_all
  · split <;> simp_all

theorem memberAt_eq_error {kind : RecordKind} {fields : Fields} :
    memberAt kind fields segment = .error fault ↔ segment ∈ kind.fieldNames ∧
      Assoc.get? fields segment = none ∧ fault = .noMember kind.name segment := by
  unfold memberAt
  split
  · simp_all
  · split <;> simp_all [eq_comm]

theorem entry_iff : v.Entry segment w ↔ v.step segment = .ok (some w) := by
  constructor
  · intro h
    cases h with
    | key found => exact congrArg Except.ok found
    | textKey found => exact congrArg Except.ok found
    | item numeral found => exact itemAt_eq_some.2 ⟨_, numeral, found⟩
    | tupleItem numeral found => exact itemAt_eq_some.2 ⟨_, numeral, found⟩
    | field found => exact memberAt_eq_some.2 found
  · intro h
    cases v with
    | map fields => exact .key (Except.ok.inj h)
    | table entries => exact .textKey (Except.ok.inj h)
    | list items =>
      obtain ⟨n, numeral, found⟩ := itemAt_eq_some.1 h
      exact .item numeral found
    | tuple items =>
      obtain ⟨n, numeral, found⟩ := itemAt_eq_some.1 h
      exact .tupleItem numeral found
    | record kind fields => exact .field (memberAt_eq_some.1 h)
    | _ => cases h

theorem refuses_iff : v.Refuses segment fault ↔ v.step segment = .error fault := by
  constructor
  · intro h
    cases h with
    | item unread => exact itemAt_eq_error.2 unread
    | tupleItem unread => exact itemAt_eq_error.2 unread
    | field known missing => exact memberAt_eq_error.2 ⟨known, missing, rfl⟩
  · intro h
    cases v with
    | list items => exact .item (itemAt_eq_error.1 h)
    | tuple items => exact .tupleItem (itemAt_eq_error.1 h)
    | record kind fields =>
      obtain ⟨known, missing, rfl⟩ := memberAt_eq_error.1 h
      exact .field known missing
    | _ => cases h

end Segments

/-! ## Paths -/

/-- A trail of entries from a value, one for each segment. -/
inductive Trail : Value → List String → Value → Prop
  | here (v : Value) : Trail v [] v
  | next {v u w : Value} {segment : String} {rest : List String} (entry : v.Entry segment u)
    (trail : u.Trail rest w) : Trail v (segment :: rest) w

/-- The trail of the segments comes to a value and a segment of which something holds. -/
def EndsAt (v : Value) (segments : List String) (p : Value → String → Prop) : Prop :=
  ∃ front segment back u, segments = front ++ segment :: back ∧ v.Trail front u ∧ p u segment

/-- The segment names nothing in the value, and that is no fault. -/
def Lacks (v : Value) (segment : String) : Prop :=
  (∀ w, ¬ v.Entry segment w) ∧ ∀ fault, ¬ v.Refuses segment fault

theorem lacks_iff {v : Value} {segment : String} : v.Lacks segment ↔ v.step segment = .ok none := by
  simp only [Lacks, entry_iff, refuses_iff]
  cases v.step segment with
  | error _ => simp
  | ok found => cases found <;> simp

section Paths

variable {v w : Value} {segments : List String}

theorem EndsAt.congr {p q : Value → String → Prop} (h : ∀ u segment, p u segment ↔ q u segment) :
    v.EndsAt segments p ↔ v.EndsAt segments q := by
  simp only [EndsAt, h]

theorem trail_iff : v.Trail segments w ↔ walk segments v = .ok (some w) := by
  constructor
  · intro h
    induction h with
    | here => rfl
    | next entry trail ih =>
      rw [walk, entry_iff.1 entry]
      exact ih
  · intro h
    induction segments generalizing v with
    | nil =>
      cases h
      exact .here _
    | cons segment rest ih =>
      rw [walk] at h
      split at h
      · rename_i u hstep
        exact .next (entry_iff.2 hstep) (ih h)
      · cases h
      · cases h

/-- A walk that finds no value ends at the first segment that is no entry, and what it gives is what that
segment gives. -/
theorem endsAt_iff {r : Except Fault (Option Value)} (hr : ∀ w, r ≠ .ok (some w)) :
    v.EndsAt segments (fun u segment => u.step segment = r) ↔ walk segments v = r := by
  constructor
  · rintro ⟨front, segment, back, u, rfl, htrail, hstep⟩
    rw [walk_append, trail_iff.1 htrail]
    dsimp only
    rw [walk, hstep]
    cases r with
    | error fault => rfl
    | ok found =>
      cases found with
      | none => rfl
      | some w => exact absurd rfl (hr w)
  · intro h
    -- The walk ends at the first segment that leads nowhere: here, or further on by induction.
    induction segments generalizing v with
    | nil => exact absurd h.symm (hr v)
    | cons segment rest ih =>
      rw [walk] at h
      split at h
      · rename_i u hstep
        obtain ⟨front, last, back, w, rfl, htrail, hlast⟩ := ih h
        exact ⟨segment :: front, last, back, w, rfl, .next (entry_iff.2 hstep) htrail, hlast⟩
      · rename_i hstep
        exact ⟨[], segment, rest, v, rfl, .here v, hstep.trans h⟩
      · rename_i fault hstep
        exact ⟨[], segment, rest, v, rfl, .here v, hstep.trans h⟩

end Paths

/-! ## Lookups -/

/-- A path after another leads to what it leads to from there, if the other leads anywhere. -/
theorem lookup_append (v : Value) (p q : String) :
    v.lookup (p ++ "." ++ q) = match v.lookup p with
      | .ok (some w) => w.lookup q
      | .ok none => .ok none
      | .error fault => .error fault := by
  have hchars : (p ++ "." ++ q).toList = p.toList ++ '.' :: q.toList := by simp
  unfold lookup lookupChars
  rw [hchars, segmentsOf_append, List.map_append]
  exact walk_append _ _ v

/-- The segments of a path. -/
def segmentTexts (path : String) : List String := (segmentsOf path.toList).map String.ofList

/-- A lookup finds a value exactly when every segment of the path names an entry of what the segments
before it lead to. Otherwise the first segment that names none decides: it is a fault in a list or tuple
when it consists of digits and is no numeral, and in a record that lacks a field of its kind; and nothing
is found where it is no fault. -/
theorem lookup_outcomes (v : Value) (path : String) :
    (∀ w, v.lookup path = .ok (some w) ↔ v.Trail (segmentTexts path) w) ∧
    (v.lookup path = .ok none ↔ v.EndsAt (segmentTexts path) Lacks) ∧
    ∀ fault, v.lookup path = .error fault ↔
      v.EndsAt (segmentTexts path) fun u segment => u.Refuses segment fault := by
  refine ⟨fun w => trail_iff.symm, ?_, fun fault => ?_⟩
  · rw [EndsAt.congr fun _ _ => lacks_iff]
    exact (endsAt_iff (by simp)).symm
  · rw [EndsAt.congr fun _ _ => refuses_iff]
    exact (endsAt_iff (by simp)).symm

/-- A superscript is a digit and writes no number, and it is a fault in a list. -/
theorem lookup_superscript :
    (map [("items", list [int 10])]).lookup "items.\u00b2" = .error (.value (.intText "\u00b2")) :=
  rfl

end Value

end EventHub
