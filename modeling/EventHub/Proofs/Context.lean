import EventHub.Hub.Context
import EventHub.Rules.Engine
import EventHub.Proofs.Assoc

/-!
# The table of a context

What templates find in the table of a context. The table is made of entries in layers, and of every name
the last entry counts.

* **Tables** (`Value.step_put`, `Value.step_update`): maps and tables alike have what was set in them last.
* **Layers** (`Value.Tabulates`): a table is made of a row of entries, of which the last one counts.
* **Contexts** (`Context.tabulates`): the table is made of the time, the entries of the input, the input,
  the entries of the event's data and the context's own entries, in this order.
* **Own names** (`Context.step_own`): they lead to the own entries, whatever keys the input and the event's
  data have. So do the paths `Context.lookup_event`, `Context.lookup_steps` and `Context.lookup_previous`.
* `Context.templateValues_withServices`: collaborators are not in the table.
-/

namespace EventHub

/-! ## Tables -/

namespace Value

/-- The entries of a map or table whose keys are texts. Other values have none. -/
def named (v : Value) : Fields := v.fields?.getD []

/-- Only a text equals a text. -/
theorem eq_of_alike_text {v : Value} {s : String} (h : v.alike (.text s) = true) : v = .text s := by
  cases v <;> simp_all [alike, sharesMark, same, magnitude?]

theorem eq_of_text_alike {v : Value} {s : String} (h : (Value.text s).alike v = true) : v = .text s := by
  cases v <;> simp_all [alike, sharesMark, same]

theorem alike_text_self (s : String) : (Value.text s).alike (.text s) = true := by
  simp [alike, sharesMark, same]

theorem get?_textEntries_putEntry (entries : List (Value × Value)) (key other : String)
    (item : Value) :
    Assoc.get? (textEntries (putEntry entries (.text key) item)) other =
      if key = other then some item else Assoc.get? (textEntries entries) other := by
  induction entries with
  | nil => simp [putEntry, textEntries, Assoc.get?]
  | cons entry rest ih =>
    obtain ⟨k, v⟩ := entry
    unfold putEntry
    split
    · rename_i hk
      obtain rfl := eq_of_alike_text hk
      simp only [textEntries, Assoc.get?, beq_iff_eq]
      split <;> rfl
    · rename_i hk
      cases k with
      | text name =>
        have hne : name ≠ key := by
          rintro rfl
          exact hk (alike_text_self name)
        simp only [textEntries, Assoc.get?, beq_iff_eq, ih]
        by_cases ho : name = other
        · subst ho
          simp [Ne.symm hne]
        · simp [ho]
      | _ => simpa only [textEntries] using ih

theorem textEntries_cons_of_ne {key : Value} (hkey : ∀ s, key ≠ .text s) (item : Value)
    (rest : List (Value × Value)) : textEntries ((key, item) :: rest) = textEntries rest := by
  cases key with
  | text s => exact absurd rfl (hkey s)
  | _ => rfl

/-- An entry whose key is no text leaves those whose keys are. -/
theorem textEntries_putEntry_of_ne (entries : List (Value × Value)) {key : Value}
    (hkey : ∀ s, key ≠ .text s) (item : Value) :
    textEntries (putEntry entries key item) = textEntries entries := by
  induction entries with
  | nil => exact textEntries_cons_of_ne hkey item []
  | cons entry rest ih =>
    obtain ⟨k, v⟩ := entry
    unfold putEntry
    cases k with
    | text name =>
      have hk : ¬ (Value.text name).alike key = true := fun h => hkey name (eq_of_text_alike h)
      rw [if_neg hk, textEntries, textEntries, ih]
    | _ => split <;> simp only [textEntries, ih]

/-- A key that was set is found, and the others are as they were. -/
theorem step_put {v : Value} (hv : v.isMap = true) (key other : String) (item : Value) :
    (v.put key item).step other = if key = other then .ok (some item) else v.step other := by
  cases v with
  | map fields =>
    simp only [put, step, Assoc.get?_put, beq_iff_eq]
    split <;> rfl
  | table entries =>
    simp only [put, step, get?_textEntries_putEntry]
    split <;> rfl
  | _ => cases hv

theorem isMap_put {v : Value} (hv : v.isMap = true) (key : String) (item : Value) :
    (v.put key item).isMap = true := by
  cases v with
  | map fields => rfl
  | table entries => rfl
  | _ => cases hv

theorem isMap_ofDistinct (entries : List (Value × Value)) : (ofDistinct entries).isMap = true := by
  unfold ofDistinct
  split <;> rfl

theorem isMap_update (v w : Value) : (v.update w).isMap = true := by
  unfold update
  split
  · rfl
  · exact isMap_ofDistinct _

theorem textEntries_of_allText? {entries : List (Value × Value)} {fields : Fields}
    (h : allText? entries = some fields) : textEntries entries = fields := by
  induction entries generalizing fields with
  | nil => exact Option.some.inj h
  | cons entry rest ih =>
    obtain ⟨k, v⟩ := entry
    cases k with
    | text name =>
      obtain ⟨more, hmore, rfl⟩ := Option.map_eq_some_iff.1 h
      rw [textEntries, ih hmore]
    | _ => cases h

theorem step_ofDistinct (entries : List (Value × Value)) (key : String) :
    (ofDistinct entries).step key = .ok (Assoc.get? (textEntries entries) key) := by
  unfold ofDistinct
  split
  · rename_i fields h
    rw [textEntries_of_allText? h]
    rfl
  · rfl

theorem textEntries_entries (v : Value) : textEntries v.entries = v.named := by
  cases v with
  | map fields =>
    induction fields with
    | nil => rfl
    | cons e rest ih => exact congrArg (e :: ·) ih
  | _ => rfl

/-- What is found under a key after entries were set: what they set last, or else what was there. -/
theorem get?_textEntries_putEntries (entries more : List (Value × Value)) (key : String) :
    Assoc.get? (textEntries (putEntries entries more)) key =
      (Assoc.get? (Assoc.ofList (textEntries more)) key).or (Assoc.get? (textEntries entries) key) := by
  -- The first entry is set before the rest, so that it counts only where the rest has not its key.
  induction more generalizing entries with
  | nil => rfl
  | cons e rest ih =>
    obtain ⟨k, v⟩ := e
    refine (ih (putEntry entries k v)).trans ?_
    cases k with
    | text name =>
      have hlater : Assoc.get? (Assoc.ofList (textEntries ((text name, v) :: rest))) key =
          (Assoc.get? (Assoc.ofList (textEntries rest)) key).or (if name = key then some v else none) := by
        rw [textEntries, ← List.singleton_append, Assoc.get?_ofList_append]
        simp [Assoc.ofList, Assoc.merge, Assoc.put, Assoc.get?]
      rw [hlater, get?_textEntries_putEntry, Option.or_assoc]
      split <;> rfl
    | _ => rw [textEntries_putEntry_of_ne _ (by simp), textEntries_cons_of_ne (by simp)]

theorem step_of_isMap {v : Value} (hv : v.isMap = true) (key : String) :
    v.step key = .ok (Assoc.get? v.named key) := by
  cases v with
  | map fields => rfl
  | table entries => rfl
  | _ => cases hv

/-- After an update a key leads to what the update has last under it, or else to what was there. -/
theorem step_update {v : Value} (hv : v.isMap = true) (w : Value) (key : String) :
    (v.update w).step key =
      .ok ((Assoc.get? (Assoc.ofList w.named) key).or (Assoc.get? v.named key)) := by
  unfold update
  split
  · rename_i fields more
    show Except.ok (Assoc.get? (Assoc.merge fields more) key) = _
    rw [Assoc.get?_merge_latest, ← Assoc.get?_ofList]
    rfl
  · rw [step_ofDistinct, get?_textEntries_putEntries, textEntries_entries, textEntries_entries]

/-! ## Layers -/

/-- The value is a map or table in which names lead to the entries, of every name to the last one. -/
structure Tabulates (v : Value) (entries : Fields) : Prop where
  isMap : v.isMap = true
  step (name : String) : v.step name = .ok (Assoc.get? (Assoc.ofList entries) name)

namespace Tabulates

variable {v : Value} {entries : Fields} (h : v.Tabulates entries)
include h

theorem put (name : String) (item : Value) : (v.put name item).Tabulates (entries ++ [(name, item)]) where
  isMap := isMap_put h.isMap name item
  step other := by
    rw [step_put h.isMap, h.step, Assoc.ofList_concat, Assoc.get?_put]
    simp only [beq_iff_eq]
    split <;> rfl

theorem update (w : Value) : (v.update w).Tabulates (entries ++ w.named) where
  isMap := isMap_update v w
  step name := by
    have hfound := (step_of_isMap h.isMap name).symm.trans (h.step name)
    rw [step_update h.isMap, Except.ok.inj hfound, Assoc.get?_ofList_append]

end Tabulates

end Value

/-! ## Contexts -/

namespace Context

variable (c : Context)

/-- The time, under both of its names. -/
def timeEntries : Fields := [("timestamp", c.timestamp), ("now", c.timestamp)]

/-- The entries of the event's data, if there is an event. -/
def dataEntries : Fields := c.event.elim [] (·.data)

/-- The event and its parts, if there is an event. -/
def envelopeEntries : Fields := c.event.elim [] fun e => eventEntries e (.map e.data)

/-- The rule, if there is one. -/
def ruleEntries : Fields :=
  c.rule.elim [] fun r => [("rule", .map [("id", .ofText? r.id), ("name", .text r.name)])]

/-- The flow, if there is one. -/
def flowEntries : Fields :=
  c.flow.elim [] fun f => [("flow", .map [("id", .ofText? f.id), ("name", .text f.name)])]

/-- The results of the steps. -/
def stepEntries : Fields := [("steps", .list c.steps), ("previous", .ofOption c.steps.getLast?)]

/-- The entries of the context's own that no others come after. -/
def ownEntries : Fields := c.envelopeEntries ++ (c.ruleEntries ++ c.flowEntries ++ c.stepEntries)

theorem nodup_ownEntries : (Assoc.keys c.ownEntries).Nodup := by
  unfold ownEntries envelopeEntries ruleEntries flowEntries stepEntries
  cases c.event <;> cases c.rule <;> cases c.flow <;> simp [eventEntries, Assoc.keys]

section Layers

variable {values : Value} {entries : Fields} (h : values.Tabulates entries)
include h

theorem tabulates_addEvent :
    (addEvent values false c.event).Tabulates (entries ++ c.dataEntries ++ c.envelopeEntries) := by
  unfold dataEntries envelopeEntries
  cases c.event with
  | none => simpa [addEvent] using h
  | some e => exact (h.update _).update _

theorem tabulates_addRule : (addRule values c.rule).Tabulates (entries ++ c.ruleEntries) := by
  unfold ruleEntries
  cases c.rule with
  | none => simpa [addRule] using h
  | some r => exact h.put _ _

theorem tabulates_addFlow : (addFlow values c.flow).Tabulates (entries ++ c.flowEntries) := by
  unfold flowEntries
  cases c.flow with
  | none => simpa [addFlow] using h
  | some f => exact h.put _ _

end Layers

/-- The layers of the table. -/
theorem tabulates : c.templateValues.Tabulates
    (c.timeEntries ++ c.input.named ++ [("input", c.input)] ++ c.dataEntries ++ c.ownEntries) := by
  have htimes : (Value.map c.timeEntries).Tabulates c.timeEntries := ⟨rfl, fun _ => rfl⟩
  have hinput : (inputValues c.timestamp c.input c.input).Tabulates
      (c.timeEntries ++ c.input.named ++ [("input", c.input)]) :=
    (htimes.update c.input).put "input" c.input
  have hset := c.tabulates_addFlow (c.tabulates_addRule (c.tabulates_addEvent hinput))
  have hsteps := (hset.put "steps" (.list c.steps)).put "previous" (.ofOption c.steps.getLast?)
  rw [templateValues, table, if_neg (by simp)]
  simpa only [ownEntries, stepEntries, List.append_assoc, List.singleton_append] using hsteps

/-! ## Own names -/

/-- An own name leads to the own entry, whatever keys the input and the event's data have. -/
theorem step_own {c : Context} {entry : String × Value} (h : entry ∈ c.ownEntries) :
    c.templateValues.step entry.1 = .ok (some entry.2) := by
  have hown : Assoc.get? (Assoc.ofList c.ownEntries) entry.1 = some entry.2 := by
    rw [Assoc.get?_ofList_of_nodup c.nodup_ownEntries]
    exact (Assoc.mem_iff_get? c.nodup_ownEntries).1 h
  rw [c.tabulates.step, Assoc.get?_ofList_append, hown, Option.some_or]

/-- The names of an event lead to the event, whatever keys its data has. -/
theorem step_event {c : Context} {e : Event} (he : c.event = some e) {name : String} {v : Value}
    (hg : Assoc.get? (eventEntries e (.map e.data)) name = some v) :
    c.templateValues.step name = .ok (some v) := by
  have hown : (name, v) ∈ c.ownEntries := by
    simp [ownEntries, envelopeEntries, he, Assoc.mem_of_get? hg]
  exact step_own hown

theorem lookup_event {c : Context} {e : Event} (he : c.event = some e) {name : String} {v : Value}
    (hp : (segmentsOf name.toList).map String.ofList = [name])
    (hg : Assoc.get? (eventEntries e (.map e.data)) name = some v) :
    c.templateValues.lookup name = .ok (some v) := by
  unfold Value.lookup Value.lookupChars
  rw [hp]
  simp only [walk, step_event he hg]

theorem lookup_previous :
    c.templateValues.lookup "previous" = .ok (some (.ofOption c.steps.getLast?)) := by
  have hown : ("previous", Value.ofOption c.steps.getLast?) ∈ c.ownEntries := by
    simp [ownEntries, stepEntries]
  show walk ["previous"] c.templateValues = _
  simp only [walk, step_own hown]

theorem lookup_steps :
    c.templateValues.lookup "steps" = .ok (some (.list c.steps)) := by
  have hown : ("steps", Value.list c.steps) ∈ c.ownEntries := by simp [ownEntries, stepEntries]
  show walk ["steps"] c.templateValues = _
  simp only [walk, step_own hown]

@[simp]
theorem templateValues_withServices {α : Type} (h : Hub α) :
    (c.withServices h).templateValues = c.templateValues := rfl

end Context

end EventHub
