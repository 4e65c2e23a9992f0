import EventHub.Proofs.Context
import EventHub.Proofs.Value.Json
import EventHub.Proofs.Value.Lookup

/-!
# Own names of contexts

Event data and flow input bring keys of their own to the table of a context. What they do to the context's
own names, and what is found behind them:

* **Layers** (`Context.step_templateValues`): what a name leads to, from the last layer of the table to the
  first.
* **Agreement** (`Context.lookup_withData`): event data with other keys lead to the same, at paths whose
  first segment they do not decide.
* **Own names** (`Context.own_names`): what the own names lead to. Event data decide where `input` and `now`
  lead if they have these keys, and the input where `now` does.
* **Paths** (`Context.paths_compose`): a path behind another goes on from where that one leads, so that the
  event's data are found behind `event.data` as behind `data`.
-/

namespace EventHub

theorem walk_congr {v w : Value} {name : String} (h : v.step name = w.step name) (rest : List String) :
    walk (name :: rest) v = walk (name :: rest) w := by
  rw [walk, walk, h]

namespace Context

open Value (segmentTexts)

/-! ## Layers -/

section Layers

variable (c : Context)

/-- What the event's data have under a name, the last one if there are several. -/
def inData? (name : String) : Option Value := Assoc.get? (Assoc.ofList c.dataEntries) name

/-- What the input has under a name, the last one if there are several. -/
def inInput? (name : String) : Option Value := Assoc.get? (Assoc.ofList c.input.named) name

/-- The time, at its two names. -/
def time? (name : String) : Option Value := Assoc.get? c.timeEntries name

/-- What a name of the context's own leads to. -/
def own? (name : String) : Option Value := Assoc.get? c.ownEntries name

/-- A name leads to what the last layer has that has it. -/
theorem step_templateValues (name : String) : c.templateValues.step name =
    .ok ((c.own? name).or ((c.inData? name).or
      ((if "input" = name then some c.input else none).or ((c.inInput? name).or (c.time? name))))) := by
  have htime : Assoc.get? (Assoc.ofList c.timeEntries) name = c.time? name :=
    Assoc.get?_ofList_of_nodup (by simp [timeEntries, Assoc.keys]) name
  rw [c.tabulates.step]
  simp only [Assoc.get?_ofList_append, Assoc.get?_ofList_of_nodup c.nodup_ownEntries, htime]
  simp [own?, inData?, inInput?, Assoc.ofList, Assoc.merge, Assoc.put, Assoc.get?]

theorem own?_eq_none {name : String} (h : name ∈ ["input", "now"]) : c.own? name = none := by
  have hkeys : name ∉ Assoc.keys c.ownEntries := by
    unfold ownEntries envelopeEntries ruleEntries flowEntries stepEntries
    obtain rfl | rfl : name = "input" ∨ name = "now" := by simpa using h
    all_goals
      cases c.event <;> cases c.rule <;> cases c.flow <;> simp [eventEntries, Assoc.keys]
  exact (Assoc.get?_eq_none_iff _ _).2 hkeys

end Layers

/-! ## Agreement -/

/-- The context with other data in its event. -/
def withData (c : Context) (data : Fields) : Context :=
  { c with event := c.event.map fun e => { e with data := data } }

section Agreement

variable (c : Context) (data : Fields)

/-- Data are in no own entry but the data and the event. -/
theorem own?_withData {name : String} (hdata : name ≠ "data") (hevent : name ≠ "event") :
    (c.withData data).own? name = c.own? name := by
  have hown : (c.withData data).ownEntries =
      (c.withData data).envelopeEntries ++ (c.ruleEntries ++ c.flowEntries ++ c.stepEntries) := rfl
  rw [own?, own?, hown, ownEntries]
  -- Only the entries of the event have its data in them.
  generalize c.ruleEntries ++ c.flowEntries ++ c.stepEntries = rest
  unfold envelopeEntries withData
  cases c.event with
  | none => rfl
  | some e => simp [eventEntries, Assoc.get?, hdata.symm, hevent.symm]

/-- Whatever data the event has, a path leads to the same if its first segment is an own name, apart from
the data and the event, or one under which both data have the same. -/
theorem lookup_withData {path name : String} (hpath : (segmentTexts path).head? = some name)
    (hdata : name ≠ "data") (hevent : name ≠ "event")
    (hsame : name ∉ Assoc.keys c.ownEntries → (c.withData data).inData? name = c.inData? name) :
    (c.withData data).templateValues.lookup path = c.templateValues.lookup path := by
  have hstep : (c.withData data).templateValues.step name = c.templateValues.step name := by
    rw [step_templateValues, step_templateValues, own?_withData c data hdata hevent]
    cases h : c.own? name with
    | some v => rfl
    | none =>
      rw [hsame ((Assoc.get?_eq_none_iff _ _).1 h)]
      rfl
  obtain ⟨rest, hrest⟩ := List.head?_eq_some_iff.1 hpath
  show walk (segmentTexts path) _ = walk (segmentTexts path) _
  rw [hrest]
  exact walk_congr hstep rest

end Agreement

/-! ## Own names -/

/-- The context's own names in its table. Those of the event, the rule, the flow and the steps lead to the
context's own entries, whatever keys the event's data and the input have. The input leads to what the data
have under `input`, and only without that to the input, and the current time to what the data or else the
input have under `now`. Other data lead to the same, at all paths that begin with an own name apart from
the data and the event, or with a name under which they have the same. -/
theorem own_names (c : Context) :
    (∀ entry ∈ c.ownEntries, c.templateValues.Entry entry.1 entry.2) ∧
    c.templateValues.Entry "input" ((c.inData? "input").getD c.input) ∧
    c.templateValues.Entry "now" (((c.inData? "now").or (c.inInput? "now")).getD c.timestamp) ∧
    ∀ data path name, (segmentTexts path).head? = some name → name ≠ "data" → name ≠ "event" →
      (name ∉ Assoc.keys c.ownEntries → (c.withData data).inData? name = c.inData? name) →
      (c.withData data).templateValues.lookup path = c.templateValues.lookup path := by
  refine ⟨fun entry h => Value.entry_iff.2 (step_own h), ?_, ?_, fun data path name =>
    lookup_withData c data⟩
  · rw [Value.entry_iff, step_templateValues, own?_eq_none c (by simp)]
    cases c.inData? "input" <;> rfl
  · rw [Value.entry_iff, step_templateValues, own?_eq_none c (by simp)]
    cases c.inData? "now" <;> cases c.inInput? "now" <;> rfl

/-- An event whose data have names of the context as keys. -/
def disguise : Event :=
  { id := "e-1", type := "motion", source := "cam-1", timestamp := "2026-01-20T12:00:00Z",
    data := [("id", .text "fake"), ("input", .text "fake"), ("now", .text "later"), ("steps", .int 7)],
    metadata := [("zone", .text "z1")] }

/-- A context whose event and input have names of the context as keys. -/
def disguised : Context :=
  { bare "2026-01-20T12:00:00+00:00" with
    event := some disguise, input := .map [("now", .text "noon"), ("previous", .int 7)] }

/-- Data that have the own names as keys are found at two of them, and they do not matter for paths into
the metadata. -/
theorem own_names_disguised :
    disguised.templateValues.Entry "id" (.text "e-1") ∧
    disguised.templateValues.Entry "previous" .null ∧
    disguised.templateValues.Entry "input" (.text "fake") ∧
    disguised.templateValues.Entry "now" (.text "later") ∧
    (disguised.withData []).templateValues.lookup "metadata.zone" =
      disguised.templateValues.lookup "metadata.zone" := by
  obtain ⟨hown, hinput, hnow, hpaths⟩ := own_names disguised
  have hid : ("id", Value.text "e-1") ∈ disguised.ownEntries := by
    simp [ownEntries, envelopeEntries, eventEntries, disguised, disguise]
  have hprevious : ("previous", Value.null) ∈ disguised.ownEntries := by
    simp [ownEntries, stepEntries, disguised, bare, Value.ofOption]
  have hmetadata : "metadata" ∈ Assoc.keys disguised.ownEntries := by
    simp [ownEntries, envelopeEntries, eventEntries, disguised, Assoc.keys]
  exact ⟨hown _ hid, hown _ hprevious, hinput, hnow,
    hpaths [] "metadata.zone" "metadata" rfl (by decide) (by decide) (absurd hmetadata)⟩

/-- Keys of event data shadow the input and the current time. -/
theorem names_shadowed : ¬ disguised.templateValues.Entry "input" disguised.input ∧
    ¬ disguised.templateValues.Entry "now" disguised.timestamp := by
  have hinput : disguised.templateValues.step "input" = .ok (some (.text "fake")) := rfl
  have hnow : disguised.templateValues.step "now" = .ok (some (.text "later")) := rfl
  rw [Value.entry_iff, Value.entry_iff, hinput, hnow]
  simp [disguised, bare]

/-! ## Paths through the event -/

/-- A path through an own name goes on from the own entry. -/
theorem lookup_through {c : Context} {name : String} {v : Value} (h : (name, v) ∈ c.ownEntries)
    (hname : segmentTexts name = [name]) (q : String) :
    c.templateValues.lookup (name ++ "." ++ q) = v.lookup q := by
  have hentry : c.templateValues.lookup name = .ok (some v) := by
    show walk (segmentTexts name) c.templateValues = _
    rw [hname, walk, step_own h]
    rfl
  rw [Value.lookup_append, hentry]

theorem lookup_dumped {e : Event} (hd : Value.isJsonFields e.data = true) (q : String) :
    e.toValue.dump.lookup ("data" ++ "." ++ q) = (Value.map e.data).lookup q := by
  have hdata : e.toValue.dump.lookup "data" = .ok (some (.map e.data)) := by
    show Except.ok (some (Value.map (Value.dumpFields e.data))) = _
    rw [Value.dumpFields_of_isJson hd]
  rw [Value.lookup_append, hdata]

/-- Paths compose: behind a point, a path goes on from where the one before the point leads, and it leads
nowhere, or fails, if that one does. So the event's data, if they are JSON, are found alike behind `event.data`
and behind `data`. -/
theorem paths_compose :
    (∀ (v : Value) (p q : String),
      (∀ w, v.lookup p = .ok (some w) → v.lookup (p ++ "." ++ q) = w.lookup q) ∧
      (v.lookup p = .ok none → v.lookup (p ++ "." ++ q) = .ok none) ∧
      ∀ fault, v.lookup p = .error fault → v.lookup (p ++ "." ++ q) = .error fault) ∧
    ∀ (c : Context) (e : Event), c.event = some e → Value.isJsonFields e.data = true → ∀ q,
      c.templateValues.lookup ("event.data." ++ q) = c.templateValues.lookup ("data." ++ q) := by
  refine ⟨fun v p q => ⟨fun w h => ?_, fun h => ?_, fun fault h => ?_⟩, fun c e he hd q => ?_⟩
  · rw [Value.lookup_append, h]
  · rw [Value.lookup_append, h]
  · rw [Value.lookup_append, h]
  · have hevent : ("event", e.toValue.dump) ∈ c.ownEntries := by
      simp [ownEntries, envelopeEntries, eventEntries, he]
    have hdata : ("data", Value.map e.data) ∈ c.ownEntries := by
      simp [ownEntries, envelopeEntries, eventEntries, he]
    calc c.templateValues.lookup ("event.data." ++ q)
        = c.templateValues.lookup ("event" ++ "." ++ ("data" ++ "." ++ q)) := by
          simp only [← String.append_assoc]; rfl
      _ = e.toValue.dump.lookup ("data" ++ "." ++ q) := lookup_through hevent (by decide) _
      _ = (Value.map e.data).lookup q := lookup_dumped hd q
      _ = c.templateValues.lookup ("data" ++ "." ++ q) := (lookup_through hdata (by decide) q).symm

/-- A path may begin and end with a point, since an empty segment names the empty key. The data of an event are
found behind `data` where they shadow the steps. -/
theorem paths_compose_disguised :
    let v : Value := .map [("", .list [.map [("", .int 7)]])]
    v.lookup (".0" ++ "." ++ "") = .ok (some (.int 7)) ∧ v.lookup (".1" ++ "." ++ "x") = .ok none ∧
    v.lookup (".\u00b2" ++ "." ++ "x") = .error (.value (.intText "\u00b2")) ∧
    disguised.templateValues.lookup ("event.data." ++ "steps") =
      disguised.templateValues.lookup ("data." ++ "steps") := by
  intro v
  obtain ⟨hpaths, hdata⟩ := paths_compose
  obtain ⟨hfound, -, -⟩ := hpaths v ".0" ""
  obtain ⟨-, hmissing, -⟩ := hpaths v ".1" "x"
  obtain ⟨-, -, hfails⟩ := hpaths v ".\u00b2" "x"
  exact ⟨hfound (.map [("", .int 7)]) rfl, hmissing rfl, hfails _ rfl, hdata disguised disguise rfl rfl "steps"⟩

end Context

end EventHub
