import EventHub.Proofs.Hub.Registration

/-!
# Well-formed flows

A flow should have a name and at least one step, and each step an id and one of the four types. Of a
document this is checked, and so it is of what an update makes of a flow. A flow object is taken as it
is, and so is a step that a document or an update lists ready-made.

* **Checks** (`Step.wellFormed_of_check`, `Flow.wellFormed_of_check`): what was checked is well-formed, up
  to the steps that were ready-made (`Value.StepsInOrder`).
* **The book** (`FlowBook.WellFormed`): what each operation keeps.
* **Calls** (`FlowEdit`): a call that brings nothing out of order leaves well-formed flows (`allows_edit`).
* `FlowEditRun.wellFormed`: hence so does a run of calls; and what is accepted on the way.
* `createFlow_unchecked`: a flow object without a name and steps is accepted.
-/

namespace EventHub

open EventHub.Task

variable {α : Type} {host : Host α} {h h' : Hub α}

/-! ## Well-formed flows -/

/-- The step has an id and one of the four types, with what the type needs. -/
def Step.WellFormed : Step → Prop
  | rule id _ | action id _ | condition id _ | transform id _ _ => id ≠ ""
  | unchecked _ _ | irregular _ => False

/-- The flow has a name and at least one step, and its steps are well-formed. -/
structure Flow.WellFormed (f : Flow) : Prop where
  name : f.name ≠ ""
  steps : f.steps ≠ []
  each : ∀ s ∈ f.steps, s.WellFormed

/-- Every flow of the book is well-formed. -/
def FlowBook.WellFormed (b : FlowBook) : Prop := ∀ e ∈ b, e.2.WellFormed

/-- The items of a value that stands for a list. -/
def Value.listed : Value → List Value
  | .list items | .tuple items | .set items => items
  | _ => []

/-- The steps that the value lists ready-made are well-formed. -/
def Value.StepsInOrder (v : Value) : Prop :=
  ∀ kind fields, .record kind fields ∈ v.listed → kind.stepType.isSome = true →
    (Step.ofRecord kind fields).WellFormed

/-- The steps that the entries list ready-made are well-formed. -/
def StepsInOrder (fields : Fields) : Prop := ∀ e ∈ fields, e.2.StepsInOrder

/-- A flow object that is well-formed, or a document that lists no ready-made step but well-formed
ones. -/
def Definition.InOrder : Definition Flow → Prop
  | .checked f => f.WellFormed
  | .document v => ∀ m fields, v.toMap = .ok m → recordEntries .flow m = .ok fields →
      StepsInOrder fields

/-! ## Checks -/

theorem checkStepOf_wellFormed {tag v : Value} {s : Step} (hs : checkStepOf tag v = .ok s) :
    s.WellFormed := by
  unfold checkStepOf at hs
  split at hs
  case h_5 => cases hs
  all_goals
    obtain ⟨fields, -, hs⟩ := bind_eq_ok.1 (Checked.within_eq_ok.1 hs)
    simp only [Checked.apply_eq_ok] at hs
  case h_4 =>
    obtain ⟨_, _, ⟨_, _, ⟨_, _, ⟨_, _, hmk, hid, rfl⟩, -, rfl⟩, -, rfl⟩, -, rfl⟩ := hs
    cases hmk
    exact checkName_ne_empty hid
  all_goals
    obtain ⟨_, _, ⟨_, _, ⟨_, _, hmk, hid, rfl⟩, -, rfl⟩, -, rfl⟩ := hs
    cases hmk
    exact checkName_ne_empty hid

/-- A checked step is well-formed, or it was ready-made. -/
theorem Step.wellFormed_of_check {v : Value} {s : Step} (hs : Step.check v = .ok s)
    (hv : ∀ kind fields, v = .record kind fields → kind.stepType.isSome = true →
      (Step.ofRecord kind fields).WellFormed) : s.WellFormed := by
  cases v with
  | map _ | table _ =>
    obtain ⟨tag, -, hs⟩ := checkTagged_eq_ok.1 hs
    exact checkStepOf_wellFormed hs
  | record kind fields =>
    obtain ⟨tag, -, hs⟩ := checkTagged_eq_ok.1 hs
    unfold checkReadyStep at hs
    split at hs
    · rename_i type _ hk
      split at hs
      · cases hs
        exact hv kind fields rfl (by simp [hk])
      · exact checkStepOf_wellFormed hs
    · exact checkStepOf_wellFormed hs
  | _ => cases hs

theorem checkList_step_wellFormed {v : Value} {steps : List Step}
    (hs : checkList Step.check v = .ok steps) (hv : v.StepsInOrder) : ∀ s ∈ steps, s.WellFormed := by
  intro s hmem
  have hitems : Checked.items Step.check 0 v.listed = .ok steps := by
    cases v <;> first | exact hs | cases hs
  obtain ⟨item, hitem, hc⟩ := Checked.of_mem_items hitems hmem
  exact Step.wellFormed_of_check hc fun kind fields he => hv kind fields (he ▸ hitem)

theorem field_mem {fields : Fields} {name given : String} {v : Value}
    (hf : field fields name = some (given, v)) : (given, v) ∈ fields := by
  unfold field at hf
  split at hf
  · rename_i hw
    cases hf
    exact Assoc.mem_of_get? hw
  · obtain ⟨w, hw, he⟩ := Option.map_eq_some_iff.1 hf
    cases he
    exact Assoc.mem_of_get? hw

theorem Flow.wellFormed_of_fields {now : String} {fields : Fields} {f : Flow}
    (hf : Flow.ofFields now fields = .ok f) (hs : StepsInOrder fields) : f.WellFormed := by
  obtain ⟨-, hname, -, hsteps, -⟩ := Flow.ofFields_eq_ok.1 hf
  obtain ⟨given, v, hv, hsteps⟩ := required_eq_ok.1 hsteps
  obtain ⟨hlist, hne⟩ := checkSome_eq_ok.1 hsteps
  exact ⟨checkName_ne_empty hname, hne, checkList_step_wellFormed hlist (hs _ (field_mem hv))⟩

/-- What a definition in order describes is well-formed. -/
theorem Definition.InOrder.toFlow {d : Definition Flow} (hd : d.InOrder) {now : String} {f : Flow}
    (hf : d.toFlow now = .ok f) : f.WellFormed := by
  cases d with
  | checked g =>
    cases hf
    exact hd
  | document v =>
    obtain ⟨m, hm, hf⟩ := bind_eq_ok.1 hf
    split at hf
    · rename_i made hmade
      cases hf
      obtain ⟨fields, he, hof⟩ := bind_eq_ok.1 hmade
      exact Flow.wellFormed_of_fields hof (hd m fields hm he)
    · cases hf

/-! ## Ready-made steps -/

/-- A well-formed step that is written out as a record is read as what it is. -/
theorem Step.WellFormed.ofRecord {s : Step} (hs : s.WellFormed) {kind : RecordKind} {fields : Fields}
    (hv : s.toValue = .record kind fields) : Step.ofRecord kind fields = s := by
  cases s with
  | rule => cases hv; rfl
  | action => cases hv; rfl
  | condition => cases hv; rfl
  | transform id input spec =>
    obtain ⟨type, template, function⟩ := spec
    cases hv
    cases type <;> cases function <;> rfl
  | unchecked => exact hs.elim
  | irregular => exact hs.elim

/-- The steps of a well-formed flow are in order when they are written out. -/
theorem Flow.WellFormed.stepsInOrder {f : Flow} (hf : f.WellFormed) :
    (Value.list (f.steps.map Step.toValue)).StepsInOrder := by
  intro kind fields hmem _
  obtain ⟨s, hs, hv⟩ := List.mem_map.1 hmem
  rw [(hf.each s hs).ofRecord hv]
  exact hf.each s hs

/-- So are the entries of such a flow: none but its steps are a list. -/
theorem Flow.WellFormed.entries {f : Flow} (hf : f.WellFormed) :
    StepsInOrder (FlowBook.entries f) := by
  intro e he
  simp only [FlowBook.entries, Flow.toValue, List.mem_cons, List.not_mem_nil, or_false] at he
  obtain rfl | rfl | rfl | rfl | rfl := he
  case inr.inr.inr.inl => exact hf.stepsInOrder
  · cases hid : f.id <;> simp [Value.StepsInOrder, Value.listed, Value.ofText?]
  all_goals simp [Value.StepsInOrder, Value.listed, FlowMetadata.toValue]

theorem StepsInOrder.put {fields : Fields} (hf : StepsInOrder fields) (key : String) {v : Value}
    (hv : v.StepsInOrder) : StepsInOrder (Assoc.put fields key v) := by
  intro e he
  rcases Assoc.of_mem_put he with rfl | he
  · exact hv
  · exact hf e he

theorem StepsInOrder.mergeUpdate {acc : Fields × Fields} (ha : StepsInOrder acc.1) (key : String)
    {v : Value} (hv : v.StepsInOrder) : StepsInOrder (FlowBook.mergeUpdate acc key v).1 := by
  unfold FlowBook.mergeUpdate
  split
  · exact ha
  · split
    · exact ha
    · exact ha.put key hv

/-- Updates in order keep entries in order, whatever they do to the metadata. -/
theorem StepsInOrder.mergeUpdates {items : Fields} (hi : StepsInOrder items) {acc : Fields × Fields}
    (ha : StepsInOrder acc.1) : StepsInOrder (items.foldl
      (fun acc (k, v) => FlowBook.mergeUpdate acc (Text.snakeCase k) v) acc).1 := by
  induction items generalizing acc with
  | nil => exact ha
  | cons e rest ih =>
    have hrest : StepsInOrder rest := fun e' he' => hi e' (List.mem_cons_of_mem _ he')
    have hfirst := ha.mergeUpdate (Text.snakeCase e.1) (hi e List.mem_cons_self)
    rw [List.foldl_cons]
    exact ih hrest hfirst

/-! ## The book -/

namespace FlowBook

variable {b b' : FlowBook} {now id : String} {f f' : Flow}

theorem WellFormed.put (hb : b.WellFormed) (id : String) (hf : f.WellFormed) :
    WellFormed (Assoc.put b id f) := by
  intro e he
  rcases Assoc.of_mem_put he with he | he
  · rw [he]
    exact hf
  · exact hb e he

theorem WellFormed.register {fresh : String} (hb : b.WellFormed) (hf : f.WellFormed)
    (done : b.register now fresh f = .ok (id, f', b')) : b'.WellFormed := by
  obtain ⟨rfl, rfl, -⟩ := register_eq_ok done
  exact hb.put id ⟨hf.name, hf.steps, hf.each⟩

/-- What updates in order make of a well-formed flow is well-formed. -/
theorem wellFormed_of_revise {updates : Value}
    (hf : f.WellFormed) (hu : ∀ items, itemsOf updates = .ok items → StepsInOrder items)
    (done : revise now id f updates = .ok f') : f'.WellFormed := by
  obtain ⟨items, hi, done⟩ := bind_eq_ok.1 done
  dsimp only at done
  split at done
  · rename_i updated hc
    cases done
    exact Flow.wellFormed_of_fields hc
      (((hu items hi).mergeUpdates hf.entries).put "metadata" (by simp [Value.StepsInOrder, Value.listed]))
  · cases done

theorem WellFormed.update {updates : Value} (hb : b.WellFormed)
    (hu : ∀ items, itemsOf updates = .ok items → StepsInOrder items)
    (done : b.update now id updates = .ok (f', b')) : b'.WellFormed := by
  unfold FlowBook.update at done
  split at done
  · cases done
  · rename_i current hc
    obtain ⟨updated, hr, done⟩ := bind_eq_ok.1 done
    cases done
    exact hb.put id (wellFormed_of_revise (hb _ (Assoc.mem_of_get? hc)) hu hr)

theorem WellFormed.remove (hb : b.WellFormed) (done : b.remove id = .ok (f, b')) : b'.WellFormed := by
  unfold FlowBook.remove at done
  split at done
  · cases done
  · cases done
    exact fun e he => hb e (Assoc.mem_of_mem_erase he)

end FlowBook

/-! ## Calls -/

/-- A call that changes the registered flows. -/
inductive FlowEdit
  | create (d : Definition Flow)
  | update (id : String) (updates : Value)
  | delete (id : String)

/-- Makes the call, whatever it gives. -/
def FlowEdit.run (host : Host α) : FlowEdit → Task α Unit
  | create d => discard (createFlow host d)
  | update id updates => discard (updateFlow host id updates)
  | delete id => deleteFlow host id

/-- The call brings no flow object and no ready-made step that is not well-formed. -/
def FlowEdit.InOrder : FlowEdit → Prop
  | create d => d.InOrder
  | update _ updates => ∀ items, itemsOf updates = .ok items → StepsInOrder items
  | delete _ => True

/-- The topics that changes of flows are told under. -/
def flowEditTopics : List String := [Topic.flowCreated, Topic.flowUpdated, Topic.flowDeleted]

/-- The frame in which well-formed flows stay well-formed. -/
def Frame.wellFormedFlows : Frame α := .ofInvariant fun h => h.flows.book.WellFormed

theorem Frame.wellFormedFlows_free : (Frame.wellFormedFlows (α := α)).Free where
  log _ _ := id
  effects _ _ := id
  serial _ _ := id
  cache _ _ := id
  deskCounters _ _ _ _ _ := id
  engineCounters _ _ _ _ _ := id

/-- Storing a book that is well-formed, logging it and telling it keeps flows well-formed. -/
theorem allows_flowChange {β : Type} {t : Task α β} (ht : Within .wellFormedFlows t) {book : FlowBook}
    (text : String) (hb : h.flows.book.WellFormed → book.WellFormed) :
    Frame.wellFormedFlows.allows h (outcome (do
      modifyFlows fun d => { d with book }
      Task.log .info flowPart text
      t) h).2 := by
  intro hh
  rw [modifyFlows, outcome_bind_ok (outcome_modify _ _)]
  have hlog := Within.log (Frame.wellFormedFlows_free (α := α)).openToActions.openToTraces .info flowPart text
  exact Within.bind hlog (fun _ => ht) _ (hb hh)

/-- A call that brings nothing out of order keeps flows well-formed. -/
theorem allows_edit (ht : ∀ topic ∈ flowEditTopics, host.ReportsWithin .wellFormedFlows topic)
    {c : FlowEdit} (hc : c.InOrder) (h : Hub α) :
    Frame.wellFormedFlows.allows h (outcome (c.run host) h).2 := by
  cases c with
  | create d =>
    intro hh
    rw [FlowEdit.run, hub_discard]
    cases hr : outcome (createFlow host d) h with
    | mk result h' =>
    cases result with
    | error fault =>
      rw [(refusesAlike_createFlow host host d h fault h' hr).1]
      exact hh
    | ok id =>
      obtain ⟨f, f', book, lines, hd, done, rfl⟩ := createFlow_eq_ok hr
      -- Those who are told come after the flow is stored, at a hub whose flows are well formed.
      exact ht _ (by simp [flowEditTopics]) _ rfl _ (hh.register (hc.toFlow hd) done)
  | update id updates =>
    rw [FlowEdit.run, hub_discard, updateFlow, outcome_bind_ok (outcome_now h),
      outcome_bind_ok (outcome_get h), outcome_bind, outcome_ofExcept]
    cases done : h.flows.book.update h.now.text id updates with
    | error fault => exact Frame.wellFormedFlows.refl h
    | ok made =>
      obtain ⟨f, book⟩ := made
      have htell := Within.bind (ht Topic.flowUpdated (by simp [flowEditTopics]) (.flow f) rfl) fun _ =>
        Within.pure f
      exact allows_flowChange htell _ fun hh => hh.update hc done
  | delete id =>
    rw [FlowEdit.run, deleteFlow, outcome_bind_ok (outcome_get h), outcome_bind, outcome_ofExcept]
    cases done : h.flows.book.remove id with
    | error fault => exact Frame.wellFormedFlows.refl h
    | ok made =>
      obtain ⟨f, book⟩ := made
      have htell := ht Topic.flowDeleted (by simp [flowEditTopics])
        (.value (.map [("flow_id", .text id), ("name", .text f.name)])) rfl
      exact allows_flowChange htell _ fun hh => hh.remove done

/-- The hubs that calls which bring nothing out of order lead to from one without flows. What happens
in between leaves the flows. -/
inductive FlowEditRun (host : Host α) : Hub α → Prop
  | start {h : Hub α} (none : h.flows.book = []) : FlowEditRun host h
  | call {h : Hub α} (c : FlowEdit) (run : FlowEditRun host h) (inOrder : c.InOrder) :
    FlowEditRun host (outcome (c.run host) h).2
  | pass {h h' : Hub α} (run : FlowEditRun host h) (book : h'.flows.book = h.flows.book) :
    FlowEditRun host h'

/-- The hub takes the definition as that of a new flow. -/
def Hub.AcceptsFlow (host : Host α) (h : Hub α) (d : Definition Flow) : Prop :=
  ∃ id h', outcome (createFlow host d) h = (.ok id, h')

variable (host) in
/-- A definition is accepted if it describes a flow whose id, if it has one, is not in use. -/
theorem acceptsFlow_iff (d : Definition Flow) : h.AcceptsFlow host d ↔
    ∃ f, d.toFlow h.now.text = .ok f ∧ ∀ id, f.id = some id → Assoc.get? h.flows.book id = none := by
  constructor
  · rintro ⟨id, h', hr⟩
    obtain ⟨f, f', book, lines, hd, done, -⟩ := createFlow_eq_ok hr
    obtain ⟨-, -, hid⟩ := FlowBook.register_eq_ok done
    refine ⟨f, hd, fun given hgiven => ?_⟩
    obtain ⟨hnone, -⟩ | ⟨hsome, hfree⟩ := hid
    · rw [hnone] at hgiven
      cases hgiven
    · obtain rfl := Option.some.inj (hsome.symm.trans hgiven)
      exact hfree
  · rintro ⟨f, hd, hfree⟩
    rw [Hub.AcceptsFlow, outcome_createFlow_of_toFlow host hd, FlowBook.register_of_free hfree]
    exact ⟨_, _, rfl⟩

/-- A document describes a flow if its check as one succeeds. -/
theorem Definition.toFlow_document {now : String} {v : Value} {f : Flow} :
    (Definition.document v).toFlow now = .ok f ↔ ∃ m, v.toMap = .ok m ∧ Flow.check now m = .ok f := by
  rw [Definition.toFlow, bind_eq_ok]
  refine exists_congr fun m => and_congr_right fun _ => ?_
  cases Flow.check now m <;> simp

/-- Along calls that bring no flow object and no ready-made step that is not well-formed, while those who
are told of flows keep them well-formed, every stored flow has a name and at least one step, and every
step an id and one of the four types. A document is accepted if its check as a flow succeeds and the id is
not in use; of a flow object the id is all that counts. -/
theorem FlowEditRun.wellFormed
    (ht : ∀ topic ∈ flowEditTopics, host.ReportsWithin .wellFormedFlows topic)
    (run : FlowEditRun host h) :
    h.flows.book.WellFormed ∧
    (∀ v, h.AcceptsFlow host (.document v) ↔ ∃ m f, v.toMap = .ok m ∧
      Flow.check h.now.text m = .ok f ∧ ∀ id, f.id = some id → Assoc.get? h.flows.book id = none) ∧
    ∀ f, h.AcceptsFlow host (.checked f) ↔
      ∀ id, f.id = some id → Assoc.get? h.flows.book id = none := by
  refine ⟨?_, fun v => ?_, fun f => ?_⟩
  · induction run with
    | start none =>
      rw [none]
      exact fun _ he => nomatch he
    | call c _ inOrder ih => exact allows_edit ht inOrder _ ih
    | pass _ book ih =>
      rw [book]
      exact ih
  · rw [acceptsFlow_iff]
    simp only [Definition.toFlow_document]
    exact ⟨fun ⟨f, ⟨m, hm, hc⟩, hfree⟩ => ⟨m, f, hm, hc, hfree⟩,
      fun ⟨m, f, hm, hc, hfree⟩ => ⟨f, ⟨m, hm, hc⟩, hfree⟩⟩
  · rw [acceptsFlow_iff]
    exact ⟨fun ⟨_, hf, hfree⟩ => Except.ok.inj hf ▸ hfree, fun hfree => ⟨f, rfl, hfree⟩⟩

/-- A flow of one step that fires a rule. -/
def firingFlow : Flow :=
  { id := some "f2", name := "second", description := "", steps := [.rule "s" "r"],
    metadata := .fresh "" }

/-- The calls that create a flow from a document and one from an object, change the first, give it the
steps of the second ready-made, and delete the second. -/
def orderlyEdits : List FlowEdit :=
  [.create (.document (flowOf (some "f1") "first" [firingStep])), .create (.checked firingFlow),
    .update "f1" (.map [("Steps", .list (firingFlow.steps.map Step.toValue)), ("name", .text "third")]),
    .delete "f2"]

/-- The hub after the calls. -/
def Hub.afterEdits (host : Host α) (h : Hub α) (calls : List FlowEdit) : Hub α :=
  calls.foldl (fun h c => (outcome (c.run host) h).2) h

theorem FlowEditRun.wellFormed_orderlyEdits :
    let h := (Hub.atMidnight ()).afterEdits .deaf orderlyEdits
    h.flowNames = [("f1", "third")] ∧ h.flows.book.WellFormed := by
  have hfiring : firingFlow.WellFormed := by
    refine ⟨by decide, by simp [firingFlow], fun s hs => ?_⟩
    obtain rfl := List.mem_singleton.1 hs
    exact (by decide : "s" ≠ "")
  have hplain {v : Value} (hv : ∀ kind fields, .record kind fields ∉ v.listed) : v.StepsInOrder :=
    fun kind fields hmem => absurd hmem (hv kind fields)
  have hrun : FlowEditRun .deaf ((Hub.atMidnight ()).afterEdits .deaf orderlyEdits) := by
    refine .call _ (.call _ (.call _ (.call _ (.start rfl) ?_) hfiring) ?_) trivial
    · intro m fields hm hf e he
      cases hm
      cases hf
      simp only [idEntry, Option.toList_some, List.map_cons, List.map_nil, List.cons_append,
        List.nil_append, List.mem_cons, List.not_mem_nil, or_false] at he
      obtain rfl | rfl | rfl := he <;> exact hplain (by simp [Value.listed, firingStep])
    · intro items hi e he
      cases hi
      simp only [List.mem_cons, List.not_mem_nil, or_false] at he
      obtain rfl | rfl := he
      · exact hfiring.stepsInOrder
      · exact hplain (by simp [Value.listed])
  refine ⟨by decide +kernel, (FlowEditRun.wellFormed (fun topic _ => ?_) hrun).1⟩
  exact (Host.deaf_tellsWithin Frame.wellFormedFlows_free topic).reports

/-- A flow object without a name and without steps. -/
def hollowFlow : Flow :=
  { id := none, name := "", description := "", steps := [], metadata := .fresh "" }

/-- A rule object without a name and without actions. -/
def hollowRule : Rule :=
  { id := none, name := "", description := "", conditions := none, actions := [], metadata := .fresh "" }

/-- What describes a flow object is no flow when it is checked, and yet the object is accepted: it is
stored without a name and without steps. The engine refuses a rule object of the kind. -/
theorem createFlow_unchecked :
    (∀ (form : Form) now, (Flow.check now (form.write hollowFlow.toValue)).isOk = false) ∧
    (outcome (createFlow .deaf (.checked hollowFlow)) (Hub.atMidnight ())).1.toOption =
      some "flow-000000000001" ∧
    (outcome (createFlow .deaf (.checked hollowFlow)) (Hub.atMidnight ())).2.flows.book.map
      (fun e => (e.1, e.2.name, e.2.steps.length)) = [("flow-000000000001", "", 0)] ∧
    (outcome (registerRule .deaf (.checked hollowRule)) (Hub.atMidnight ())).1.isOk = false := by
  refine ⟨fun form now => ?_, by decide +kernel, by decide +kernel, by decide +kernel⟩
  cases form <;> rfl

end EventHub
