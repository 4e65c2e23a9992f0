import EventHub.Proofs.Record.RuleForms
import EventHub.Proofs.Rules.Registry

/-!
# Registries made of JSON

Calls of the registry whose definitions and updates are JSON, which ask no function of the
application. Nothing is said of the ids that are drawn: they may be in use.

* **Edits** (`RuleBook.JsonEdit`): the changes of a book that such calls make.
* **Invariant** (`RuleBook.Portable`): every stored rule is plain, and the index has the id of each
  rule under its types. The index may have ids of rules that were overwritten.
* **Runs** (`JsonRun`): the hubs that such calls lead to from an empty book (`JsonRun.portable`).
-/

namespace EventHub

open EventHub.Task

variable {α : Type} {host : Host α}

/-! ## Definitions -/

/-- The definition is a JSON object, or a rule that was made from one. -/
def Definition.IsJson : Definition Rule → Prop
  | .document (.map fields) => Value.isJsonFields fields = true
  | .document _ => False
  | .checked r => r.Plain

/-- A document that describes a rule. -/
theorem Definition.toRule_document_eq_ok {now : String} {fields : Fields} {r : Rule} :
    (Definition.document (.map fields)).toRule now = .ok r ↔
      Rule.check now (.map fields) = .ok r := by
  have hmap : (Value.map fields).toMap = .ok (.map fields) := rfl
  rw [toRule_document, hmap]
  cases hc : Rule.check now (.map fields) <;> simp [bind, Except.bind, hc]

theorem Definition.plain_of_toRule {now : String} {d : Definition Rule} (hd : d.IsJson) {r : Rule}
    (h : d.toRule now = .ok r) : r.Plain := by
  cases d with
  | document v =>
    cases v with
    | map fields =>
      have hfields : Value.isJsonFields fields = true := hd
      exact Rule.plain_of_check (by simpa using hfields) (toRule_document_eq_ok.1 h)
    | _ => exact hd.elim
  | checked given =>
    have hc : Rule.check now given.toValue.dump = .ok given := Rule.check_write .plain now hd
    rw [toRule_checked, hc, Rule.Plain.custom hd] at h
    cases h
    exact hd

/-! ## Updates -/

theorem isJsonFields_snakeKeys {fields : Fields} (hf : Value.isJsonFields fields = true) :
    Value.isJsonFields (snakeKeys fields) = true := by
  refine Value.isJsonFields_merge rfl (Value.isJsonFields_iff.2 fun e he => ?_)
  obtain ⟨entry, hmem, rfl⟩ := List.mem_map.1 he
  exact Value.isJsonFields_iff.1 hf entry hmem

theorem isJsonFields_mergeUpdate {merged : Fields} (hm : Value.isJsonFields merged = true)
    {v : Value} (hv : v.isJson = true) (key : String) :
    Value.isJsonFields (mergeUpdate merged key v) = true := by
  unfold mergeUpdate
  split
  · rename_i new old _ hold
    have hold := Value.isJson_get? hm hold
    have hnew := isJsonFields_snakeKeys (by simpa using hv)
    have hboth := Value.isJsonFields_merge (by simpa using hold) hnew
    exact Value.isJsonFields_put hm (by simpa using hboth) _
  · exact Value.isJsonFields_put hm hv _

theorem isJsonFields_foldl_mergeUpdate {items merged : Fields}
    (hi : Value.isJsonFields items = true) (hm : Value.isJsonFields merged = true) :
    Value.isJsonFields (items.foldl (fun acc (k, v) => mergeUpdate acc k v) merged) = true := by
  induction items generalizing merged with
  | nil => exact hm
  | cons e rest ih =>
    simp only [Value.isJsonFields, Bool.and_eq_true] at hi
    exact ih hi.2 (isJsonFields_mergeUpdate hm hi.1 _)

theorem isJson_setItem {v item w : Value} {key : String} (hv : v.isJson = true)
    (hitem : item.isJson = true) (h : setItem v key item = .ok w) : w.isJson = true := by
  unfold setItem at h
  split at h
  · cases h
    simpa using Value.isJsonFields_put (by simpa using hv) hitem key
  · cases h
  · cases h

theorem isJsonFields_sealUpdate {merged fields : Fields} {id createdAt now : String}
    (hm : Value.isJsonFields merged = true)
    (h : sealUpdate merged id createdAt now = .ok fields) :
    Value.isJsonFields fields = true := by
  obtain ⟨created, hcreated, h⟩ := bind_eq_ok.1 h
  obtain ⟨updated, hupdated, h⟩ := bind_eq_ok.1 h
  have hid := Value.isJsonFields_put hm (Value.isJson_text id) "id"
  have hmeta : (Value.get (Assoc.put merged "id" (.text id)) "metadata").isJson = true := by
    unfold Value.get
    cases hg : Assoc.get? (Assoc.put merged "id" (.text id)) "metadata" with
    | none => exact Value.isJson_null
    | some v => exact Value.isJson_get? hid hg
  have hcreated := isJson_setItem hmeta (Value.isJson_text _) hcreated
  have hupdated := isJson_setItem hcreated (Value.isJson_text _) hupdated
  rw [← Except.ok.inj h]
  exact Value.isJsonFields_put hid hupdated _

namespace RuleBook

/-- A JSON update of a plain rule makes a plain rule. -/
theorem plain_of_revise {now id : String} {current r : Rule} {updates : Value}
    (hc : current.Plain) (hu : updates.isJson = true)
    (h : revise now id current updates = .ok r) : r.Plain := by
  obtain ⟨items, hitems, h⟩ := bind_eq_ok.1 h
  obtain ⟨merged, hm, h⟩ := bind_eq_ok.1 h
  have hitems : Value.isJsonFields items = true := by
    unfold itemsOf at hitems
    split at hitems
    · cases hitems
      simpa using hu
    · cases hitems
  have hmerged : Value.isJsonFields merged = true := by
    rw [Rule.dump_toValue] at hm
    exact isJsonFields_sealUpdate (isJsonFields_foldl_mergeUpdate (isJsonFields_snakeKeys hitems)
      (Rule.isJson_entries hc)) hm
  split at h
  · cases h
  · rename_i updated hcheck
    have hplain := Rule.plain_of_check (by simpa using hmerged) hcheck
    split at h
    · rw [hc.custom] at h
      cases h
      exact hplain.withCustom
    · cases h
      exact hplain

/-! ## Edits -/

/-- One change of a book by an operation that is given JSON. Any id may be drawn. -/
inductive JsonEdit : RuleBook → RuleBook → Prop
  | register {b b' : RuleBook} {now fresh id : String} {d : Definition Rule} {r r' : Rule}
    (json : d.IsJson) (made : d.toRule now = .ok r)
    (done : b.register now fresh r = .ok (id, r', b')) : JsonEdit b b'
  | update {b b' : RuleBook} {now id : String} {updates : Value} {r : Rule}
    (json : updates.isJson = true) (done : b.update now id updates = .ok (r, b')) : JsonEdit b b'
  | remove {b b' : RuleBook} {id : String} {r : Rule} (done : b.remove id = .ok (r, b')) :
    JsonEdit b b'

/-- The rules are stored under their ids, plain, and covered by the index. -/
structure Portable (b : RuleBook) : Prop extends Keyed b where
  plain : ∀ id r, (id, r) ∈ b.rules → r.Plain
  covered : b.Covered

variable {b b' : RuleBook} {id : String} {r : Rule}

theorem Portable.empty : Portable .empty :=
  ⟨.empty, fun _ _ h => (List.not_mem_nil h).elim, fun _ _ h => (List.not_mem_nil h).elim⟩

theorem Portable.insert (hb : b.Portable) (hid : r.id = some id) (hr : r.Plain) :
    (b.insert id r).Portable where
  toKeyed := hb.toKeyed.insert hid hr.complete
  plain id' r' hm := by
    obtain ⟨rfl, rfl⟩ | ⟨-, hm⟩ := hb.mem_insert.1 hm
    · exact hr
    · exact hb.plain id' r' hm
  covered := hb.covered.insert hb.toKeyed

theorem Portable.replace (hb : b.Portable) (current : Rule) (hid : r.id = some id)
    (hr : r.Plain) : (b.replace id current r).Portable where
  toKeyed := hb.toKeyed.replace current hid hr.complete
  plain := (hb.insert hid hr).plain
  covered := hb.covered.replace hb.toKeyed current

theorem Portable.erase (hb : b.Portable) (id : String) (r : Rule) :
    (RuleBook.mk (Assoc.erase b.rules id) (unindex b.index id r)).Portable where
  toKeyed := hb.toKeyed.erase id r
  plain id' r' hm := hb.plain id' r' (Assoc.mem_of_mem_erase hm)
  covered := hb.covered.erase hb.toKeyed id r

theorem Portable.edit (hb : b.Portable) (h : JsonEdit b b') : b'.Portable := by
  cases h with
  | register json made done =>
    obtain ⟨rfl, rfl, -⟩ := register_eq_ok done
    have hr := Definition.plain_of_toRule json made
    exact hb.insert rfl ⟨hr.name, hr.conditions, hr.actions, hr.calls⟩
  | update json done =>
    obtain ⟨current, hg, hr, rfl⟩ := update_eq_ok done
    have hcurrent := hb.plain _ _ (hb.mem_iff.2 hg)
    exact hb.replace current (revise_eq_ok hr).1 (plain_of_revise hcurrent json hr)
  | remove done =>
    obtain ⟨-, rfl⟩ := remove_eq_ok done
    exact hb.erase _ _

end RuleBook

/-! ## Calls -/

/-- The frame in which the book of rules changes by JSON edits only. -/
def Frame.ofJsonEdits : Frame α where
  allows h h' := Relation.ReflTransGen RuleBook.JsonEdit h.engine.book h'.engine.book
  refl _ := .refl
  trans := .trans

theorem Frame.ofJsonEdits_free : (Frame.ofJsonEdits (α := α)).Free where
  log _ _ := .refl
  effects _ _ := .refl
  serial _ _ := .refl
  cache _ _ := .refl
  deskCounters _ _ _ _ _ := .refl
  engineCounters _ _ _ _ _ := .refl

/-- Whoever is told of the registry edits it with JSON at most. -/
def Host.EditsWithJson (host : Host α) : Prop :=
  ∀ topic ∈ registryTopics, host.TellsWithin .ofJsonEdits topic

/-- What the call is given is JSON. -/
def RegistryCall.IsJson : RegistryCall → Prop
  | register d => d.IsJson
  | update _ updates => updates.isJson = true
  | setEnabled _ enabled => enabled.isJson = true
  | delete _ => True
  | load definitions => ∀ d ∈ definitions, d.IsJson

section Calls

variable (ht : host.EditsWithJson)
include ht

theorem within_register_json {d : Definition Rule} (hd : d.IsJson) :
    Within .ofJsonEdits (registerRule host d) := fun h =>
  allows_registerRule Frame.ofJsonEdits_free.openToActions (ht _ (by decide)).reports
    fun r id r' book made done => by
      refine .single ?_
      rw [afterDraw_engine]
      exact .register hd made done

theorem within_registerAll_json {definitions : List (Definition Rule)}
    (hd : ∀ d ∈ definitions, d.IsJson) : Within .ofJsonEdits (registerAll host definitions) := by
  induction definitions with
  | nil => exact Within.pure _
  | cons d rest ih =>
    refine Within.bind (within_register_json ht (hd d List.mem_cons_self)) fun _ => ?_
    exact Within.bind (ih fun d' hm => hd d' (List.mem_cons_of_mem d hm)) fun _ => Within.pure _

theorem within_call_json {c : RegistryCall} (hc : c.IsJson) :
    Within .ofJsonEdits (c.run host) := by
  have hF := Frame.ofJsonEdits_free (α := α)
  cases c with
  | register d => exact Within.discard (within_register_json ht hc)
  | update id updates =>
    exact Within.discard fun h => allows_updateRule hF (ht _ (by decide)).reports fun r book done =>
      .single (.update hc done)
  | setEnabled id enabled =>
    have hj : (Value.map [("metadata", .map [("enabled", enabled)])]).isJson = true := by
      have he : enabled.isJson = true := hc
      simp [Value.isJsonFields, he]
    exact Within.discard fun h => allows_setRuleEnabled hF (ht _ (by decide)).reports fun r book done =>
      .single (.update hj done)
  | delete id =>
    exact fun h => allows_deleteRule hF (ht _ (by decide)).reports fun r book done => .single (.remove done)
  | load definitions =>
    refine Within.discard (Within.bind (within_engineOperation _) fun _ => ?_)
    refine Within.bind (within_registerAll_json ht hc) fun _ => ?_
    exact Within.bind (Within.log hF _ _ _) fun _ => Within.pure _

end Calls

/-! ## Runs -/

/-- The hubs that calls of the registry with JSON lead to, from one without rules: calls that succeed
or fail, and anything that leaves the book of rules. -/
inductive JsonRun (host : Host α) : Hub α → Prop
  | start {h : Hub α} (empty : h.engine.book = .empty) : JsonRun host h
  | call {h : Hub α} (c : RegistryCall) (run : JsonRun host h) (json : c.IsJson) :
    JsonRun host (outcome (c.run host) h).2
  | pass {h h' : Hub α} (run : JsonRun host h) (same : h'.engine.book = h.engine.book) :
    JsonRun host h'

theorem RuleBook.Portable.edits {b b' : RuleBook} (hb : b.Portable)
    (h : Relation.ReflTransGen JsonEdit b b') : b'.Portable := by
  induction h with
  | refl => exact hb
  | tail _ he ih => exact ih.edit he

theorem JsonRun.portable (ht : host.EditsWithJson) {h : Hub α} (hr : JsonRun host h) :
    h.engine.book.Portable := by
  induction hr with
  | start empty => exact empty ▸ .empty
  | call c _ json ih => exact ih.edits (within_call_json ht json _)
  | pass _ same ih => exact same ▸ ih

end EventHub
