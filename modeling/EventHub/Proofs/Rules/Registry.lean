import EventHub.Proofs.Frame.Receive

/-!
# Runs of the rule registry

Calls of the registry in any order, succeeding or failing, and whatever happens to the rest of the
hub between them.

* **Runs** (`RegistryRun`): the hubs that calls lead to from an empty book.
* **The index** (`RegistryRun.covered`, `RegistryRun.sound`): in every hub of a run the registered rules
  are complete and stored under their ids, and the index finds them; where no id in use is drawn, the
  index tells their types.
-/

namespace EventHub

open EventHub.Task

variable {α : Type} {host : Host α}

/-! ## Runs -/

/-- Whatever is received, the receiver changes the book by edits that heed the policy. -/
def Host.EditsWithin (host : Host α) (p : IdPolicy) : Prop :=
  ∀ s n, Within (Frame.ofEdits p) (host.receive s n)

/-- The hubs that calls of the registry lead to, from one without rules: calls that heed the policy,
succeeding or failing, and anything that leaves the book of rules. -/
inductive RegistryRun (host : Host α) (p : IdPolicy) : Hub α → Prop
  | start {h : Hub α} (empty : h.engine.book = .empty) : RegistryRun host p h
  | call {h : Hub α} (c : RegistryCall) (run : RegistryRun host p h) (heeds : c.Heeds p host h) :
    RegistryRun host p (outcome (c.run host) h).2
  | pass {h h' : Hub α} (run : RegistryRun host p h) (same : h'.engine.book = h.engine.book) :
    RegistryRun host p h'

variable {p : IdPolicy} {h : Hub α}

theorem Frame.ofEdits_openToHub (hp : ∀ id, p.names id) :
    (Frame.ofEdits (α := α) p).OpenToHub p where
  toOpenToEdits := Frame.ofEdits_open p
  toOpenToFlows := .of_flows fun _ _ _ => .refl
  events _ _ _ _ _ := .refl
  names := hp

/-- An application whose functions edit the book edits it by way of notices, too. -/
theorem Application.editsWithin {app : Application α} (hp : ∀ id, p.names id)
    (happ : app.StaysWithin (Frame.ofEdits p)) : app.host.EditsWithin p :=
  within_receive (Frame.ofEdits_openToHub hp) happ receptionDepth

theorem RegistryRun.leads (hs : host.EditsWithin p) (hr : RegistryRun host p h) :
    RuleBook.Leads p .empty h.engine.book := by
  induction hr with
  | start empty => exact empty ▸ .refl
  | call c _ heeds ih =>
    exact ih.trans (allows_call (Frame.ofEdits_open p)
      (fun topic _ =>
        (Host.TellsWithin.of_receive (Frame.ofEdits_free p).openToActions.openToTraces hs topic).reports) heeds)
  | pass _ same ih => exact same ▸ ih

/-- In every hub of a run the book is sound: one induction over the calls, with `Sound.edit` for
the changes that each of them makes. -/
theorem RegistryRun.sound (hs : host.EditsWithin .unused) (hr : RegistryRun host .unused h) :
    h.engine.book.Sound := RuleBook.Sound.empty.leads (hr.leads hs)

/-- Whatever ids are drawn, the index covers the rules of every hub of a run. -/
theorem RegistryRun.covered (hs : host.EditsWithin p) (hr : RegistryRun host p h) :
    h.engine.book.Keyed ∧ h.engine.book.Covered :=
  RuleBook.Covered.leads (hr.leads hs) .empty .empty

/-- After any calls of the registry, succeeding or failing: every rule is stored once, under its
own id; the index has an id under an event type exactly when the id is that of a stored rule which
names the type, or names none and the type is `*`; no entry of the index is empty; and every stored
rule has a name and actions, each with a type. -/
theorem RegistryRun.representation (hs : host.EditsWithin .unused)
    (hr : RegistryRun host .unused h) :
    (Assoc.keys h.engine.book.rules).Nodup ∧
    (∀ id r, (id, r) ∈ h.engine.book.rules → r.id = some id) ∧
    (∀ t id, id ∈ h.engine.book.indexed t ↔ ∃ r, (id, r) ∈ h.engine.book.rules ∧
      (t ∈ r.eventTypes ∨ (t = "*" ∧ r.eventTypes = []))) ∧
    (Assoc.keys h.engine.book.index).Nodup ∧
    (∀ t ids, (t, ids) ∈ h.engine.book.index → ids ≠ []) ∧
    ∀ id r, (id, r) ∈ h.engine.book.rules →
      r.name ≠ "" ∧ r.actions ≠ [] ∧ ∀ a ∈ r.actions, a.type ≠ "" := by
  have hb := hr.sound hs
  refine ⟨hb.distinct, hb.id, fun t id => ?_, hb.tidy.distinct, fun t ids hm => ?_,
    fun id r hm => ?_⟩
  · rw [hb.indexed t id]
    refine exists_congr fun r => ?_
    rw [hb.toKeyed.mem_iff, Rule.mem_indexTypes]
    rfl
  · exact hb.tidy.filled t ids ((Assoc.mem_iff_get? hb.tidy.distinct).1 hm)
  · have hr := hb.complete id r hm
    exact ⟨hr.name, hr.actions, hr.types⟩

/-- A rule for one type, named twice. -/
def twiceNamed : Value :=
  .map [("id", .text "r1"), ("name", .text "Twice"),
    ("conditions", .map [("event_type", .list [.text "a", .text "a"])]),
    ("actions", .list [.map [("type", .text "log_event")]])]

/-- The hub after the rule was registered and then given the type `*`. -/
def Hub.afterRenaming : Hub Unit :=
  let registered := outcome ((RegistryCall.register (.document twiceNamed)).run
    (Application.host .silent)) (Hub.atMidnight ())
  (outcome ((RegistryCall.update "r1" (.map [("conditions", .map [("event_type", .text "*")])])).run
    (Application.host .silent)) registered.2).2

theorem RegistryRun.afterRenaming :
    RegistryRun (Application.host .silent) .unused Hub.afterRenaming := by
  refine .call _ (.call _ (.start rfl) fun r _ => ⟨fun _ _ => trivial, fun _ => rfl⟩) ?_
  exact trivial

theorem RegistryRun.representation_afterRenaming :
    Hub.afterRenaming.engine.book.index = [("*", ["r1"])] ∧
    ∀ t id, id ∈ Hub.afterRenaming.engine.book.indexed t ↔
      ∃ r, (id, r) ∈ Hub.afterRenaming.engine.book.rules ∧
        (t ∈ r.eventTypes ∨ (t = "*" ∧ r.eventTypes = [])) :=
  ⟨by decide +kernel, (RegistryRun.representation
    (Application.editsWithin (fun _ => trivial) (Application.silent_staysWithin _))
    RegistryRun.afterRenaming).2.2.1⟩

end EventHub
