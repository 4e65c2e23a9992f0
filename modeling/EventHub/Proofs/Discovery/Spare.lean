import EventHub.Proofs.Discovery.AutoRule
import EventHub.Proofs.Hub.Steady

/-!
# What leaves the rules of event types alone

Everything but the hub's own discoveries spares the rules that the hub makes for event types, as long
as nobody names their ids.

* **Ids** (`IsAutoId`, `IdPolicy.sparing`): the ids of those rules. None of them is ever drawn.
* **Books** (`RuleBook.SameAt`, `Spares.edit`): edits that do not name them leave their rules and what
  the index has of them.
* **Hubs** (`Frame.sparing`): steady hubs in which those rules are left, and with them all that is
  known of events and who of the hub listens (`Hub.observing`). Handling events, running flows and
  every operation of the registries that does not name those ids are in this frame.
-/

namespace EventHub

open EventHub.Task

variable {α : Type}

/-! ## Ids -/

/-- The id is that of the rule of an event type. -/
def IsAutoId (id : String) : Prop := ∃ t, id = autoRuleId (.text t)

theorem autoRuleId_text (t : String) : autoRuleId (.text t) = "auto-" ++ t ++ "-rule" := rfl

theorem autoRuleId_inj {t u : String} (h : autoRuleId (.text t) = autoRuleId (.text u)) : t = u := by
  rw [autoRuleId_text, autoRuleId_text, ← String.toList_inj] at h
  simp only [String.toList_append, List.append_assoc] at h
  exact String.toList_inj.1 (List.append_cancel_right (List.append_cancel_left h))

/-- Ids that are drawn for rules are none of those. -/
theorem not_isAutoId_drawnRuleId {h : Hub α} {r : Rule} (hr : r.id = none) :
    ¬ IsAutoId (h.drawnRuleId r) := by
  rintro ⟨t, ht⟩
  have hdrawn : h.drawnRuleId r = "rule-" ++ Task.idDigits (h.serial + 1) := by
    rw [Hub.drawnRuleId, RuleBook.needsId, hr]
    rfl
  rw [hdrawn, autoRuleId_text, ← String.toList_inj] at ht
  simp [String.toList_append] at ht

/-- No id of the rule of an event type is named or drawn. -/
def IdPolicy.sparing : IdPolicy where
  names id := ¬ IsAutoId id
  draws _ id := ¬ IsAutoId id

/-- One id is not named or drawn. -/
def IdPolicy.besides (id : String) : IdPolicy where
  names other := other ≠ id
  draws _ other := other ≠ id

/-! ## Books -/

namespace RuleBook

/-- The two books have the same rule under the id, and index it the same. -/
structure SameAt (id : String) (b b' : RuleBook) : Prop where
  rule : b'.get? id = b.get? id
  index : ∀ t, id ∈ b'.indexed t ↔ id ∈ b.indexed t

variable {b b₁ b₂ b' : RuleBook} {id other : String} {r : Rule}

theorem SameAt.rfl : SameAt id b b := ⟨Eq.refl _, fun _ => Iff.rfl⟩

theorem SameAt.trans (h₁ : SameAt id b b₁) (h₂ : SameAt id b₁ b₂) : SameAt id b b₂ :=
  ⟨h₂.rule.trans h₁.rule, fun t => (h₂.index t).trans (h₁.index t)⟩

theorem sameAt_insert (hne : id ≠ other) : SameAt other b (b.insert id r) where
  rule := Assoc.get?_put_of_ne _ _ hne
  index t := by
    rw [mem_indexed_insert]
    exact or_iff_left fun h => hne h.1.symm

theorem sameAt_unindex (hb : b.Keyed) (hne : id ≠ other) :
    SameAt other b ⟨b.rules, unindex b.index id r⟩ where
  rule := Eq.refl _
  index t := by
    refine (mem_unindex hb.tidy r).trans ?_
    exact and_iff_left fun h => hne h.1.symm

theorem sameAt_erase (hb : b.Keyed) (hne : id ≠ other) :
    SameAt other b ⟨Assoc.erase b.rules id, unindex b.index id r⟩ where
  rule := Assoc.get?_erase_of_ne _ hne
  index := (sameAt_unindex hb hne).index

theorem sameAt_replace (hb : b.Keyed) (hne : id ≠ other) (current : Rule) :
    SameAt other b (b.replace id current r) :=
  (sameAt_unindex hb hne).trans (sameAt_insert hne)

/-- An edit that does not name or draw an id leaves its rule and what the index has of it. -/
theorem SameAt.edit (hb : b.Keyed) (h : Edit (.besides id) b b') : SameAt id b b' := by
  cases h with
  | register _ named drawn done =>
    obtain ⟨-, rfl, hcases⟩ := register_eq_ok done
    obtain ⟨hn, rfl⟩ | ⟨hs, -⟩ := hcases
    · exact sameAt_insert (drawn hn)
    · exact sameAt_insert (named _ hs)
  | update named done =>
    obtain ⟨current, -, -, rfl⟩ := update_eq_ok done
    exact sameAt_replace hb named current
  | remove named done =>
    obtain ⟨-, rfl⟩ := remove_eq_ok done
    exact sameAt_erase hb named

/-- The rules of event types are left. -/
def Spares (b b' : RuleBook) : Prop :=
  b.Keyed → b'.Keyed ∧ ∀ id, IsAutoId id → SameAt id b b'

theorem Spares.rfl : Spares b b := fun hb => ⟨hb, fun _ _ => SameAt.rfl⟩

theorem Spares.trans (h₁ : Spares b b₁) (h₂ : Spares b₁ b₂) : Spares b b₂ := fun hb =>
  have s₁ := h₁ hb
  have s₂ := h₂ s₁.1
  ⟨s₂.1, fun id hid => (s₁.2 id hid).trans (s₂.2 id hid)⟩

/-- An edit that names and draws none of their ids spares the rules of event types. -/
theorem Spares.edit (h : Edit .sparing b b') : Spares b b' := fun hb =>
  ⟨hb.edit h, fun _ hid => .edit hb <|
    h.weaken (fun _ hn heq => hn (heq ▸ hid)) fun _ hn heq => hn (heq ▸ hid)⟩

end RuleBook

/-! ## Hubs -/

/-- The subscriptions of the hub's own listeners. -/
def Subscriptions.own (s : Subscriptions) : List Subscription :=
  s.entries.filter fun e => ¬ e.subscriber.Foreign

/-- What is known of events, what waits, and who of the hub listens. -/
def Hub.observing (h : Hub α) : Schema × List Event × Bool × Bool × List Subscription × List Nat :=
  (h.bus.schema, h.bus.pending, h.bus.busy, h.bus.running, h.bus.subscriptions.own, h.flows.listeners)

/-- The frame in which the rules of event types are left, and what is known of events. -/
def Frame.apart : Frame α where
  allows h h' := h'.observing = h.observing ∧ RuleBook.Spares h.engine.book h'.engine.book
  refl _ := ⟨rfl, .rfl⟩
  trans h₁ h₂ := ⟨h₂.1.trans h₁.1, h₁.2.trans h₂.2⟩

theorem Frame.apart_free : (Frame.apart (α := α)).Free where
  log _ _ := ⟨rfl, .rfl⟩
  effects _ _ := ⟨rfl, .rfl⟩
  serial _ _ := ⟨rfl, .rfl⟩
  cache _ _ := ⟨rfl, .rfl⟩
  deskCounters _ _ _ _ _ := ⟨rfl, .rfl⟩
  engineCounters _ _ _ _ _ := ⟨rfl, .rfl⟩

/-- The frame of what leaves the rules of event types alone (module doc). -/
def Frame.sparing : Frame α := Frame.apart.whileSteady

theorem Frame.sparing_free : (Frame.sparing (α := α)).Free := Frame.whileSteady_free Frame.apart_free

theorem Frame.sparing_openToEdits : (Frame.sparing (α := α)).OpenToEdits .sparing where
  free := Frame.sparing_free
  edit _ _ he hh := ⟨⟨hh.inOrder, hh.outlet, hh.apt⟩, rfl, .edit he⟩

theorem Frame.sparing_openToFlows : (Frame.sparing (α := α)).OpenToFlows :=
  .of_flows fun h d hd hh => ⟨⟨hh.inOrder, hh.outlet, hh.apt⟩, by simp [Hub.observing, hd], .rfl⟩

end EventHub
