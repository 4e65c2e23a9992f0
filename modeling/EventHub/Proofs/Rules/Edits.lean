import EventHub.Proofs.Frame.Rules
import EventHub.Proofs.Frame.Flows
import EventHub.Proofs.Rules.Index
import Mathlib.Logic.Relation

/-!
# Edits of the book of rules

* **Edits** (`RuleBook.Edit`): the changes of a book that the operations of the registry make. An
  `IdPolicy` tells which ids they may name and which may be drawn for rules without one.
* **Invariants** (`RuleBook.Keyed.edit`, `RuleBook.Covered.edit`, `RuleBook.Sound.edit`): an edit keeps a
  book keyed and covered by its index, and one that draws unused ids keeps it sound.
* **Calls** (`RegistryCall`): a call that heeds a policy stays in every frame that is open to its
  edits (`allows_call`), and a call that fails does with those that it made before.
-/

namespace EventHub

open EventHub.Task

variable {α : Type} {host : Host α}

/-! ## Policies -/

/-- The ids that the operations of the registry may name, and those that may be drawn at a book. -/
structure IdPolicy where
  names : String → Prop
  draws : RuleBook → String → Prop

/-- Any id may be named, and any may be drawn. -/
def IdPolicy.any : IdPolicy where
  names _ := True
  draws _ _ := True

/-- Any id may be named, and no id that is in use is drawn. -/
def IdPolicy.unused : IdPolicy where
  names _ := True
  draws b id := b.get? id = none

/-! ## Edits -/

namespace RuleBook

variable {p : IdPolicy} {b b' : RuleBook}

/-- One change of a book by an operation that heeds the policy. -/
inductive Edit (p : IdPolicy) : RuleBook → RuleBook → Prop
  | register {b b' : RuleBook} {now fresh id : String} {d : Definition Rule} {r r' : Rule}
    (made : d.toRule now = .ok r) (named : ∀ id, r.id = some id → p.names id)
    (drawn : r.id = none → p.draws b fresh)
    (done : b.register now fresh r = .ok (id, r', b')) : Edit p b b'
  | update {b b' : RuleBook} {now id : String} {updates : Value} {r : Rule} (named : p.names id)
    (done : b.update now id updates = .ok (r, b')) : Edit p b b'
  | remove {b b' : RuleBook} {id : String} {r : Rule} (named : p.names id)
    (done : b.remove id = .ok (r, b')) : Edit p b b'

/-- An edit that heeds a policy heeds one that forbids less. -/
theorem Edit.weaken {q : IdPolicy} (h : Edit p b b') (hn : ∀ id, p.names id → q.names id)
    (hd : ∀ id, p.draws b id → q.draws b id) : Edit q b b' := by
  cases h with
  | register made named drawn done =>
    exact .register made (fun id hid => hn id (named id hid)) (fun hid => hd _ (drawn hid)) done
  | update named done => exact .update (hn _ named) done
  | remove named done => exact .remove (hn _ named) done

/-- Any number of changes. -/
def Leads (p : IdPolicy) : RuleBook → RuleBook → Prop := Relation.ReflTransGen (Edit p)

/-- The rules are stored under their ids and complete, and the index tells their types. -/
structure Sound (b : RuleBook) : Prop extends Keyed b where
  indexed : b.Indexed

theorem Sound.empty : Sound .empty := ⟨.empty, .empty⟩

theorem Keyed.edit (h : Edit p b b') (hb : b.Keyed) : b'.Keyed := by
  cases h with
  | register made _ _ done =>
    obtain ⟨rfl, rfl, -⟩ := register_eq_ok done
    have hr := Definition.complete_of_toRule made
    exact hb.insert rfl ⟨hr.name, hr.actions, hr.types⟩
  | update _ done =>
    obtain ⟨current, -, hr, rfl⟩ := update_eq_ok done
    obtain ⟨hid, hcomplete⟩ := revise_eq_ok hr
    exact hb.replace current hid hcomplete
  | remove _ done =>
    obtain ⟨-, rfl⟩ := remove_eq_ok done
    exact hb.erase _ _

theorem Covered.edit (h : Edit p b b') (hb : b.Keyed) (hc : b.Covered) : b'.Covered := by
  cases h with
  | register _ _ _ done =>
    obtain ⟨-, rfl, -⟩ := register_eq_ok done
    exact hc.insert hb
  | update _ done =>
    obtain ⟨current, -, -, rfl⟩ := update_eq_ok done
    exact hc.replace hb current
  | remove _ done =>
    obtain ⟨-, rfl⟩ := remove_eq_ok done
    exact hc.erase hb _ _

theorem Covered.leads (h : Leads p b b') (hb : b.Keyed) (hc : b.Covered) : b'.Keyed ∧ b'.Covered := by
  induction h with
  | refl => exact ⟨hb, hc⟩
  | tail _ he ih => exact ⟨ih.1.edit he, ih.2.edit he ih.1⟩

theorem Sound.edit (h : Edit .unused b b') (hb : b.Sound) : b'.Sound := by
  refine ⟨hb.toKeyed.edit h, ?_⟩
  cases h with
  | register _ _ drawn done =>
    obtain ⟨-, rfl, hid⟩ := register_eq_ok done
    obtain ⟨hn, rfl⟩ | ⟨-, hfree⟩ := hid
    · exact hb.indexed.insert (drawn hn)
    · exact hb.indexed.insert hfree
  | update _ done =>
    obtain ⟨current, hg, -, rfl⟩ := update_eq_ok done
    exact hb.indexed.replace hb.toKeyed hg
  | remove _ done =>
    obtain ⟨hg, rfl⟩ := remove_eq_ok done
    exact hb.indexed.erase hb.toKeyed hg

theorem Sound.leads (hb : b.Sound) (h : Leads .unused b b') : b'.Sound := by
  induction h with
  | refl => exact hb
  | tail _ he ih => exact ih.edit he

end RuleBook

/-- The frame in which the book of rules changes by edits only. -/
def Frame.ofEdits (p : IdPolicy) : Frame α where
  allows h h' := RuleBook.Leads p h.engine.book h'.engine.book
  refl _ := .refl
  trans := .trans

theorem Frame.ofEdits_free (p : IdPolicy) : (Frame.ofEdits (α := α) p).Free where
  log _ _ := .refl
  effects _ _ := .refl
  serial _ _ := .refl
  cache _ _ := .refl
  deskCounters _ _ _ _ _ := .refl
  engineCounters _ _ _ _ _ := .refl

/-! ## Calls -/

/-- A call of the registry of rules. -/
inductive RegistryCall
  | register (d : Definition Rule)
  | update (id : String) (updates : Value)
  | setEnabled (id : String) (enabled : Value)
  | delete (id : String)
  | load (definitions : List (Definition Rule))

/-- Makes the call, whatever it gives. -/
def RegistryCall.run (host : Host α) : RegistryCall → Task α Unit
  | register d => discard (registerRule host d)
  | update id updates => discard (updateRule host id updates)
  | setEnabled id enabled => discard (setRuleEnabled host id enabled)
  | delete id => deleteRule host id
  | load definitions => discard (loadRules host definitions)

/-- The id that registering the definition names or draws at the hub is one that may be. -/
def IdPolicy.HeededBy (p : IdPolicy) (d : Definition Rule) (h : Hub α) : Prop :=
  ∀ r, d.toRule h.now.text = .ok r →
    (∀ id, r.id = some id → p.names id) ∧ (r.id = none → p.draws h.engine.book (h.drawnRuleId r))

/-- The ids that registering the definitions one after the other names or draws may be. -/
def IdPolicy.HeededByAll (p : IdPolicy) (host : Host α) : List (Definition Rule) → Hub α → Prop
  | [], _ => True
  | d :: rest, h => p.HeededBy d h ∧
    ∀ id h', outcome (registerRule host d) h = (.ok id, h') → p.HeededByAll host rest h'

/-- The ids that the call names or draws at the hub may be. -/
def RegistryCall.Heeds (p : IdPolicy) (host : Host α) : RegistryCall → Hub α → Prop
  | register d, h => p.HeededBy d h
  | update id _, _ => p.names id
  | setEnabled id _, _ => p.names id
  | delete id, _ => p.names id
  | load definitions, h => p.HeededByAll host definitions h

theorem IdPolicy.any_heededByAll (definitions : List (Definition Rule)) (h : Hub α) :
    IdPolicy.any.HeededByAll host definitions h := by
  induction definitions generalizing h with
  | nil => trivial
  | cons d rest ih => exact ⟨fun _ _ => ⟨fun _ _ => trivial, fun _ => trivial⟩, fun _ h' _ => ih h'⟩

/-- Every call heeds the policy that rules nothing out. -/
theorem RegistryCall.heeds_any (c : RegistryCall) (h : Hub α) : c.Heeds .any host h := by
  cases c with
  | register d => exact fun _ _ => ⟨fun _ _ => trivial, fun _ => trivial⟩
  | load definitions => exact IdPolicy.any_heededByAll definitions h
  | update | setEnabled | delete => trivial

section Calls

variable {F : Frame α} {p : IdPolicy} {h : Hub α}

/-- A free frame that allows every edit, in which receivers stay, is one in which calls stay. -/
structure Frame.OpenToEdits (F : Frame α) (p : IdPolicy) : Prop where
  free : F.Free
  edit : ∀ (h : Hub α) book, RuleBook.Edit p h.engine.book book → F.allows h (h.withRules book)

theorem Frame.ofEdits_open (p : IdPolicy) : (Frame.ofEdits (α := α) p).OpenToEdits p :=
  ⟨Frame.ofEdits_free p, fun _ _ he => .single he⟩

/-- The topics under which the registry tells of its rules. -/
def registryTopics : List String := [Topic.ruleRegistered, Topic.ruleUpdated, Topic.ruleRemoved]

variable (hF : F.OpenToEdits p) (ht : ∀ topic ∈ registryTopics, host.ReportsWithin F topic)
include hF ht

theorem allows_register {d : Definition Rule} (hd : p.HeededBy d h) :
    F.allows h (outcome (registerRule host d) h).2 := by
  refine allows_registerRule hF.free (ht _ (by decide)) fun r id r' book hr done => ?_
  have hb := afterDraw_engine r h
  refine hF.edit _ book ?_
  rw [hb]
  exact .register hr (hd r hr).1 (hd r hr).2 done

theorem allows_registerAll {definitions : List (Definition Rule)}
    (hd : p.HeededByAll host definitions h) :
    F.allows h (outcome (registerAll host definitions) h).2 := by
  induction definitions generalizing h with
  | nil => exact F.refl h
  | cons d rest ih =>
    obtain ⟨hd, hrest⟩ := hd
    have hone := allows_register hF ht hd
    unfold registerAll
    rw [outcome_bind]
    generalize hr : outcome (registerRule host d) h = run at hone
    obtain ⟨r, h'⟩ := run
    cases r with
    | error fault => exact hone
    | ok id =>
      refine F.trans hone ?_
      have hall := ih (hrest id h' hr)
      dsimp only
      rw [outcome_bind]
      generalize outcome (registerAll host rest) h' = run at hall
      obtain ⟨r, h''⟩ := run
      cases r <;> exact hall

/-- A call that heeds the policy stays in the frame, whether it succeeds or fails. -/
theorem allows_call {c : RegistryCall} (hc : c.Heeds p host h) :
    F.allows h (outcome (c.run host) h).2 := by
  cases c with
  | register d =>
    rw [RegistryCall.run, hub_discard]
    exact allows_register hF ht hc
  | update id updates =>
    rw [RegistryCall.run, hub_discard]
    exact allows_updateRule hF.free (ht _ (by decide)) fun r book done =>
      hF.edit h book (.update hc done)
  | setEnabled id enabled =>
    rw [RegistryCall.run, hub_discard]
    exact allows_setRuleEnabled hF.free (ht _ (by decide)) fun r book done =>
      hF.edit h book (.update hc done)
  | delete id =>
    exact allows_deleteRule hF.free (ht _ (by decide)) fun r book done =>
      hF.edit h book (.remove hc done)
  | load definitions =>
    rw [RegistryCall.run, hub_discard]
    unfold loadRules
    obtain ho | ⟨fault, ho⟩ := engineOperation_cases "load_rules" h
    case inr =>
      rw [outcome_bind_error ho]
      exact F.refl h
    -- Loading stops at the first rule that is refused; those before it are stored by then.
    have hall := allows_registerAll hF ht hc
    rw [outcome_bind_ok ho, outcome_bind]
    generalize outcome (registerAll host definitions) h = run at hall
    obtain ⟨r, h'⟩ := run
    cases r with
    | error fault => exact hall
    | ok ids =>
      exact F.trans hall (Within.bind (Within.log hF.free _ _ _) (fun _ => Within.pure ids) h')

end Calls

end EventHub
