import EventHub.Proofs.Flows.Watch

/-!
# Calls that are refused

A call that changes the registered rules or flows looks first and acts then: until all checks have
passed it only reads, and from the first change on nothing can fail. So a call that fails has
changed nothing and told nobody.

* **Looking** (`Frame.still`): tasks that leave the hub as it is.
* **Acting** (`Task.Sure`): tasks that always come to their end.
* **Refusals** (`Task.RefusesAlike`): looking, then acting (`RefusesAlike.bind`,
  `RefusesAlike.of_sure`).
* **Edits** (`EditCall`): the calls, with whatever ids and documents the caller gives;
  `EditCall.refusesAlike` goes through them.
-/

namespace EventHub

open EventHub.Task

variable {α β γ : Type}

/-! ## Looking -/

/-- The frame in which nothing changes. -/
def Frame.still : Frame α := .ofPart fun h => h

namespace Task

theorem Within.still {t : Task α β} (ht : Within Frame.still t) (h : Hub α) :
    outcome t h = ((outcome t h).1, h) := Prod.ext rfl (ht h)

/-! ## Acting -/

/-- The task comes to its end, whatever the hub. -/
def Sure (t : Task α β) : Prop := ∀ h, ∃ b h', outcome t h = (.ok b, h')

theorem Sure.pure (b : β) : Sure (Pure.pure b : Task α β) := fun h => ⟨b, h, rfl⟩

theorem Sure.bind {t : Task α β} {f : β → Task α γ} (ht : Sure t) (hf : ∀ b, Sure (f b)) :
    Sure (t >>= f) := by
  intro h
  obtain ⟨b, h₁, hb⟩ := ht h
  obtain ⟨c, h₂, hc⟩ := hf b h₁
  exact ⟨c, h₂, by rw [outcome_bind_ok hb, hc]⟩

theorem Sure.change (f : Hub α → Hub α) : Sure (modify f : Task α Unit) := fun h => ⟨(), f h, rfl⟩

theorem Sure.log (level : Level) (part text : String) : Sure (Task.log level part text : Task α Unit) :=
  Sure.change _

theorem Sure.freshId (stem : String) : Sure (Task.freshId stem : Task α String) :=
  fun _ => ⟨_, _, rfl⟩

theorem Sure.get : Sure (MonadState.get : Task α (Hub α)) := fun h => ⟨h, h, rfl⟩

/-! ## Refusals -/

/-- Where `t` fails, it has changed nothing and `u` fails as well. The two are one call at hosts
that receive notices each in its own way. -/
def RefusesAlike (t u : Task α β) : Prop :=
  ∀ h fault h', outcome t h = (.error fault, h') → h' = h ∧ outcome u h = (.error fault, h)

theorem RefusesAlike.of_sure {t u : Task α β} (ht : Sure t) : RefusesAlike t u := by
  intro h fault h' hf
  obtain ⟨b, h₁, hb⟩ := ht h
  cases hf.symm.trans hb

/-- After looking, what is refused is refused by what follows. -/
theorem RefusesAlike.bind {t : Task α β} {f g : β → Task α γ} (ht : Within Frame.still t)
    (hf : ∀ b, RefusesAlike (f b) (g b)) : RefusesAlike (t >>= f) (t >>= g) := by
  intro h fault h' hr
  have hl := ht.still h
  cases hb : (outcome t h).1 with
  | error fault' =>
    rw [hb] at hl
    rw [outcome_bind_error hl] at hr ⊢
    cases hr
    exact ⟨rfl, rfl⟩
  | ok b =>
    rw [hb] at hl
    rw [outcome_bind_ok hl] at hr ⊢
    exact hf b h fault h' hr

/-- A change that may be refused is made by what cannot fail. -/
theorem RefusesAlike.decide (change : Hub α → Except Fault β) {f g : β → Task α γ}
    (hf : ∀ made, Sure (f made)) :
    RefusesAlike (MonadState.get >>= fun h => Task.ofExcept (change h) >>= f)
      (MonadState.get >>= fun h => Task.ofExcept (change h) >>= g) :=
  .bind Within.get fun _ => .bind (Within.ofExcept _) fun made => .of_sure (hf made)

/-- Where an id is drawn for the change, the change is not refused. -/
theorem RefusesAlike.drawThenDecide {draws : Bool} {stem : String}
    (change : String → Hub α → Except Fault β) {f g : β → Task α γ}
    (hdraws : draws = true → ∀ fresh h, ∃ made, change fresh h = .ok made)
    (hf : ∀ made, Sure (f made)) :
    let decide (f : β → Task α γ) (fresh : String) : Task α γ :=
      MonadState.get >>= fun h => Task.ofExcept (change fresh h) >>= f
    RefusesAlike
      (if draws = true then Task.freshId stem >>= decide f else Pure.pure "" >>= decide f)
      (if draws = true then Task.freshId stem >>= decide g else Pure.pure "" >>= decide g) := by
  intro decide
  cases draws with
  | true =>
    refine RefusesAlike.of_sure ((Sure.freshId stem).bind fun fresh => Sure.get.bind fun h => ?_)
    obtain ⟨made, hm⟩ := hdraws rfl fresh h
    rw [hm]
    exact (Sure.pure made).bind hf
  | false => exact .bind (Within.pure "") fun fresh => .decide (change fresh) hf

theorem RefusesAlike.discard {t u : Task α β} (ht : RefusesAlike t u) :
    RefusesAlike (Functor.discard t) (Functor.discard u) := by
  intro h fault h' hr
  obtain ⟨hsame, hu⟩ := ht h fault h' (by
    change outcome (t >>= fun _ => Pure.pure ()) h = _ at hr
    cases hb : outcome t h with
    | mk r h₁ =>
      cases r with
      | ok b => rw [outcome_bind_ok hb] at hr; cases hr
      | error fault' => rw [outcome_bind_error hb] at hr; cases hr; rfl)
  exact ⟨hsame, outcome_bind_error (f := fun _ => Pure.pure ()) hu⟩

end Task

/-! ## Telling -/

variable {host : Host α}

theorem sure_announce (topic : String) (n : Notice) : Sure (announce host topic n) :=
  fun h => ⟨(), _, outcome_announce_ok topic n h⟩

theorem sure_engineNotice (topic : String) (n : Notice) : Sure (engineNotice host topic n) :=
  fun h => ⟨(), _, outcome_engineNotice topic n h⟩

/-! ## Edits -/

/-- The id that a value names; `missing` is the fault for what can be the id of nothing. -/
def idOf (missing : String → Fault) (v : Value) : Task α String := do
  match ← Task.ofExcept v.textKey? with
  | some id => return id
  | none => throw (missing v.plain)

/-- A call that changes the registered rules or flows, with whatever the caller gives for ids,
updates and documents. -/
inductive EditCall
  | registerRule (d : Definition Rule)
  | updateRule (id updates : Value)
  | setRuleEnabled (id enabled : Value)
  | deleteRule (id : Value)
  | createFlow (d : Definition Flow)
  | updateFlow (id updates : Value)
  | deleteFlow (id : Value)

/-- Makes the call. -/
def EditCall.run (host : Host α) : EditCall → Task α Unit
  | registerRule d => discard (EventHub.registerRule host d)
  | updateRule id updates => do
    discard (EventHub.updateRule host (← idOf .ruleNotFound id) updates)
  | setRuleEnabled id enabled => do
    discard (EventHub.setRuleEnabled host (← idOf .ruleNotFound id) enabled)
  | deleteRule id => do EventHub.deleteRule host (← idOf .ruleNotFound id)
  | createFlow d => discard (EventHub.createFlow host d)
  | updateFlow id updates => do
    discard (EventHub.updateFlow host (← idOf .flowNotFound id) updates)
  | deleteFlow id => do EventHub.deleteFlow host (← idOf .flowNotFound id)

/-- A book takes every rule that has no id. -/
theorem RuleBook.register_of_needsId (b : RuleBook) (now fresh : String) {r : Rule}
    (hr : RuleBook.needsId r = true) : ∃ made, b.register now fresh r = .ok made := by
  unfold register
  rw [show r.id = none from Option.isNone_iff_eq_none.1 hr]
  exact ⟨_, rfl⟩

/-- A book takes every flow that has no id. -/
theorem FlowBook.register_of_isNone (b : FlowBook) (now fresh : String) {f : Flow}
    (hf : f.id.isNone = true) : ∃ made, b.register now fresh f = .ok made := by
  unfold register
  rw [show f.id = none from Option.isNone_iff_eq_none.1 hf]
  exact ⟨_, rfl⟩

theorem refusesAlike_registerRule (host other : Host α) (d : Definition Rule) :
    RefusesAlike (registerRule host d) (registerRule other d) := by
  refine .bind (Within.inService _) fun _ => .bind Within.now fun now => ?_
  refine .bind (Within.ofExcept _) fun r => ?_
  refine .drawThenDecide (fun fresh h => h.engine.book.register now fresh r) ?_ fun made => ?_
  · exact fun hr fresh h => RuleBook.register_of_needsId _ _ _ hr
  · exact (Sure.change _).bind fun _ => (Sure.log _ _ _).bind fun _ =>
      (sure_engineNotice _ _).bind fun _ => Sure.pure _

theorem refusesAlike_createFlow (host other : Host α) (d : Definition Flow) :
    RefusesAlike (createFlow host d) (createFlow other d) := by
  refine .bind Within.now fun now => .bind (Within.ofExcept _) fun f => ?_
  refine .drawThenDecide (fun fresh h => h.flows.book.register now fresh f) ?_ fun made => ?_
  · exact fun hf fresh h => FlowBook.register_of_isNone _ _ _ hf
  · exact (Sure.change _).bind fun _ => (Sure.log _ _ _).bind fun _ =>
      (sure_announce _ _).bind fun _ => Sure.pure _

end EventHub
