import EventHub.Hub.State

/-!
# Runs and frames of tasks

The run of a task, one construct at a time, and what a task may do to the hub it runs on.

* **Runs** (`outcome_*`): the outcome of each construct of which tasks are made.
* **Frames** (`Frame`): a relation between the hub before and the hub after that holds when nothing
  is done, and of two changes when it holds of each. `Task.Within F t` says that every run of `t`
  is in the frame, whether it gives a result or a fault.
* **Rules** (`Within.pure`, `Within.bind`, …): one for each construct. A construct that changes the
  hub asks that the frame allows the change (`Within.change`).
* **Free frames** (`Frame.Free`): frames that do not see what every part of the hub may leave
  behind: the traces of handlers (`Frame.OpenToTraces`), which are lines of the log, effects, drawn
  ids and entries of the cache, with the counters of the action desk those of actions
  (`Frame.OpenToActions`), and the counters of the rule engine.
-/

namespace EventHub

variable {α β γ : Type}

/-! ## Runs -/

namespace Task

@[simp]
theorem outcome_pure (b : β) (h : Hub α) : outcome (pure b) h = (.ok b, h) := rfl

@[simp]
theorem outcome_throw (fault : Fault) (h : Hub α) :
    outcome (throw fault : Task α β) h = (.error fault, h) := rfl

@[simp]
theorem outcome_get (h : Hub α) : outcome (get : Task α (Hub α)) h = (.ok h, h) := rfl

@[simp]
theorem outcome_modify (f : Hub α → Hub α) (h : Hub α) :
    outcome (modify f : Task α Unit) h = (.ok (), f h) := rfl

@[simp]
theorem outcome_now (h : Hub α) : outcome now h = (.ok h.now.text, h) := rfl

@[simp]
theorem outcome_attempt (t : Task α β) (h : Hub α) :
    outcome (attempt t) h = (.ok (outcome t h).1, (outcome t h).2) := rfl

@[simp]
theorem outcome_ofExcept (r : Except Fault β) (h : Hub α) : outcome (ofExcept r) h = (r, h) := by
  cases r <;> rfl

theorem outcome_bind (t : Task α β) (f : β → Task α γ) (h : Hub α) :
    outcome (t >>= f) h = match outcome t h with
      | (.ok b, h') => outcome (f b) h'
      | (.error fault, h') => (.error fault, h') := by
  simp only [outcome, ExceptT.run, StateT.run, bind, ExceptT.bind, ExceptT.mk, StateT.bind]
  obtain ⟨r, h'⟩ := t h
  cases r <;> rfl

/-- After a result the run goes on with it. -/
theorem outcome_bind_ok {t : Task α β} {f : β → Task α γ} {h h' : Hub α} {b : β}
    (ht : outcome t h = (.ok b, h')) : outcome (t >>= f) h = outcome (f b) h' := by
  rw [outcome_bind, ht]

/-- A fault ends the run. -/
theorem outcome_bind_error {t : Task α β} {f : β → Task α γ} {h h' : Hub α} {fault : Fault}
    (ht : outcome t h = (.error fault, h')) : outcome (t >>= f) h = (.error fault, h') := by
  rw [outcome_bind, ht]

/-- A run with a result had one from each of its parts. -/
theorem bind_outcome_eq_ok {t : Task α β} {f : β → Task α γ} {h h' : Hub α} {c : γ}
    (ht : outcome (t >>= f) h = (.ok c, h')) :
    ∃ b h₁, outcome t h = (.ok b, h₁) ∧ outcome (f b) h₁ = (.ok c, h') := by
  rw [outcome_bind] at ht
  generalize outcome t h = run at ht ⊢
  obtain ⟨r, h₁⟩ := run
  cases r with
  | error fault => cases ht
  | ok b => exact ⟨b, h₁, rfl, ht⟩

/-- A task without a result that does not fail. -/
theorem outcome_of_isOk {t : Task α Unit} {h : Hub α} (ht : (outcome t h).1.isOk = true) :
    outcome t h = (.ok (), (outcome t h).2) := by
  generalize outcome t h = run at ht ⊢
  obtain ⟨r, h'⟩ := run
  cases r with
  | error fault => cases ht
  | ok _ => rfl

/-- A result that is not used: the run is the same. -/
theorem hub_bind_pure (t : Task α β) (c : γ) (h : Hub α) :
    (outcome (t >>= fun _ => pure c) h).2 = (outcome t h).2 := by
  rw [outcome_bind]
  generalize outcome t h = run
  obtain ⟨r, h'⟩ := run
  cases r <;> rfl

theorem hub_discard (t : Task α β) (h : Hub α) : (outcome (discard t) h).2 = (outcome t h).2 :=
  hub_bind_pure t () h

end Task

/-! ## Frames -/

/-- What may become of a hub (module doc). -/
structure Frame (α : Type) where
  /-- The hub before and the hub after. -/
  allows : Hub α → Hub α → Prop
  refl : ∀ h, allows h h
  trans : ∀ {h₁ h₂ h₃}, allows h₁ h₂ → allows h₂ h₃ → allows h₁ h₃

/-- The frame does not see what a handler may leave behind (module doc). -/
structure Frame.OpenToTraces (F : Frame α) : Prop where
  log : ∀ (h : Hub α) lines, F.allows h { h with log := lines }
  effects : ∀ (h : Hub α) effects, F.allows h { h with effects := effects }
  serial : ∀ (h : Hub α) n, F.allows h { h with serial := n }
  cache : ∀ (h : Hub α) c, F.allows h { h with cache := c }

/-- The frame does not see what every action may leave behind (module doc). -/
structure Frame.OpenToActions (F : Frame α) : Prop extends Frame.OpenToTraces F where
  deskCounters : ∀ (h : Hub α) total succeeded failed last,
    F.allows h { h with desk := { h.desk with total, succeeded, failed, last } }

/-- The frame does not see what every part of the hub may leave behind (module doc). -/
structure Frame.Free (F : Frame α) : Prop extends Frame.OpenToActions F where
  engineCounters : ∀ (h : Hub α) rulesRun actionsRun errors lastRun,
    F.allows h { h with engine := { h.engine with rulesRun, actionsRun, errors, lastRun } }

@[grind →]
theorem Frame.OpenToActions.openToTraces {F : Frame α} (hF : F.OpenToActions) : F.OpenToTraces :=
  hF.toOpenToTraces

instance (F : Frame α) : Coe F.OpenToActions F.OpenToTraces := ⟨Frame.OpenToActions.openToTraces⟩

@[grind →]
theorem Frame.Free.openToActions {F : Frame α} (hF : F.Free) : F.OpenToActions := hF.toOpenToActions

instance (F : Frame α) : Coe F.Free F.OpenToActions := ⟨Frame.Free.openToActions⟩

/-- A frame of invariants: what `keeps` holds of the hub before holds of the hub after. -/
def Frame.ofInvariant (keeps : Hub α → Prop) : Frame α where
  allows h h' := keeps h → keeps h'
  refl _ hk := hk
  trans h₁ h₂ hk := h₂ (h₁ hk)

/-- The frame in which a part of the hub stays as it is. -/
def Frame.ofPart {π : Type} (part : Hub α → π) : Frame α where
  allows h h' := part h' = part h
  refl _ := rfl
  trans h₁ h₂ := h₂.trans h₁

/-- Every run of the task is in the frame. -/
def Task.Within (F : Frame α) (t : Task α β) : Prop := ∀ h, F.allows h (t.outcome h).2

namespace Task.Within

variable {F : Frame α}

@[grind ←]
theorem pure (b : β) : Within F (Pure.pure b : Task α β) := fun h => F.refl h

@[grind ←]
theorem throw (fault : Fault) : Within F (MonadExcept.throw fault : Task α β) := fun h => F.refl h

@[grind ←]
theorem fail (fault : Fault) : Within F (Task.fail fault : Task α β) := Within.throw fault

@[grind ←]
theorem get : Within F (MonadState.get : Task α (Hub α)) := fun h => F.refl h

@[grind ←]
theorem now : Within F (Task.now : Task α String) := fun h => F.refl h

@[grind ←]
theorem ofExcept (r : Except Fault β) : Within F (Task.ofExcept r : Task α β) := by
  intro h
  rw [outcome_ofExcept]
  exact F.refl h

@[grind ←]
theorem attempt {t : Task α β} (ht : Within F t) : Within F (Task.attempt t) := ht

@[grind ←]
theorem bind {t : Task α β} {f : β → Task α γ} (ht : Within F t) (hf : ∀ b, Within F (f b)) :
    Within F (t >>= f) := by
  intro h
  have hth := ht h
  rw [outcome_bind]
  generalize outcome t h = run at hth
  obtain ⟨r, h'⟩ := run
  cases r with
  | error fault => exact hth
  | ok b => exact F.trans hth (hf b h')

@[grind ←]
theorem discard {t : Task α β} (ht : Within F t) : Within F (Functor.discard t) := by
  intro h
  rw [hub_discard]
  exact ht h

theorem change {f : Hub α → Hub α} (hf : ∀ h, F.allows h (f h)) :
    Within F (modify f : Task α Unit) := hf

/-- Of a task that ran, a frame says what became of the hub. -/
theorem of_outcome {t : Task α β} (ht : Within F t) {h h' : Hub α} {r : Except Fault β}
    (hr : outcome t h = (r, h')) : F.allows h h' := by
  have := ht h
  rwa [hr] at this

@[grind ←]
theorem inService (s : Service) : Within F (Task.inService s) := by
  unfold Task.inService
  grind

section Traces

variable (hF : F.OpenToTraces)
include hF

@[grind ←]
theorem log (level : Level) (part text : String) : Within F (Task.log level part text) := by
  refine change fun h => ?_
  split
  · exact hF.log h _
  · exact F.refl h

@[grind ←]
theorem logFault (part title : String) (extra : Fields) (fault : Fault) :
    Within F (Task.logFault part title extra fault) := log hF _ _ _

@[grind ←]
theorem record (e : Effect) : Within F (Task.record e) := change fun h => hF.effects h _

@[grind ←]
theorem contact (c : Contact β) : Within F (Task.contact c) := fun h => hF.effects h _

@[grind ←]
theorem freshId (stem : String) : Within F (Task.freshId stem) := fun h => hF.serial h _

end Traces

end Task.Within

end EventHub
