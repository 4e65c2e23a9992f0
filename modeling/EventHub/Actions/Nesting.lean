import EventHub.Fault
import EventHub.Record.Rule

/-!
# Actions within actions

The parameters of an action may hold further actions, to be run by it. They are less deep than
the parameters that they are part of, so a nest of actions has an end.

* `depth_chosenBranch`: a branch is no deeper than the parameters.
* `branchCall_lt`: the parameters of a branch are less deep than those that it is a branch of.
-/

namespace EventHub

/-- The invocation that a value describes. -/
def invocationOf (v : Value) : Except Fault ActionInvocation :=
  match ActionInvocation.check v with
  | .ok call => .ok call
  | .error issues => .error (.definition (.invalid .invocation "ActionInvocation" issues))

/-- The branch that the outcome of a condition selects; a branch that counts as false is none. -/
def chosenBranch (params : Fields) (outcome : Bool) : Option Value :=
  (Assoc.get? params (if outcome then "true_action" else "false_action")).filter Value.truthy

theorem depth_chosenBranch {params : Fields} {outcome : Bool} {branch : Value}
    (h : chosenBranch params outcome = some branch) :
    branch.depth ≤ Value.depthFields params := by
  obtain ⟨hg, -⟩ := Option.filter_eq_some_iff.1 h
  exact Value.depth_get? hg

theorem depth_recordEntries {kind : RecordKind} {v : Value} {fields : Fields}
    (h : recordEntries kind v = .ok fields) : Value.depthFields fields < v.depth := by
  unfold recordEntries at h
  split at h
  · cases h
    simp only [Value.depth]
    omega
  · rename_i entries
    cases h
    have := Value.depth_textEntries entries
    simp only [Value.depth]
    omega
  · split at h
    · cases h
      simp only [Value.depth]
      omega
    · simp [Checked.fail] at h
  · simp [Checked.fail] at h

theorem depth_field {fields : Fields} {name given : String} {v : Value}
    (h : field fields name = some (given, v)) : v.depth ≤ Value.depthFields fields := by
  unfold field at h
  split at h
  · rename_i w hw
    cases h
    exact Value.depth_get? hw
  · obtain ⟨w, hw, he⟩ := Option.map_eq_some_iff.1 h
    cases he
    exact Value.depth_get? hw

theorem depth_checkMapOrNull {v : Value} {params : Fields} (h : checkMapOrNull v = .ok params) :
    Value.depthFields params ≤ v.depth := by
  unfold checkMapOrNull at h
  split at h
  · cases h
    simp [Value.depthFields]
  · exact Nat.le_of_lt (depth_checkMap h)

theorem depth_invocationOf {v : Value} {call : ActionInvocation}
    (h : invocationOf v = .ok call) : Value.depthFields call.parameters < v.depth := by
  unfold invocationOf ActionInvocation.check at h
  cases he : recordEntries .actionInvocation v with
  | error issues => simp [he, bind, Except.bind] at h
  | ok fields =>
    have hlt := depth_recordEntries he
    simp only [he, bind, Except.bind] at h
    split at h
    · rename_i c hc
      cases h
      simp only [ActionInvocation.ofFields, Checked.apply_eq_ok] at hc
      obtain ⟨_, params, ⟨_, _, hg, _, rfl⟩, hp, rfl⟩ := hc
      cases hg
      simp only [defaulted] at hp
      split at hp
      · rename_i given w hf
        have hw := depth_field hf
        cases hm : checkMapOrNull w with
        | error issues => simp [hm, Checked.within] at hp
        | ok found =>
          simp only [hm, Checked.within, Except.ok.injEq] at hp
          have := depth_checkMapOrNull hm
          subst hp
          show Value.depthFields found < v.depth
          omega
      · cases hp
        show Value.depthFields [] < v.depth
        simp only [Value.depthFields]
        omega
    · simp at h

theorem branchCall_lt {params : Fields} {outcome : Bool} {branch : Value} {call : ActionInvocation}
    (hb : chosenBranch params outcome = some branch) (hc : invocationOf branch = .ok call) :
    Value.depthFields call.parameters < Value.depthFields params :=
  Nat.lt_of_lt_of_le (depth_invocationOf hc) (depth_chosenBranch hb)

end EventHub
