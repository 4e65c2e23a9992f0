import EventHub.Proofs.Discovery.Spare
import EventHub.Proofs.Rules.Execution

/-!
# What the hub's listeners do to the rules of event types

A listener changes the rule of one event type, in one step that stands between changes that spare all
such rules.

* **Extending** (`allows_extendLogged`, `outcome_extendAll_append`): a rule that is extended is updated, and
  rules are extended one after the other.
* **Types** (`discoverType_inserts`): the rule of a newly seen type is inserted.
* **Fields** (`discoverFields_replaces`): the rule of a known type is replaced by one that knows the
  fields, too. Rules of users that are extended beside it are spared with the rest.
* **Events** (`within_handleEvent_sparing`): running the rules of an event spares them.
-/

namespace EventHub

open EventHub.Task

variable {α : Type} {app : Application α} {h : Hub α}

/-- The rule is none of an event type. -/
def Rule.OfUser (r : Rule) : Prop := ∃ id, r.id = some id ∧ ¬ IsAutoId id

/-- The rule of an id stands once among those that are found for a type. -/
theorem RuleBook.Keyed.ofEventType_around {b : RuleBook} (hb : b.Keyed) {t id : String} {r : Rule}
    (hg : b.get? id = some r) (ht : id ∈ b.indexed t) :
    ∃ before after, b.ofEventType t = before ++ r :: after ∧
      ∀ other ∈ before ++ after, ∃ id' ∈ b.indexed t, other.id = some id' ∧ id' ≠ id := by
  let p : String × Rule → Bool := fun entry => (b.indexed t).contains entry.1
  obtain ⟨before, after, hsplit, hbefore, hafter⟩ :=
    Assoc.filter_around hb.distinct hg (p := p) (by simpa [p] using ht)
  refine ⟨before.map (·.2), after.map (·.2), ?_, fun other hm => ?_⟩
  · rw [RuleBook.ofEventType]
    change (b.rules.filter p).map (·.2) = _
    rw [hsplit, List.map_append, List.map_cons]
  · rw [← List.map_append] at hm
    obtain ⟨e, he, rfl⟩ := List.mem_map.1 hm
    have hne : e.1 ≠ id := (List.mem_append.1 he).elim (hbefore e) (hafter e)
    have hfound : e ∈ b.rules.filter p :=
      hsplit ▸ (List.Sublist.append_left (List.sublist_cons_self _ _) before).subset he
    obtain ⟨hstored, hc⟩ := List.mem_filter.1 hfound
    exact ⟨e.1, List.contains_iff_mem.1 hc, hb.id e.1 e.2 hstored, hne⟩

/-- Of the rules that name a type, all but that of the type itself are of users. -/
theorem RuleBook.ofEventType_split {b : RuleBook} (hb : b.Keyed) {t : String} {r : Rule}
    (hg : b.get? (autoRuleId (.text t)) = some r) (ht : autoRuleId (.text t) ∈ b.indexed t)
    (hi : ∀ u, autoRuleId (.text u) ∈ b.indexed t → u = t) :
    ∃ before after, b.ofEventType t = before ++ r :: after ∧
      (∀ r ∈ before, r.OfUser) ∧ ∀ r ∈ after, r.OfUser := by
  obtain ⟨before, after, hsplit, hothers⟩ := hb.ofEventType_around hg ht
  have huser : ∀ other ∈ before ++ after, other.OfUser := fun other hm => by
    obtain ⟨id, hindexed, hid, hne⟩ := hothers other hm
    refine ⟨id, hid, ?_⟩
    rintro ⟨u, rfl⟩
    exact hne (by rw [hi u hindexed])
  exact ⟨before, after, hsplit, fun r hr => huser r (List.mem_append_left _ hr),
    fun r hr => huser r (List.mem_append_right _ hr)⟩

/-! ## Extending rules -/

section Extending

variable {host : Host α} {r r' : Rule} {names : List String}

theorem outcome_extendLogged_ok (host : Host α) (t : String) (names : List String) (r : Rule) (h : Hub α) :
    outcome (extendLogged host t names r) h = (.ok (), (outcome (extendLogged host t names r) h).2) := by
  refine outcome_of_isOk ?_
  unfold extendLogged synthesisFailed
  rw [outcome_bind_ok (outcome_attempt _ h)]
  cases (outcome (extendRule host r names) h).1 with
  | error fault => rfl
  | ok changed => cases changed <;> rfl

theorem outcome_extendAll_append (host : Host α) (t : String) (names : List String)
    (before after : List Rule) (h : Hub α) :
    outcome (extendAll host t names (before ++ after)) h =
      outcome (extendAll host t names after) (outcome (extendAll host t names before) h).2 := by
  induction before generalizing h with
  | nil => rfl
  | cons r rest ih =>
    rw [List.cons_append, extendAll, extendAll]
    dsimp only
    split
    · have hone := outcome_extendLogged_ok host t names r h
      rw [outcome_bind_ok hone, outcome_bind_ok hone, ih]
    · exact ih h

/-- Extending a rule with names that give an update makes the update, and tells of it. -/
theorem allows_extendLogged {F : Frame α} (hF : F.OpenToTraces)
    (ht : host.ReportsWithin F Topic.ruleUpdated) (ho : h.outages = []) {id : String}
    (hid : r.id = some id) {updates : Value} {book : RuleBook}
    (hmerge : mergeNewFields r names = .ok (some updates))
    (done : h.engine.book.update h.now.text id updates = .ok (r', book)) (t : String) :
    F.allows (h.withRules book) (outcome (extendLogged host t names r) h).2 := by
  obtain ⟨lines, hupdate⟩ := outcome_updateRule host ho done
  let h₁ : Hub α := { h.withRules book with log := lines }
  let h₂ : Hub α := (outcome (emit host h.engine.outlet Topic.ruleUpdated (.rule r')) h₁).2
  have htold : F.allows (h.withRules book) h₂ :=
    F.trans (hF.log (h.withRules book) lines) (within_emit hF ht _ (Notice.events_rule _) h₁)
  have hextend : outcome (extendRule host r names) h = (.ok true, h₂) := by
    unfold extendRule
    rw [outcome_bind, outcome_ofExcept, hmerge, hid]
    exact outcome_bind_ok hupdate
  have hrun : outcome (extendLogged host t names r) h = outcome (Task.log .info flowPart
      ("Updated auto-generated rule " ++ (Value.ofText? r.id).plain ++ " with new fields: " ++
        commaList names)) h₂ := by
    refine (outcome_bind_ok (outcome_attempt _ h)).trans ?_
    rw [hextend]
  rw [hrun]
  exact F.trans htold (Within.log hF _ _ _ h₂)

end Extending

section Listeners

variable (happ : app.StaysForeign .sparing) (depth : Nat)
include happ

theorem tells_sparing {topic : String} (ht : topic ∉ listenedTopics) :
    Host.TellsWithin ⟨app, receive app depth⟩ .sparing topic :=
  tells_foreign Frame.apart_free ht fun _ hs n => happ.receive depth hs n

theorem within_handleEvent_sparing (n : Notice) :
    Within .sparing (handleEvent ⟨app, receive app depth⟩ n) :=
  within_handleEvent Frame.sparing_free Frame.sparing_openToFlows (happ.acts depth)
    (tells_sparing happ depth (by decide)).reports (tells_sparing happ depth (by decide)).reports
    (tells_sparing happ depth (by decide)).reports (tells_sparing happ depth (by decide)).reports n

/-! ## Types -/

omit happ in
theorem outcome_getRule (ho : h.outages = []) (id : String) :
    outcome (getRule (.text id)) h = (.ok (h.engine.book.get? id), h) := by
  unfold getRule
  rw [outcome_bind_ok (outcome_engineOperation_ok ho)]
  exact (outcome_bind_ok (outcome_ofExcept _ _)).trans (outcome_bind_ok (outcome_get h))

omit happ in
/-- The book takes the rule of a type that has none. -/
theorem RuleBook.register_autoRuleOf {b : RuleBook} {t : String}
    (hfree : b.get? (autoRuleId (.text t)) = none) (now fresh : String) (sample : Fields) :
    b.register now fresh (autoRuleOf now t sample) = .ok (autoRuleId (.text t),
      autoRuleOf now t sample, b.insert (autoRuleId (.text t)) (autoRuleOf now t sample)) := by
  have hhas : Assoc.has b.rules (autoRuleId (.text t)) = false := by
    rw [Assoc.has, ← RuleBook.get?, hfree]
    rfl
  unfold RuleBook.register
  dsimp only [autoRuleOf]
  rw [hhas]
  rfl

/-- Making the rule of a type that has none inserts it, and the rest spares the rules of types. -/
theorem synthesizeRule_inserts (hh : h.Steady) {t : String}
    (hfree : h.engine.book.get? (autoRuleId (.text t)) = none) (sample : Fields) :
    ∃ h', outcome (synthesizeRule ⟨app, receive app depth⟩ (.text t) (.ok (.map sample))) h =
        (.ok (), h') ∧
      Frame.sparing.allows (h.withRules (h.engine.book.insert (autoRuleId (.text t))
        (autoRuleOf h.now.text t sample))) h' := by
  let host : Host α := ⟨app, receive app depth⟩
  let r : Rule := autoRuleOf h.now.text t sample
  let book := h.engine.book.insert (autoRuleId (.text t)) r
  obtain ⟨lines, hreg⟩ := outcome_registerRule host hh.inOrder
    (autoRule_toRule h.now.text t sample)
    (RuleBook.register_autoRuleOf hfree h.now.text (h.drawnRuleId r) sample)
  let h₁ : Hub α := { h.withRules book with log := lines }
  refine ⟨_, (outcome_bind_ok (outcome_ofExcept _ _)).trans (outcome_bind_ok hreg), ?_⟩
  exact Frame.sparing.trans (Frame.sparing_free.log (h.withRules book) lines)
    (within_emit Frame.sparing_free.openToActions.openToTraces (tells_sparing happ depth (by decide)).reports _
      (Notice.events_rule _) h₁)

/-- The rule of a newly seen type is inserted, and everything else that is done spares the rules of
event types. -/
theorem discoverType_inserts (hh : h.Steady) {t : String}
    (hfree : h.engine.book.get? (autoRuleId (.text t)) = none) (stamp : String) (sample : Fields) :
    ∃ r : Rule, r.IsAuto t sample [] ∧
      Frame.sparing.allows (h.withRules (h.engine.book.insert (autoRuleId (.text t)) r))
        (outcome (discoverType ⟨app, receive app depth⟩ (.typeDiscovery ⟨t, stamp, sample⟩)) h).2 := by
  let host : Host α := ⟨app, receive app depth⟩
  have hget : outcome (getRule (.text (autoRuleId (.text t)))) h = (.ok none, h) := by
    rw [outcome_getRule hh.inOrder, hfree]
  obtain ⟨h₁, hsynth, htold⟩ := synthesizeRule_inserts happ depth hh hfree sample
  let report : Task α Unit := do
    let r ← getRule (.text (autoRuleId (.text t)))
    Task.log .info flowPart ("Auto-generated rule for event type: " ++ (Value.text t).plain)
    announce host Topic.ruleAutoGenerated
      (.value (.map [("rule_id", .text (autoRuleId (.text t))), ("event_type", .text t),
        ("rule", .ofOption (r.map fun r => r.toValue.document))]))
  have hreport : Within .sparing report :=
    Within.bind (within_getRule _) fun _ =>
      Within.bind (Within.log Frame.sparing_free.openToActions.openToTraces _ _ _) fun _ =>
        tells_sparing happ depth (by decide) _
  have hrun : outcome (discoverType host (.typeDiscovery ⟨t, stamp, sample⟩)) h =
      outcome report h₁ := by
    refine (outcome_bind_ok hget).trans ?_
    refine (outcome_bind_ok (outcome_attempt _ h)).trans ?_
    rw [hsynth]
  refine ⟨_, autoRuleOf_isAuto _ _ _, Frame.sparing.trans htold ?_⟩
  rw [hrun]
  exact hreport h₁

/-! ## Fields -/

/-- The rule of a known type is replaced by one that knows the names, too. -/
theorem extendLogged_replaces (hh : h.Steady) {t : String} {sample : Fields}
    {known names : List String} {r : Rule} (hr : r.IsAuto t sample known)
    (hg : h.engine.book.get? (autoRuleId (.text t)) = some r) (hn : names ≠ [])
    (hd : (known ++ names).Nodup) :
    ∃ r' : Rule, r'.IsAuto t sample (known ++ names) ∧
      Frame.sparing.allows (h.withRules (h.engine.book.replace (autoRuleId (.text t)) r r'))
        (outcome (extendLogged ⟨app, receive app depth⟩ t names r) h).2 := by
  obtain ⟨updates, r', hmerge, hrevise, hr'⟩ := hr.extend hn hd h.now.text
  exact ⟨r', hr', allows_extendLogged Frame.sparing_free.openToActions.openToTraces
    (tells_sparing happ depth (by decide)).reports hh.inOrder hr.id hmerge
    (RuleBook.update_of_revise hg hrevise) t⟩

theorem within_extendAll_sparing {rules : List Rule} (hr : ∀ r ∈ rules, r.OfUser) (t : String)
    (names : List String) : Within .sparing (extendAll ⟨app, receive app depth⟩ t names rules) := by
  refine within_extendGenerated Frame.sparing_openToEdits
    (tells_sparing happ depth (by decide)).reports (fun r hmem _ => ?_) t names
  obtain ⟨id, hid, hauto⟩ := hr r hmem
  rw [hid]
  exact hauto

/-- Among the rules that are extended, those of users are spared. When the turn of the rule of the type
comes, it is still the one that was found. -/
theorem extendAll_replaces (hh : h.Steady) (hb : h.engine.book.Keyed) {t : String}
    {sample : Fields} {known names : List String} {r : Rule} (hr : r.IsAuto t sample known)
    (hg : h.engine.book.get? (autoRuleId (.text t)) = some r) (hn : names ≠ [])
    (hd : (known ++ names).Nodup) {before after : List Rule} (hbefore : ∀ r ∈ before, r.OfUser)
    (hafter : ∀ r ∈ after, r.OfUser) :
    ∃ (h₁ : Hub α) (r' : Rule), Frame.sparing.allows h h₁ ∧ r'.IsAuto t sample (known ++ names) ∧
      Frame.sparing.allows (h₁.withRules (h₁.engine.book.replace (autoRuleId (.text t)) r r'))
        (outcome (extendAll ⟨app, receive app depth⟩ t names (before ++ r :: after)) h).2 := by
  have hfirst := within_extendAll_sparing happ depth hbefore t names h
  rw [outcome_extendAll_append]
  generalize (outcome (extendAll ⟨app, receive app depth⟩ t names before) h).2 = h₁ at hfirst
  obtain ⟨hs, -, hspares⟩ := hfirst hh
  obtain ⟨-, hsame⟩ := hspares hb
  obtain ⟨r', hr', hone⟩ :=
    extendLogged_replaces happ depth hs hr ((hsame _ ⟨t, rfl⟩).rule.trans hg) hn hd
  refine ⟨h₁, r', hfirst, hr', Frame.sparing.trans hone ?_⟩
  rw [extendAll, hr.flagged]
  dsimp only
  rw [if_pos rfl, outcome_bind_ok (outcome_extendLogged_ok _ t names r h₁)]
  exact within_extendAll_sparing happ depth hafter t names _

/-- The fields of a known type are recorded in its rule. -/
theorem discoverFields_replaces (hh : h.Steady) (hb : h.engine.book.Keyed) {t : String}
    {sample : Fields} {known : List String} {r : Rule} (hr : r.IsAuto t sample known)
    (hg : h.engine.book.get? (autoRuleId (.text t)) = some r)
    (ht : autoRuleId (.text t) ∈ h.engine.book.indexed t)
    (hi : ∀ u, autoRuleId (.text u) ∈ h.engine.book.indexed t → u = t) {d : FieldsDiscovery}
    (hdt : d.eventType = t) (hn : d.fieldNames ≠ []) (hd : (known ++ d.fieldNames).Nodup) :
    ∃ (h₁ : Hub α) (r' : Rule), Frame.sparing.allows h h₁ ∧ r'.IsAuto t sample (known ++ d.fieldNames) ∧
      Frame.sparing.allows (h₁.withRules (h₁.engine.book.replace (autoRuleId (.text t)) r r'))
        (outcome (discoverFields ⟨app, receive app depth⟩ (.fieldsDiscovery d)) h).2 := by
  obtain ⟨before, after, hrules, hbefore, hafter⟩ := RuleBook.ofEventType_split hb hg ht hi
  have hrun : outcome (discoverFields ⟨app, receive app depth⟩ (.fieldsDiscovery d)) h =
      outcome (extendAll ⟨app, receive app depth⟩ t d.fieldNames (before ++ r :: after)) h := by
    refine (outcome_bind_ok (outcome_getRulesByEventType hh.inOrder _)).trans ?_
    rw [hdt, hrules]
  rw [hrun]
  exact extendAll_replaces happ depth hh hb hr hg hn hd hbefore hafter

end Listeners

end EventHub
