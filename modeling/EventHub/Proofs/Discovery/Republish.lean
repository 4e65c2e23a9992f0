import EventHub.Proofs.Actions.Shared
import EventHub.Proofs.Context
import EventHub.Proofs.Discovery.Track
import EventHub.Proofs.Hub.Run
import EventHub.Proofs.Rules.Selection
import EventHub.Proofs.Template

/-!
# What the rule of an event type does

The rule that the hub has made for an event type logs the events of the type and publishes them again.

* **Messages** (`Event.republished`, `resolveFields_republishing`): the tokens of the rule lead to the
  event itself, whatever keys and texts its data has, and nothing that is put in is read again.
* **Equipment** (`Hub.Equipped`): what the rule needs of the hub.
* **Actions** (`Rule.IsAuto.runActions`): whatever becomes of the log action, the other action leaves
  one effect.
* **Events** (`Hub.Fires`): among the rules that an event runs, the rule of its type is run once.
-/

namespace EventHub

open EventHub.Task

variable {α : Type} {host : Host α} {h h' : Hub α}

/-! ## Messages -/

/-- The payload with which an event is published again. -/
def Event.payload (e : Event) : Value :=
  .map [("type", .text e.type), ("source", .text e.source), ("timestamp", .text e.timestamp),
    ("data", .map e.data)]

/-- The message by which an event is published again. -/
def Event.republished (e : Event) : Effect :=
  .brokerPublish (.text ("unifi/events/" ++ e.type)) e.payload 1 false

theorem republishTopic_eq (t : String) : republishTopic t = "unifi/events/" ++ t := rfl

theorem tokenless_republishTopic {t : String} (ht : Tokenless t.toList) :
    Tokenless (republishTopic t).toList := by
  rw [republishTopic_eq, String.toList_append]
  exact ht.append (by decide)

/-- A token that is a name of the event becomes what the event has there. -/
theorem resolve_tokenText {c : Context} {e : Event} (he : c.event = some e) {name : String} {v : Value}
    (token : Token) (ht : wholeToken? (Text.stripChars (tokenText name).toList) = some token)
    (hpath : token.path = name.toList) (hp : (segmentsOf name.toList).map String.ofList = [name])
    (hg : Assoc.get? (Context.eventEntries e (.map e.data)) name = some v) :
    Value.resolve c.templateValues (.text (tokenText name)) = .ok v := by
  rw [Value.resolve]
  refine resolveText_token ht ?_
  rw [hpath]
  exact Context.lookup_event he hp hg

/-- What the parameters of the publish action come to for an event of the type. -/
theorem resolveFields_republishing {c : Context} {e : Event} (he : c.event = some e)
    (ht : Tokenless e.type.toList) :
    Value.resolveFields c.templateValues (republishing e.type) =
      .ok [("topic", .text (republishTopic e.type)), ("payload", e.payload), ("qos", .int 1)] := by
  have htype (s : String) (hs : Tokenless s.toList) :
      Value.resolve c.templateValues (.text s) = .ok (.text s) := by
    rw [Value.resolve]
    exact resolveText_of_tokenless _ hs
  have hsource : Value.resolve c.templateValues (.text (tokenText "source")) = .ok (.text e.source) :=
    resolve_tokenText he ⟨"source".toList, 10⟩ (by decide) rfl (by decide) rfl
  have htime : Value.resolve c.templateValues (.text (tokenText "timestamp")) =
      .ok (.text e.timestamp) :=
    resolve_tokenText he ⟨"timestamp".toList, 13⟩ (by decide) rfl (by decide) rfl
  have hdata : Value.resolve c.templateValues (.text (tokenText "data")) = .ok (.map e.data) :=
    resolve_tokenText he ⟨"data".toList, 8⟩ (by decide) rfl (by decide) rfl
  have hpayload : Value.resolve c.templateValues (.map [("type", .text e.type),
      ("source", .text (tokenText "source")), ("timestamp", .text (tokenText "timestamp")),
      ("data", .text (tokenText "data"))]) = .ok e.payload := by
    rw [Value.resolve]
    simp only [Value.resolveFields, htype _ ht, hsource, htime, hdata]
    rfl
  unfold republishing
  simp only [Value.resolveFields, htype _ (tokenless_republishTopic ht), hpayload, Value.resolve_int]
  rfl

/-! ## Equipment -/

/-- What the rules of event types need: the operations are in order, both actions come with the hub and
are shared with the engine, and the broker works. -/
structure Hub.Equipped (h : Hub α) : Prop where
  inOrder : h.outages = []
  logs : h.Shares "log_event" (.stock .logEvent)
  publishes : h.Shares "mqtt_publish" (.stock .mqttPublish)
  broker : ∃ b, h.broker = some b ∧ b.Works

theorem Hub.Shares.congr {actionType : String} {handler : ActionHandler}
    (hs : h.Shares actionType handler) (hd : h'.desk.actions = h.desk.actions)
    (he : h'.engine.actions = h.engine.actions) : h'.Shares actionType handler :=
  ⟨hd ▸ hs.desk, he ▸ hs.engine⟩

theorem Hub.Equipped.congr (hh : h.Equipped) (ho : h'.outages = h.outages)
    (hd : h'.desk.actions = h.desk.actions) (he : h'.engine.actions = h.engine.actions)
    (hb : h'.broker = h.broker) : h'.Equipped :=
  ⟨ho ▸ hh.inOrder, hh.logs.congr hd he, hh.publishes.congr hd he, hb ▸ hh.broker⟩

theorem Hub.Writes.equipped (hw : h.Writes h') (hh : h.Equipped) : h'.Equipped := by
  obtain ⟨_, _, _, _, _, rfl⟩ := hw
  exact hh.congr rfl rfl rfl rfl

/-- The frame in which a hub stays equipped. -/
def Frame.equipped : Frame α := .ofInvariant Hub.Equipped

theorem Frame.equipped_free : (Frame.equipped (α := α)).Free where
  log _ _ hh := hh.congr rfl rfl rfl rfl
  effects _ _ hh := hh.congr rfl rfl rfl rfl
  serial _ _ hh := hh.congr rfl rfl rfl rfl
  cache _ _ hh := hh.congr rfl rfl rfl rfl
  deskCounters _ _ _ _ _ hh := hh.congr rfl rfl rfl rfl
  engineCounters _ _ _ _ _ hh := hh.congr rfl rfl rfl rfl

theorem Frame.equipped_openToHub : (Frame.equipped (α := α)).OpenToHub .any where
  free := Frame.equipped_free
  edit _ _ _ hh := hh.congr rfl rfl rfl rfl
  toOpenToFlows := .of_flows fun _ _ _ hh => hh.congr rfl rfl rfl rfl
  events _ _ _ _ _ hh := hh.congr rfl rfl rfl rfl
  names _ := trivial

theorem Frame.equipped_openToSubscribers : (Frame.equipped (α := α)).OpenToSubscribers where
  listen _ _ _ _ hh := hh.congr rfl rfl rfl rfl
  stop _ _ hh := hh.congr rfl rfl rfl rfl
  dispatcher _ _ hh := hh.congr rfl rfl rfl rfl

/-! ## Actions -/

/-- The rule of a type runs its two actions: the first comes to anything, and the second leaves the
message of the event and nothing else. -/
theorem Rule.IsAuto.runActions {e : Event} {sample : Fields} {known : List String} {r : Rule}
    (hr : r.IsAuto e.type sample known) (host : Host α) (hh : h.Equipped) (ht : Tokenless e.type.toList)
    (ctx : Context) (he : ctx.event = some e) : ∃ logged answer h',
    outcome (EventHub.runActions host ctx r.actions) h =
      (.ok [⟨"log_event", logged⟩, ⟨"mqtt_publish", .ok answer⟩], h') ∧
      h'.effects = e.republished :: h.effects := by
  obtain ⟨params, data, hactions, -⟩ := hr.actions
  obtain ⟨logged, h₁, hlog, hwrites, -⟩ := runAction_logEvent host hh.logs params ctx
  have hh₁ : h₁.Equipped := hwrites.equipped hh
  obtain ⟨broker, hb, hw⟩ := hh₁.broker
  have htopic : republishTopic e.type ≠ "" := by
    rw [republishTopic_eq, ne_eq, String.append_eq_empty_iff]
    exact fun hnone => absurd hnone.1 (by decide)
  obtain ⟨answer, h₂, hpublish, heffects⟩ := runAction_mqttPublish host hh₁.publishes hb hw
    htopic (resolveFields_republishing he ht)
  have hlast : outcome (EventHub.runActions host ctx [⟨"mqtt_publish", republishing e.type⟩]) h₁ =
      (.ok [⟨"mqtt_publish", .ok answer⟩], h₂) := outcome_bind_ok hpublish
  refine ⟨logged, answer, h₂, ?_, ?_⟩
  · rw [hactions, EventHub.runActions, outcome_bind_ok hlog, outcome_bind_ok hlast]
    rfl
  · rw [heffects, hwrites.effects]
    rfl

/-! ## Events -/

/-- A rule that is enabled, indexed for the type of the event, and selects it, stands once among those
that match it. -/
theorem RuleBook.Keyed.matching_around {b : RuleBook} (hb : b.Keyed)
    {ask : String → Value → Except Fault Value} {e : Event} {id : String} {r : Rule}
    (hg : b.get? id = some r) (hi : id ∈ b.indexed e.type) (he : r.metadata.enabled = true)
    (hs : r.selects ask e = true) : ∃ before after,
    b.matching ask e = before ++ r :: after ∧ ∀ other ∈ before ++ after, other.id ≠ some id := by
  let p : String × Rule → Bool := fun entry =>
    (b.indexed e.type ++ b.indexed anyEventType).contains entry.1 && entry.2.metadata.enabled &&
      entry.2.selects ask e
  have hp : p (id, r) = true := by simp [p, hi, he, hs]
  obtain ⟨before, after, hsplit, hbefore, hafter⟩ := Assoc.filter_around hb.distinct hg hp
  have hmatching : b.matching ask e = (b.rules.filter p).map (·.2) := by
    unfold RuleBook.matching RuleBook.candidates
    rw [List.filter_map, List.filter_filter]
    exact congrArg (List.map _) (List.filter_congr fun entry _ => Bool.and_comm _ _)
  have hother {entry : String × Rule} (hm : entry ∈ b.rules.filter p) (hne : entry.1 ≠ id) :
      entry.2.id ≠ some id := by
    rw [hb.id entry.1 entry.2 (List.mem_filter.1 hm).1]
    simpa using hne
  refine ⟨before.map (·.2), after.map (·.2), ?_, fun other ho => ?_⟩
  · rw [hmatching, hsplit, List.map_append, List.map_cons]
  · rw [← List.map_append] at ho
    obtain ⟨entry, hm, rfl⟩ := List.mem_map.1 ho
    rcases List.mem_append.1 hm with hm | hm
    · exact hother (hsplit ▸ List.mem_append_left _ hm) (hbefore entry hm)
    · exact hother (hsplit ▸ List.mem_append_right _ (List.mem_cons_of_mem _ hm)) (hafter entry hm)

/-- The rule of a type selects the events of the type. -/
theorem Rule.IsAuto.selects {e : Event} {sample : Fields} {known : List String} {r : Rule}
    (hr : r.IsAuto e.type sample known) (ask : String → Value → Except Fault Value) :
    r.selects ask e = true := by
  have hmatch : matchesEvent ask r.conditions e = .ok true := by
    rw [hr.conditions]
    simp [matchesEvent, RuleConditions.matchesEvent, RuleConditions.eventTypes,
      RuleConditions.sources, amongNames, customHolds, Names.toList, dataMatches]
    rfl
  rw [Rule.selects, hmatch]

/-- The rule runs once for the event, with both of its actions; the second has left one effect, by which
the event is published again. -/
structure Rule.Republishes (host : Host α) (ctx : Option Context) (e : Event) (r : Rule) (h : Hub α)
    (run : RuleRun) (h' : Hub α) : Prop where
  ran : outcome (executeRule host r e ctx) h = (.ok run, h')
  rule : run.ruleId = autoRuleId (.text e.type)
  event : run.eventId = e.id
  actions : ∃ logged answer h₁,
    run.outcomes = [⟨"log_event", logged⟩, ⟨"mqtt_publish", .ok answer⟩] ∧
    outcome (EventHub.runActions host (h.ruleContext ctx r e) r.actions) h = (.ok run.outcomes, h₁) ∧
    h₁.effects = e.republished :: h.effects

theorem Rule.IsAuto.republishes {e : Event} {sample : Fields} {known : List String} {r : Rule}
    (hr : r.IsAuto e.type sample known) (host : Host α) (hh : h.Equipped) (ht : Tokenless e.type.toList)
    (ctx : Option Context) : ∃ run h', r.Republishes host ctx e h run h' := by
  obtain ⟨outcomes, h₁, lines, hactions, hends⟩ := executeRule_ok host r e ctx hh.inOrder
  obtain ⟨logged, answer, h₂, hboth, heffects⟩ :=
    hr.runActions host hh ht (h.ruleContext ctx r e) rfl
  obtain ⟨hsame, rfl⟩ := Prod.mk.inj (hactions.symm.trans hboth)
  exact ⟨_, _, hends.ran, by simp [hr.id], rfl, logged, answer, h₁, Except.ok.inj hsame, hactions, heffects⟩

/-- Of the rules that match the event and are run for it in order, the rule of its type is one, and it
publishes the event again; all others are runs of other rules. -/
def Hub.Fires (host : Host α) (ctx : Option Context) (e : Event) (h h' : Hub α) : Prop :=
  ∃ (before : List Rule) (r : Rule) (after : List Rule) (h₀ : Hub α) (runs : RuleRuns) (h₁ : Hub α)
    (run : RuleRun) (h₂ : Hub α) (more : RuleRuns),
    outcome (matchingRules host e) h = (.ok (before ++ r :: after), h₀) ∧
    outcome (executeAll host e ctx before) h₀ = (.ok runs, h₁) ∧
    r.Republishes host ctx e h₁ run h₂ ∧
    outcome (executeAll host e ctx after) h₂ = (.ok more, h') ∧
    (∀ other ∈ runs ++ more, other.ruleId ≠ autoRuleId (.text e.type)) ∧
    outcome (processEvent host (.checked e) ctx) h = (.ok (runs ++ run :: more), h')

/-- Runs of other rules are not of the rule. -/
theorem RuleRun.ruleId_ne {e : Event} {t : String} {rules : List Rule} {runs : RuleRuns}
    (hruns : List.Forall₂ (RuleRun.IsOf e) rules runs)
    (hne : ∀ r ∈ rules, r.id ≠ some (autoRuleId (.text t))) :
    ∀ run ∈ runs, run.ruleId ≠ autoRuleId (.text t) := by
  have hnonempty : autoRuleId (.text t) ≠ "" := by
    rw [autoRuleId_text, ne_eq, String.append_eq_empty_iff]
    exact fun hnone => absurd hnone.2 (by decide)
  induction hruns with
  | nil => intro run hm; cases hm
  | @cons r run rules runs hone _ ih =>
    intro other hm
    rcases List.mem_cons.1 hm with rfl | hm
    · rw [hone.rule]
      cases hid : r.id with
      | none => exact hnonempty.symm
      | some id =>
        rintro rfl
        exact hne r List.mem_cons_self hid
    · exact ih (fun r hr => hne r (List.mem_cons_of_mem _ hr)) other hm

/-- At an equipped hub that has the rule of a type, an event of the type is published again. -/
theorem Hub.Equipped.fires (hh : h.Equipped) (hb : h.engine.book.Keyed) {e : Event} {sample : Fields}
    {known : List String} {r : Rule} (hr : r.IsAuto e.type sample known)
    (hg : h.engine.book.get? (autoRuleId (.text e.type)) = some r)
    (hi : autoRuleId (.text e.type) ∈ h.engine.book.indexed e.type)
    (ht : Tokenless e.type.toList) (ha : host.ActsWithin .equipped)
    (htells : ∀ topic, host.TellsWithin .equipped topic) (ctx : Option Context) :
    ∃ h', h.Fires host ctx e h' := by
  obtain ⟨before, after, hmatching, hothers⟩ :=
    hb.matching_around hg hi hr.enabled (hr.selects host.app.ask)
  obtain ⟨lines, hmatch⟩ := outcome_matching host e h
  rw [hmatching] at hmatch
  -- Judging the conditions and running the rules before this one leave the hub equipped.
  have hh₀ := (within_matchingRules Frame.equipped_free e).of_outcome hmatch hh
  have hall := executeAll_keeps (fun _ hk => Hub.Equipped.inOrder hk) Frame.equipped_free ha htells e ctx
  obtain ⟨runs, h₁, hbefore, hh₁⟩ := hall before hh₀
  obtain ⟨run, h₂, hrun⟩ := hr.republishes host hh₁ ht ctx
  have hh₂ := (within_executeRule Frame.equipped_free ha (htells _).reports (htells _).reports r e ctx).of_outcome
    hrun.ran hh₁
  obtain ⟨more, h₃, hafter, -⟩ := hall after hh₂
  refine ⟨h₃, before, r, after, _, runs, h₁, run, h₂, more, hmatch, hbefore.outcome_eq, hrun,
    hafter.outcome_eq, ?_, ?_⟩
  · intro other hm
    rcases List.mem_append.1 hm with hm | hm
    · exact RuleRun.ruleId_ne hbefore.isOf (fun r hr => hothers r (List.mem_append_left _ hr)) other hm
    · exact RuleRun.ruleId_ne hafter.isOf (fun r hr => hothers r (List.mem_append_right _ hr)) other hm
  · have hlast : outcome (executeAll host e ctx (r :: after)) h₁ = (.ok (run :: more), h₃) := by
      rw [executeAll, outcome_bind_ok hrun.ran, outcome_bind_ok hafter.outcome_eq]
      rfl
    have hn : outcome (normalizeEvent (.checked e)) h = (.ok e, h) := rfl
    exact (outcome_processEvent_eq hh.inOrder hn hmatch ctx).trans
      (outcome_executeAll_append hbefore.outcome_eq hlast)

end EventHub
