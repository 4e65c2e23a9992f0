import EventHub.Proofs.Discovery.Announce
import EventHub.Proofs.Discovery.Listen

/-!
# Tracking the schema

The rule of an event type knows the fields that were discovered after the first payload of the type.

* **Types** (`RuleBook.TracksAt`): what the book has of a type that was seen, or was not.
* **Hubs** (`Hub.Attends`, `Hub.Tracks`): the hub's listeners are in place, and the book tracks the
  schema for every type.
* **Learning** (`Hub.Learns`): changes that spare the rules of event types, but for one step in which
  the rule of one type is made or extended.
* **Announcements** (`learns_type`, `learns_fields`): each listener is told between others, so a hub
  learns of what is announced.
* **Observed events** (`Hub.Follows`, `Hub.Attends.announceChange`): once the change of the schema for
  an event is announced, the book tracks it.
-/

namespace EventHub

open EventHub.Task

variable {α : Type} {app : Application α} {h h' : Hub α}

/-! ## Types -/

/-- What the book has of a type, with its first event and its fields: no rule when it was not seen,
and otherwise its rule, which knows the fields after those of the first event. -/
inductive RuleBook.TracksAt (b : RuleBook) (t : String) : Option Event → Option (List String) → Prop
  | unseen (free : b.get? (autoRuleId (.text t)) = none)
    (unindexed : ∀ u, autoRuleId (.text t) ∉ b.indexed u) : TracksAt b t none none
  | seen {first : Event} {known : List String} {r : Rule}
    (distinct : (Assoc.keys first.data ++ known).Nodup)
    (rule : b.get? (autoRuleId (.text t)) = some r) (form : r.IsAuto t first.data known)
    (indexed : ∀ u, autoRuleId (.text t) ∈ b.indexed u ↔ u = t) :
    TracksAt b t (some first) (some (Assoc.keys first.data ++ known))

theorem RuleBook.TracksAt.congr {b b' : RuleBook} {t : String} {first : Option Event}
    {names : Option (List String)} (h : b.TracksAt t first names)
    (hs : SameAt (autoRuleId (.text t)) b b') : b'.TracksAt t first names := by
  cases h with
  | unseen free unindexed =>
    exact .unseen (hs.rule.trans free) fun u hu => unindexed u ((hs.index u).1 hu)
  | seen distinct rule form indexed =>
    exact .seen distinct (hs.rule.trans rule) form fun u => (hs.index u).trans (indexed u)

/-- The rule of a type is indexed under the type only. -/
theorem RuleBook.TracksAt.eq_of_indexed {b : RuleBook} {t u : String} {first : Option Event}
    {names : Option (List String)} (h : b.TracksAt t first names)
    (hu : autoRuleId (.text t) ∈ b.indexed u) : u = t := by
  cases h with
  | unseen free unindexed => exact absurd hu (unindexed u)
  | seen distinct rule form indexed => exact (indexed u).1 hu

theorem Rule.IsAuto.complete {t : String} {sample : Fields} {known : List String} {r : Rule}
    (h : r.IsAuto t sample known) : r.Complete := by
  obtain ⟨logged, data, hactions, -⟩ := h.actions
  exact ⟨h.name, by simp [hactions], by simp [hactions]⟩

/-! ## Learning -/

/-- The book has learned of a type: the rules of the others are left. -/
structure RuleBook.Learns (t : String) (first : Option Event) (names : Option (List String))
    (b b' : RuleBook) : Prop where
  keyed : b'.Keyed
  others : ∀ u, u ≠ t → SameAt (autoRuleId (.text u)) b b'
  tracks : b'.TracksAt t first names

namespace RuleBook

variable {b : RuleBook} {t : String} {known names : List String} {r r' : Rule} {first : Event}

/-- Inserting the rule of a newly seen type. -/
theorem learns_insert (hb : b.Keyed) (ht : ∀ u, autoRuleId (.text t) ∉ b.indexed u)
    (hr : r.IsAuto t first.data []) (hd : (Assoc.keys first.data).Nodup) :
    Learns t (some first) (some (Assoc.keys first.data ++ [])) b
      (b.insert (autoRuleId (.text t)) r) where
  keyed := hb.insert hr.id hr.complete
  others u hu := sameAt_insert fun he => hu (autoRuleId_inj he).symm
  tracks := by
    refine .seen (by simpa using hd) (Assoc.get?_put_self _ _ _) hr fun u => ?_
    rw [mem_indexed_insert, Rule.mem_indexTypes, hr.eventTypes]
    simp [ht u]

/-- Replacing the rule of a known type. -/
theorem learns_replace (hb : b.Keyed) (hi : ∀ u, autoRuleId (.text t) ∈ b.indexed u ↔ u = t)
    (hr : r.IsAuto t first.data known) (hr' : r'.IsAuto t first.data names)
    (hd : (Assoc.keys first.data ++ names).Nodup) :
    Learns t (some first) (some (Assoc.keys first.data ++ names)) b
      (b.replace (autoRuleId (.text t)) r r') where
  keyed := hb.replace r hr'.id hr'.complete
  others u hu := sameAt_replace hb (fun he => hu (autoRuleId_inj he).symm) r
  tracks := by
    refine .seen hd (Assoc.get?_put_self _ _ _) hr' fun u => ?_
    rw [mem_indexed_replace hb.tidy, hi, Rule.mem_indexTypes, Rule.mem_indexTypes, hr.eventTypes,
      hr'.eventTypes]
    simp

end RuleBook

/-! ## Hubs -/

/-- The hub's own listeners are in place. -/
def Hub.Listening (h : Hub α) : Prop :=
  ∃ types fields events, h.bus.subscriptions.own =
      [⟨types, .topic Topic.typeDiscovered, .discoverType⟩,
        ⟨fields, .topic Topic.fieldsDiscovered, .discoverFields⟩,
        ⟨events, .topic Topic.event, .handleEvent⟩] ∧
    h.flows.listeners = [types, fields, events]

/-- The hub is ready to learn: steady, with a keyed book, and listening. -/
structure Hub.Attends (h : Hub α) : Prop where
  steady : h.Steady
  keyed : h.engine.book.Keyed
  listening : h.Listening

theorem Hub.Attends.of_sparing (hh : h.Attends) (hs : Frame.sparing.allows h h') : h'.Attends := by
  obtain ⟨hsteady, hobserving, hspares⟩ := hs hh.steady
  obtain ⟨types, fields, events, hown, hlisteners⟩ := hh.listening
  simp only [Hub.observing, Prod.mk.injEq] at hobserving
  obtain ⟨-, -, -, -, ho, hl⟩ := hobserving
  exact ⟨hsteady, (hspares hh.keyed).1, types, fields, events, ho.trans hown, hl.trans hlisteners⟩

/-- The hub has learned of a type, in one step between changes that spare the rules of types. -/
def Hub.Learns (t : String) (first : Option Event) (names : Option (List String)) (h h' : Hub α) :
    Prop :=
  ∃ (h₁ : Hub α) (book : RuleBook), Frame.sparing.allows h h₁ ∧
    h₁.engine.book.Learns t first names book ∧ Frame.sparing.allows (h₁.withRules book) h'

/-- What becomes of a hub that learns. -/
theorem Hub.Learns.result {t : String} {first : Option Event} {names : Option (List String)}
    (hl : Hub.Learns t first names h h') (hh : h.Attends) :
    h'.Attends ∧ h'.observing = h.observing ∧ h.engine.book.Learns t first names h'.engine.book := by
  obtain ⟨h₁, book, hfirst, hlearns, hlast⟩ := hl
  have hh₁ := hh.of_sparing hfirst
  have hh₂ : (h₁.withRules book).Attends :=
    ⟨⟨hh₁.steady.inOrder, hh₁.steady.outlet, hh₁.steady.apt⟩, hlearns.keyed, hh₁.listening⟩
  have hh₃ := hh₂.of_sparing hlast
  obtain ⟨-, ho₁, hs₁⟩ := hfirst hh.steady
  obtain ⟨-, ho₃, hs₃⟩ := hlast hh₂.steady
  have hs₁ := (hs₁ hh.keyed).2
  have hs₃ := (hs₃ hlearns.keyed).2
  refine ⟨hh₃, ho₃.trans ho₁, hh₃.keyed, fun u hu => ?_, hlearns.tracks.congr (hs₃ _ ⟨t, rfl⟩)⟩
  exact ((hs₁ _ ⟨u, rfl⟩).trans (hlearns.others u hu)).trans (hs₃ _ ⟨u, rfl⟩)

/-- The hub's book tracks its schema: what is known of every type is what its first event and its
rule tell. -/
structure Hub.Tracks (seen : List Event) (h : Hub α) : Prop extends h.Attends where
  types : ∀ t, h.engine.book.TracksAt t (firstOf seen t) (Assoc.get? h.bus.schema.order t)
  agrees : h.bus.schema.Agrees
  waiting : ∀ e ∈ h.bus.pending, (Assoc.keys e.data).Nodup

theorem Hub.Tracks.of_sparing {seen : List Event} (hh : h.Tracks seen)
    (hs : Frame.sparing.allows h h') : h'.Tracks seen := by
  obtain ⟨-, hobserving, hspares⟩ := hs hh.steady
  have hsame := (hspares hh.keyed).2
  simp only [Hub.observing, Prod.mk.injEq] at hobserving
  obtain ⟨hschema, hpending, -⟩ := hobserving
  refine ⟨hh.toAttends.of_sparing hs, fun t => ?_, ?_, ?_⟩
  · rw [hschema]
    exact (hh.types t).congr (hsame _ ⟨t, rfl⟩)
  · rw [hschema]
    exact hh.agrees
  · rw [hpending]
    exact hh.waiting

/-! ## Announcements -/

/-- Among the subscribers of a topic, one is served between others that stay in the frame. -/
theorem allows_deliver_around {F : Frame α} (host : Host α) (hF : F.Free) {topic : String} {n : Notice}
    {s : Subscriber} {before after : List Subscriber}
    (hbefore : ∀ s ∈ before, Within F (host.receive s n))
    (hafter : ∀ s ∈ after, Within F (host.receive s n)) (h : Hub α) :
    ∃ h₁, F.allows h h₁ ∧ F.allows (outcome (host.receive s n) h₁).2
      (outcome (deliver host topic n (before ++ s :: after)) h).2 := by
  induction before generalizing h with
  | nil =>
    obtain ⟨lines, hd⟩ := hub_deliver_cons host topic n s after h
    refine ⟨h, F.refl h, ?_⟩
    rw [List.nil_append, hd]
    exact F.trans (hF.log _ lines) (within_deliver hF hafter _)
  | cons s' before ih =>
    obtain ⟨lines, hd⟩ := hub_deliver_cons host topic n s' (before ++ s :: after) h
    obtain ⟨h₁, hfirst, hlast⟩ := ih (fun s hs => hbefore s (List.mem_cons_of_mem s' hs))
      { (outcome (host.receive s' n) h).2 with log := lines }
    refine ⟨h₁, ?_, by rwa [List.cons_append, hd]⟩
    exact F.trans (hbefore s' List.mem_cons_self h) (F.trans (hF.log _ lines) hfirst)

/-- The hub's own listeners to a topic are the subscribers of it that are not foreign. -/
theorem Subscriptions.filter_ofTopic (s : Subscriptions) (topic : String) :
    (s.ofTopic topic).filter (fun x => ¬ x.Foreign) =
      (s.own.filter fun e => e.channel.isTopic topic).map (·.subscriber) := by
  rw [ofTopic, own, List.filter_map, List.filter_filter, List.filter_filter]
  congr 1
  exact List.filter_congr fun e _ => Bool.and_comm _ _

/-- The one listener to a topic stands between subscribers that are foreign. -/
theorem Hub.Attends.split (hh : h.Attends) {topic : String} {s : Subscriber}
    (hs : (topic, s) ∈ hubListeners) :
    ∃ before after, h.bus.subscriptions.ofTopic topic = before ++ s :: after ∧
      (∀ s ∈ before, s.Foreign) ∧ ∀ s ∈ after, s.Foreign := by
  obtain ⟨types, fields, events, hown, -⟩ := hh.listening
  have hone : (h.bus.subscriptions.ofTopic topic).filter (fun x => ¬ x.Foreign) = [s] := by
    rw [Subscriptions.filter_ofTopic, hown]
    simp only [hubListeners, List.mem_cons, Prod.mk.injEq, List.not_mem_nil, or_false] at hs
    rcases hs with ⟨rfl, rfl⟩ | ⟨rfl, rfl⟩ | ⟨rfl, rfl⟩ <;> rfl
  obtain ⟨before, after, hsplit, hbefore, -, hafter⟩ := List.filter_eq_cons_iff.1 hone
  have hafter := List.filter_eq_nil_iff.1 hafter
  exact ⟨before, after, hsplit, fun s hs => by simpa using hbefore s hs,
    fun s hs => by simpa using hafter s hs⟩

/-- An announcement to a listener of the hub: others are told before and after it. -/
theorem Hub.Attends.allows_announce (hh : h.Attends) (happ : app.StaysForeign .sparing) (depth : Nat)
    {topic : String} {s : Subscriber} (hs : (topic, s) ∈ hubListeners) (n : Notice) :
    ∃ h₁, Frame.sparing.allows h h₁ ∧ Frame.sparing.allows (outcome (receive app depth s n) h₁).2
      (outcome (announce ⟨app, receive app depth⟩ topic n) h).2 := by
  obtain ⟨before, after, hsplit, hbefore, hafter⟩ := hh.split hs
  rw [outcome_announce, hsplit]
  exact allows_deliver_around ⟨app, receive app depth⟩ Frame.sparing_free
    (fun s hs => happ.receive depth (hbefore s hs) n) (fun s hs => happ.receive depth (hafter s hs) n) h

section Changes

variable (host : Host α)

/-- What is announced of a change of the schema. -/
theorem announceChange_newType (e : Event) (h : Hub α) : ∃ lines,
    outcome (announceChange host e ⟨true, []⟩) h =
      (.ok (), (outcome (announce host Topic.typeDiscovered
        (.typeDiscovery ⟨e.type, e.timestamp, e.data⟩)) { h with log := lines }).2) := by
  refine ⟨⟨.warning, busPart, s!"New event type discovered: {e.type}"⟩ :: h.log, ?_⟩
  unfold announceChange
  dsimp only
  rw [if_pos rfl, outcome_bind_ok (outcome_log rfl _ _ h)]
  exact outcome_bind_ok (outcome_announce_ok _ _ _)

theorem announceChange_newFields (e : Event) {new : List DiscoveredField} (hn : new ≠ []) (h : Hub α) :
    ∃ lines, outcome (announceChange host e ⟨false, new⟩) h =
      (.ok (), (outcome (announce host Topic.fieldsDiscovered
        (.fieldsDiscovery ⟨e.type, new, e.timestamp⟩)) { h with log := lines }).2) := by
  have hne : (!new.isEmpty) = true := by simpa using hn
  refine ⟨⟨.warning, busPart, s!"New fields discovered for {e.type}: " ++
    commaList (FieldsDiscovery.mk e.type new e.timestamp).fieldNames⟩ :: h.log, ?_⟩
  unfold announceChange
  dsimp only
  rw [if_neg (by simp), if_pos hne, outcome_bind_ok (outcome_log rfl _ _ h)]
  exact outcome_announce_ok _ _ _

theorem announceChange_nothing (e : Event) (h : Hub α) :
    outcome (announceChange host e ⟨false, []⟩) h = (.ok (), h) := rfl

end Changes

section Dispatch

variable (happ : app.StaysForeign .sparing) (depth : Nat)
include happ

/-- Announcing a newly seen type makes its rule. -/
theorem Hub.Attends.learns_type (hh : h.Attends) {t : String} {first : Event}
    (ht : h.engine.book.TracksAt t none none) (hd : (Assoc.keys first.data).Nodup)
    (stamp : String) :
    Hub.Learns t (some first) (some (Assoc.keys first.data ++ [])) h
      (outcome (announce ⟨app, receive app (depth + 1)⟩ Topic.typeDiscovered
        (.typeDiscovery ⟨t, stamp, first.data⟩)) h).2 := by
  have hs : (Topic.typeDiscovered, Subscriber.discoverType) ∈ hubListeners := by decide
  obtain ⟨h₁, hfirst, hlast⟩ :=
    hh.allows_announce happ (depth + 1) hs (.typeDiscovery ⟨t, stamp, first.data⟩)
  have hh₁ := hh.of_sparing hfirst
  have ht₁ := ht.congr (((hfirst hh.steady).2.2 hh.keyed).2 _ ⟨t, rfl⟩)
  cases ht₁ with
  | unseen free unindexed =>
    obtain ⟨r, hr, hinserts⟩ := discoverType_inserts happ depth hh₁.steady free stamp first.data
    exact ⟨h₁, _, hfirst, RuleBook.learns_insert hh₁.keyed unindexed hr hd,
      Frame.sparing.trans hinserts hlast⟩

/-- Announcing new fields of a known type extends its rule. -/
theorem Hub.Attends.learns_fields (hh : h.Attends)
    (hall : ∀ t, ∃ first names, h.engine.book.TracksAt t first names) {first : Event}
    {names : List String} {d : FieldsDiscovery}
    (ht : h.engine.book.TracksAt d.eventType (some first) (some names))
    (hn : d.fieldNames ≠ []) (hd : (names ++ d.fieldNames).Nodup) :
    Hub.Learns d.eventType (some first) (some (names ++ d.fieldNames)) h
      (outcome (announce ⟨app, receive app (depth + 1)⟩ Topic.fieldsDiscovered
        (.fieldsDiscovery d)) h).2 := by
  have hs : (Topic.fieldsDiscovered, Subscriber.discoverFields) ∈ hubListeners := by decide
  obtain ⟨h₁, hfirst, hlast⟩ := hh.allows_announce happ (depth + 1) hs (.fieldsDiscovery d)
  have hh₁ := hh.of_sparing hfirst
  have hsame := ((hfirst hh.steady).2.2 hh.keyed).2
  have honly (u : String) (hu : autoRuleId (.text u) ∈ h₁.engine.book.indexed d.eventType) :
      u = d.eventType := by
    obtain ⟨_, _, hu'⟩ := hall u
    exact ((hu'.congr (hsame _ ⟨u, rfl⟩)).eq_of_indexed hu).symm
  -- Rules of users may name the type, too: only `honly` tells which rule is that of the type.
  cases ht.congr (hsame _ ⟨d.eventType, rfl⟩) with
  | @seen _ known r distinct rule form indexed =>
    rw [List.append_assoc] at hd ⊢
    obtain ⟨h₂, r', hsecond, hr', hreplaces⟩ := discoverFields_replaces happ depth hh₁.steady
      hh₁.keyed form rule ((indexed _).2 rfl) honly rfl hn (List.nodup_append.1 hd).2.1
    have hh₂ := hh₁.of_sparing hsecond
    have hindexed := (((hsecond hh₁.steady).2.2 hh₁.keyed).2 _ ⟨d.eventType, rfl⟩).index
    exact ⟨h₂, _, Frame.sparing.trans hfirst hsecond, RuleBook.learns_replace hh₂.keyed
      (fun u => (hindexed u).trans (indexed u)) form hr' hd, Frame.sparing.trans hreplaces hlast⟩

end Dispatch

/-! ## Observed events -/

section Observed

variable {seen : List Event} {e : Event} {t : String}

/-- The hub at which the schema has changed for an event, once the change was announced: the book
tracks the schema, which has seen the event. -/
structure Hub.Follows (seen : List Event) (e : Event) (h h' : Hub α) : Prop where
  attends : h'.Attends
  observing : h'.observing = h.observing
  types : ∀ t, h'.engine.book.TracksAt t (firstOf (seen ++ [e]) t) (Assoc.get? h.bus.schema.order t)
  agrees : h.bus.schema.Agrees

variable {schema : Schema} (hh : h.Attends)
  (ht : ∀ t, h.engine.book.TracksAt t (firstOf seen t) (Assoc.get? schema.order t))
include hh ht

/-- A hub that has learned of the type of the event follows. -/
theorem Hub.Learns.follows {first : Event} {members names : List String} (lines : List LogLine)
    (hl : Hub.Learns e.type (some first) (some names) { h with log := lines } h')
    (hschema : h.bus.schema = schema.put e.type ⟨members, names⟩) (hagrees : h.bus.schema.Agrees)
    (hfirst : firstOf (seen ++ [e]) e.type = some first) : Hub.Follows seen e h h' := by
  obtain ⟨hh', hobserving, hlearns⟩ := hl.result (hh.of_sparing (Frame.sparing_free.log h lines))
  refine ⟨hh', hobserving, fun t => ?_, hagrees⟩
  rw [hschema, Schema.put]
  by_cases hte : e.type = t
  · subst hte
    rw [hfirst, Assoc.get?_put_self]
    exact hlearns.tracks
  · rw [firstOf_append_of_ne hte, Assoc.get?_put_of_ne _ _ hte]
    exact (ht t).congr (hlearns.others t (Ne.symm hte))

/-- A hub that knows all fields of the event follows as it is. -/
theorem Hub.Attends.follows {first : Event} {members names : List String}
    (hg : Assoc.get? schema.order e.type = some names)
    (hschema : h.bus.schema = schema.put e.type ⟨members, names⟩) (hagrees : h.bus.schema.Agrees)
    (hfirst : firstOf seen e.type = some first) : Hub.Follows seen e h h := by
  refine ⟨hh, rfl, fun t => ?_, hagrees⟩
  rw [hschema, Schema.put]
  by_cases hte : e.type = t
  · subst hte
    rw [firstOf_append_of_some hfirst, Assoc.get?_put_self, ← hfirst, ← hg]
    exact ht e.type
  · rw [firstOf_append_of_ne hte, Assoc.get?_put_of_ne _ _ hte]
    exact ht t

/-- After the change of the schema is announced the hub follows. -/
theorem Hub.Attends.announceChange (happ : app.StaysForeign .sparing) (depth : Nat)
    (hs : schema.Agrees) {change : SchemaChange}
    (ho : schema.observe e.type e.data = (change, h.bus.schema)) (he : (Assoc.keys e.data).Nodup) :
    ∃ h', outcome (EventHub.announceChange ⟨app, receive app (depth + 1)⟩ e change) h = (.ok (), h') ∧
      Hub.Follows seen e h h' := by
  let host : Host α := ⟨app, receive app (depth + 1)⟩
  have hlog (lines : List LogLine) : Attends { h with log := lines } :=
    hh.of_sparing (Frame.sparing_free.log h lines)
  have hte := ht e.type
  cases hg : Assoc.get? schema.order e.type with
  | none =>
    rw [hs.observe_first e.data ((Assoc.get?_eq_none_iff _ _).1 hg)] at ho
    obtain ⟨rfl, hschema⟩ := Prod.mk.inj ho
    have hagrees : h.bus.schema.Agrees := hschema ▸ hs.put fun _ => Iff.rfl
    rw [hg] at hte
    -- What was seen has fields in the schema, so the event is the first of its type.
    cases hf : firstOf seen e.type with
    | some first => rw [hf] at hte; cases hte
    | none =>
      rw [hf] at hte
      obtain ⟨lines, hrun⟩ := announceChange_newType host e h
      have hlearns := (hlog lines).learns_type happ depth hte he e.timestamp
      rw [List.append_nil] at hlearns
      exact ⟨_, hrun,
        hlearns.follows hh ht lines hschema.symm hagrees (firstOf_append_of_none hf)⟩
  | some names =>
    have hnames : schema.fieldsFor e.type = names := by rw [Schema.fieldsFor, hg, Option.getD_some]
    obtain ⟨members, hmembers, hobserve⟩ :=
      hs.observe_later he (Schema.mem_eventTypes.2 (by rw [hg]; rfl))
    rw [hobserve, hnames] at ho
    rw [hnames] at hmembers
    obtain ⟨rfl, hschema⟩ := Prod.mk.inj ho
    have hagrees : h.bus.schema.Agrees := hschema ▸ hs.put hmembers
    rw [hg] at hte
    cases hf : firstOf seen e.type with
    | none => rw [hf] at hte; cases hte
    | some first =>
      rw [hf] at hte
      by_cases hnew : newFields names e.data = []
      · rw [hnew] at hschema ⊢
        rw [List.map_nil, List.append_nil] at hschema
        exact ⟨h, announceChange_nothing host e h, hh.follows ht hg hschema.symm hagrees hf⟩
      · obtain ⟨lines, hrun⟩ := announceChange_newFields host e hnew h
        have hdistinct : names.Nodup := by
          cases hte with
          | seen distinct => exact distinct
        let d : FieldsDiscovery := ⟨e.type, newFields names e.data, e.timestamp⟩
        have hfields : d.fieldNames ≠ [] := by simpa [d, FieldsDiscovery.fieldNames] using hnew
        have hlearns := (hlog lines).learns_fields happ depth (fun t => ⟨_, _, ht t⟩) hte hfields
          (nodup_newFields hdistinct he)
        exact ⟨_, hrun,
          hlearns.follows hh ht lines hschema.symm hagrees (firstOf_append_of_some hf)⟩

end Observed

end EventHub
