import EventHub.Proofs.Assoc
import EventHub.Proofs.Hub.Registration
import EventHub.Proofs.Record.Times

/-!
# Registries

The rules and the flows of a hub are stored and registered alike. A list of definitions is registered one
after the other, until one is refused; those before it stay.

* **Calm hubs** (`Hub.Calm`): those who are told of new rules and flows leave rules, flows and
  subscriptions alone.
* **Registries** (`Registry`): what the registration of rules and that of flows have in common. Both are
  lawful (`Registry.rules_lawful`, `Registry.flows_lawful`): a definition is refused when it is not valid
  or names an id in use, and else its record is stored and nothing else happens.
* **In turn** (`Registry.Lawful.takeAll`): definitions are taken in up to the first that is refused, and
  `Registry.Took` says what became of the hub.
* **Success** (`takeAll_of_unnamed`, `takeAll_ne_ok`, `takeAll_like`): what is taken in depends on the
  definitions, the ids in use and the id that is drawn next, and on nothing else.
* **Drawn ids** (`idDigits_injective`, `takeAll_holds`): no id is drawn twice, so definitions that name
  none that could be drawn are stored under distinct ids; taken in `n` times, they are held `n` times.
-/

namespace EventHub

open EventHub.Task

variable {α ρ : Type} {host : Host α} {h h' g g' : Hub α}

/-- Every item on the left has one on the right. -/
theorem exists_mem_of_forall₂ {β γ : Type} {R : β → γ → Prop} {left : List β} {right : List γ}
    (h : List.Forall₂ R left right) {b : β} (hb : b ∈ left) : ∃ c ∈ right, R b c := by
  induction h with
  | nil => cases hb
  | cons hone _ ih =>
    rcases List.mem_cons.1 hb with rfl | hb
    · exact ⟨_, List.mem_cons_self, hone⟩
    · obtain ⟨c, hc, hr⟩ := ih hb
      exact ⟨c, List.mem_cons_of_mem _ hc, hr⟩

/-! ## Drawn ids -/

/-- What a hexadecimal digit is worth. -/
def hexDigitValue (c : Char) : Nat := if c.isDigit then c.toNat - 48 else c.toNat - 87

/-- The number that hexadecimal digits write. -/
def hexValue (cs : List Char) : Nat := cs.foldl (fun n c => 16 * n + hexDigitValue c) 0

theorem hexValue_toDigits (n : Nat) : hexValue (Nat.toDigits 16 n) = n := by
  have hdigit : ∀ d < 16, hexDigitValue d.digitChar = d := by decide
  induction n using Nat.strongRecOn with
  | ind n ih =>
    rcases Nat.lt_or_ge n 16 with hn | hn
    · rw [Nat.toDigits_of_lt_base hn]
      simp [hexValue, hdigit n hn]
    · have hhigh := ih (n / 16) (by omega)
      rw [Nat.toDigits_of_base_le (by decide) hn]
      simp only [hexValue, List.foldl_append, List.foldl_cons, List.foldl_nil] at hhigh ⊢
      rw [hhigh, hdigit _ (Nat.mod_lt n (by decide)), Nat.div_add_mod]

/-- Zeros before a number do not count. -/
theorem hexValue_zeros (width : Nat) (cs : List Char) :
    hexValue (List.replicate width '0' ++ cs) = hexValue cs := by
  induction width with
  | zero => rfl
  | succ width ih => exact ih

/-- Different numbers have different digits. -/
theorem idDigits_injective : Function.Injective Task.idDigits := by
  intro m n h
  have hvalue (k : Nat) : hexValue (Text.hexText 12 k) = k := by
    rw [Text.hexText, hexValue_zeros, hexValue_toDigits]
  rw [← hvalue m, ← hvalue n, String.ofList_injective h]

/-! ## Calm hubs -/

/-- What the registration of records leaves alone: the settings, the subscriptions, and whether the hub
has been started. -/
def Hub.wiring (h : Hub α) : List (Service × String) × Settings × Subscriptions × List Nat × Bool :=
  (h.outages, h.settings, h.bus.subscriptions, h.flows.listeners, h.flows.initialized)

/-- The frame in which the stored records, the wiring and the next draw stay as they are. -/
def Frame.atRest : Frame α := .ofPart fun h => (h.serial, h.engine.book, h.flows.book, h.wiring)

/-- The topics under which new rules and flows are told. -/
def intakeTopics : List String := [Topic.ruleRegistered, Topic.flowCreated]

/-- A calm hub (module doc). -/
structure Hub.Calm (host : Host α) (h : Hub α) : Prop where
  inOrder : h.outages = []
  told : ∀ topic ∈ intakeTopics, ∀ s ∈ h.bus.subscriptions.ofTopic topic, ∀ n,
    Within .atRest (host.receive s n)

theorem Hub.Calm.congr (hc : h.Calm host) (hw : h'.wiring = h.wiring) : h'.Calm host := by
  simp only [Hub.wiring, Prod.mk.injEq] at hw
  obtain ⟨ho, -, hs, -, -⟩ := hw
  exact ⟨ho.trans hc.inOrder, hs ▸ hc.told⟩

/-- What is delivered stays in a frame that does not see the log when it does for every subscriber. -/
theorem within_deliver_of_log {F : Frame α} (hlog : ∀ h lines, F.allows h { h with log := lines })
    {topic : String} {n : Notice} {subscribers : List Subscriber}
    (hs : ∀ s ∈ subscribers, Within F (host.receive s n)) :
    Within F (deliver host topic n subscribers) := by
  induction subscribers with
  | nil => exact Within.pure _
  | cons s rest ih =>
    intro h
    obtain ⟨lines, hcons⟩ := hub_deliver_cons host topic n s rest h
    have hrest := ih fun s' hs' => hs s' (List.mem_cons_of_mem s hs')
    rw [hcons]
    exact F.trans (hs s List.mem_cons_self h) (F.trans (hlog _ lines) (hrest _))

theorem Hub.Calm.announce (hc : h.Calm host) {topic : String} (ht : topic ∈ intakeTopics)
    (n : Notice) : Frame.atRest.allows h (outcome (EventHub.announce host topic n) h).2 := by
  rw [outcome_announce]
  exact within_deliver_of_log (fun _ _ => rfl) (fun s hs => hc.told topic ht s hs n) h

theorem Hub.Calm.engineNotice (hc : h.Calm host) {topic : String} (ht : topic ∈ intakeTopics)
    (n : Notice) : Frame.atRest.allows h (outcome (EventHub.engineNotice host topic n) h).2 := by
  rw [outcome_engineNotice]
  unfold emit
  cases h.engine.outlet with
  | none => rfl
  | some outlet =>
    cases outlet with
    | journal => rfl
    | bus => exact hc.announce ht n

/-! ## Registries -/

/-- Where records of one kind are stored and how they are registered (module doc). `makes` checks a
definition at a time, `storedAt` stores the record at a time under an id, `draw` is the id for a number,
and `beside` is the frame in which all else stays. -/
structure Registry (α ρ : Type) where
  register : Definition ρ → Task α String
  makes : String → Definition ρ → Except Fault ρ
  id? : ρ → Option String
  storedAt : ρ → String → String → ρ
  draw : Nat → String
  stored : Hub α → List (String × ρ)
  beside : Frame α

/-- The registry of rules. -/
def Registry.rules (host : Host α) : Registry α Rule where
  register := registerRule host
  makes now d := d.toRule now
  id? := Rule.id
  storedAt := Rule.storedAt
  draw n := s!"rule-{Task.idDigits n}"
  stored h := h.engine.book.rules
  beside := .ofPart fun h => (h.flows.book, h.wiring)

/-- The registry of flows. -/
def Registry.flows (host : Host α) : Registry α Flow where
  register := createFlow host
  makes now d := d.toFlow now
  id? := Flow.id
  storedAt := Flow.storedAt
  draw n := s!"flow-{Task.idDigits n}"
  stored h := h.flows.book
  beside := .ofPart fun h => (h.engine.book, h.wiring)

namespace Registry

variable {K : Registry α ρ} {d : Definition ρ} {definitions taken : List (Definition ρ)}

/-- The definition is not valid, or names an id that is in use. -/
def Refuses (K : Registry α ρ) (h : Hub α) (d : Definition ρ) : Prop :=
  ∀ r, K.makes h.now.text d = .ok r → ∃ id, K.id? r = some id ∧ id ∈ Assoc.keys (K.stored h)

/-- The entry is what the definition makes: the record under its id, or under one that was drawn. -/
def Makes (K : Registry α ρ) (d : Definition ρ) (e : String × ρ) : Prop :=
  ∃ now r, K.makes now d = .ok r ∧ e.2 = K.storedAt r now e.1 ∧ ∀ id, K.id? r = some id → e.1 = id

/-- The definition names an id. -/
def Named (K : Registry α ρ) (d : Definition ρ) : Prop :=
  ∃ now r id, K.makes now d = .ok r ∧ K.id? r = some id

/-- The definition names an id that is in use. -/
def NamesUsed (K : Registry α ρ) (h : Hub α) (d : Definition ρ) : Prop :=
  ∃ now r id, K.makes now d = .ok r ∧ K.id? r = some id ∧ id ∈ Assoc.keys (K.stored h)

/-- No definition names an id that could be drawn. -/
def Spares (K : Registry α ρ) (definitions : List (Definition ρ)) : Prop :=
  ∀ d ∈ definitions, ∀ now r id, K.makes now d = .ok r → K.id? r = some id → ∀ n, id ≠ K.draw n

/-- Registering the record at the hub has stored it. -/
structure Stores (K : Registry α ρ) (d : Definition ρ) (r : ρ) (id : String) (h h' : Hub α) :
    Prop where
  done : outcome (K.register d) h = (.ok id, h')
  named : id = (K.id? r).getD (K.draw (h.serial + 1))
  stored : K.stored h' = Assoc.put (K.stored h) id (K.storedAt r h.now.text id)
  serial : h'.serial = if (K.id? r).isNone then h.serial + 1 else h.serial
  free : ∀ id, K.id? r = some id → id ∉ Assoc.keys (K.stored h)
  beside : K.beside.allows h h'

/-- What registries do at calm hubs. -/
structure Lawful (K : Registry α ρ) (host : Host α) : Prop where
  elsewhen : ∀ {d : Definition ρ} {now : String} {r : ρ}, K.makes now d = .ok r → ∀ now',
    ∃ r', K.makes now' d = .ok r' ∧ K.id? r' = K.id? r
  draws : Function.Injective K.draw
  wiring : ∀ {h h' : Hub α}, K.beside.allows h h' → h'.wiring = h.wiring
  refused : ∀ {d : Definition ρ} {h : Hub α}, h.Calm host → K.Refuses h d →
    ∃ fault, outcome (K.register d) h = (.error fault, h)
  stores : ∀ {d : Definition ρ} {r : ρ} {h : Hub α}, h.Calm host → K.makes h.now.text d = .ok r →
    (∀ id, K.id? r = some id → id ∉ Assoc.keys (K.stored h)) → ∃ id h', K.Stores d r id h h'

/-- The id that a record has or draws. -/
theorem getD_drawn (given : Option String) (drawn fresh : String) (hd : given = none → drawn = fresh) :
    given.getD drawn = given.getD fresh := by
  cases given with
  | none => exact hd rfl
  | some id => rfl

theorem rules_lawful (host : Host α) : (Registry.rules host).Lawful host where
  elsewhen := Definition.toRule_elsewhen
  draws m n h := idDigits_injective (by simpa [Registry.rules, toString, ← String.toList_inj] using h)
  wiring hb := (Prod.mk.inj hb).2
  refused {d h} hc hr := by
    have ho : outcome (engineOperation "register_rule") h = (.ok (), h) :=
      outcome_engineOperation_ok hc.inOrder
    -- A definition is refused where it describes no rule, and where the id of the rule is in use.
    change ∃ fault, outcome (registerRule host d) h = (.error fault, h)
    cases hd : d.toRule h.now.text with
    | error fault =>
      refine ⟨fault, ?_⟩
      unfold registerRule
      rw [outcome_bind_ok ho, outcome_bind_ok (outcome_now h), outcome_bind, outcome_ofExcept, hd]
    | ok r =>
      obtain ⟨id, hid, hused⟩ := hr r hd
      have hid : r.id = some id := hid
      have hused : h.engine.book.get? id ≠ none := fun hn =>
        (Assoc.get?_eq_none_iff h.engine.book.rules id).1 hn hused
      rw [outcome_registerRule_of_toRule host ho hd, RuleBook.register_of_used hid hused]
      exact ⟨.definition (.ruleExists id), by simp [Hub.afterDraw, RuleBook.needsId, hid]⟩
  stores {d r h} hc hd hfree := by
    have hnone : ∀ id, r.id = some id → h.engine.book.get? id = none := fun id hid =>
      (Assoc.get?_eq_none_iff h.engine.book.rules id).2 (hfree id hid)
    have hrun := outcome_registerRule_of_toRule host (outcome_engineOperation_ok hc.inOrder) hd
    rw [RuleBook.register_of_free hnone] at hrun
    have hserial : (h.afterDraw r).serial = if r.id.isNone then h.serial + 1 else h.serial := by
      unfold Hub.afterDraw RuleBook.needsId
      split <;> rfl
    obtain ⟨serial, hdraw⟩ := h.afterDraw_eq r
    rw [hdraw] at hrun hserial
    -- The hub that is told of the rule differs from the one before in the book and the serial.
    obtain ⟨changed, n, hrun, hbook, hserial, hflows, hwiring⟩ : ∃ changed n,
        let id := r.id.getD (h.drawnRuleId r)
        outcome (registerRule host d) h =
          (.ok id, (outcome (engineNotice host Topic.ruleRegistered n) changed).2) ∧
        changed.engine.book = h.engine.book.insert id (r.storedAt h.now.text id) ∧
        changed.serial = (if r.id.isNone then h.serial + 1 else h.serial) ∧
        changed.flows.book = h.flows.book ∧ changed.wiring = h.wiring :=
      ⟨_, _, hrun, rfl, hserial, rfl, rfl⟩
    -- Whoever is told leaves the registries, so what was stored is there afterwards.
    obtain ⟨hs, hrest⟩ := Prod.mk.inj ((hc.congr hwiring).engineNotice
      (show Topic.ruleRegistered ∈ intakeTopics by decide) n)
    obtain ⟨hb, hrest⟩ := Prod.mk.inj hrest
    refine ⟨_, _, hrun, getD_drawn _ _ _ fun hn => ?_, congrArg RuleBook.rules (hb.trans hbook),
      hs.trans hserial, hfree, hrest.trans (Prod.ext hflows hwiring)⟩
    simp [Hub.drawnRuleId, RuleBook.needsId, hn, Registry.rules]

theorem flows_lawful (host : Host α) : (Registry.flows host).Lawful host where
  elsewhen := Definition.toFlow_elsewhen
  draws m n h := idDigits_injective (by simpa [Registry.flows, toString, ← String.toList_inj] using h)
  wiring hb := (Prod.mk.inj hb).2
  refused {d h} hc hr := by
    change ∃ fault, outcome (createFlow host d) h = (.error fault, h)
    cases hd : d.toFlow h.now.text with
    | error fault =>
      refine ⟨fault, ?_⟩
      unfold createFlow
      rw [outcome_bind_ok (outcome_now h), outcome_bind, outcome_ofExcept, hd]
    | ok f =>
      obtain ⟨id, hid, hused⟩ := hr f hd
      have hid : f.id = some id := hid
      have hused : Assoc.get? h.flows.book id ≠ none := fun hn =>
        (Assoc.get?_eq_none_iff h.flows.book id).1 hn hused
      rw [outcome_createFlow_of_toFlow host hd, FlowBook.register_of_used hid hused]
      exact ⟨.definition (.flowExists id), by simp [Hub.afterFlowDraw, hid]⟩
  stores {d f h} hc hd hfree := by
    have hnone : ∀ id, f.id = some id → Assoc.get? h.flows.book id = none := fun id hid =>
      (Assoc.get?_eq_none_iff h.flows.book id).2 (hfree id hid)
    have hrun := outcome_createFlow_of_toFlow host hd
    rw [FlowBook.register_of_free hnone] at hrun
    have hserial : (h.afterFlowDraw f).serial = if f.id.isNone then h.serial + 1 else h.serial := by
      unfold Hub.afterFlowDraw
      split <;> rfl
    obtain ⟨serial, hdraw⟩ := h.afterFlowDraw_eq f
    rw [hdraw] at hrun hserial
    -- As for rules: the book of flows and the serial have changed, and telling changes neither.
    obtain ⟨changed, n, hrun, hbook, hserial, hrules, hwiring⟩ : ∃ changed n,
        let id := f.id.getD (h.drawnFlowId f)
        outcome (createFlow host d) h =
          (.ok id, (outcome (announce host Topic.flowCreated n) changed).2) ∧
        changed.flows.book = Assoc.put h.flows.book id (f.storedAt h.now.text id) ∧
        changed.serial = (if f.id.isNone then h.serial + 1 else h.serial) ∧
        changed.engine.book = h.engine.book ∧ changed.wiring = h.wiring :=
      ⟨_, _, hrun, rfl, hserial, rfl, rfl⟩
    obtain ⟨hs, hrest⟩ := Prod.mk.inj ((hc.congr hwiring).announce
      (show Topic.flowCreated ∈ intakeTopics by decide) n)
    obtain ⟨hr, hrest⟩ := Prod.mk.inj hrest
    obtain ⟨hb, hw⟩ := Prod.mk.inj hrest
    refine ⟨_, _, hrun, getD_drawn _ _ _ fun hn => ?_, hb.trans hbook, hs.trans hserial,
      hfree, Prod.ext (hr.trans hrules) (hw.trans hwiring)⟩
    simp [Hub.drawnFlowId, hn, Registry.flows]

/-! ## In turn -/

/-- Registers the definitions in order; the first that is refused ends it. -/
def takeAll (K : Registry α ρ) : List (Definition ρ) → Task α Unit
  | [] => return ()
  | d :: rest => do
    let _ ← K.register d
    K.takeAll rest

/-- Each definition made its entry, and the entries were put among the stored ones in order. -/
def Gained (K : Registry α ρ) (taken : List (Definition ρ)) (h h' : Hub α) : Prop :=
  ∃ made, List.Forall₂ K.Makes taken made ∧ K.stored h' = Assoc.merge (K.stored h) made

/-- Each definition has `n` entries: they were stored in as many rounds, in order, under ids of their own,
and there are no others. -/
structure Holds (K : Registry α ρ) (n : Nat) (definitions : List (Definition ρ)) (h : Hub α) :
    Prop where
  made : List.Forall₂ K.Makes (List.replicate n definitions).flatten (K.stored h)
  distinct : (Assoc.keys (K.stored h)).Nodup

/-- The ids in use that could be drawn have been. -/
def Drawn (K : Registry α ρ) (h : Hub α) : Prop :=
  ∀ n, K.draw n ∈ Assoc.keys (K.stored h) → n ≤ h.serial

/-- What became of a hub that took the definitions in: all else is as it was. -/
structure Took (K : Registry α ρ) (taken : List (Definition ρ)) (h h' : Hub α) : Prop where
  gained : K.Gained taken h h'
  beside : K.beside.allows h h'
  serial : h.serial ≤ h'.serial

/-- The hubs have the same ids in use, and draw the same id next. -/
def Like (K : Registry α ρ) (h g : Hub α) : Prop :=
  h.serial = g.serial ∧ Assoc.keys (K.stored h) = Assoc.keys (K.stored g)

theorem Took.nil (K : Registry α ρ) (h : Hub α) : K.Took [] h h :=
  ⟨⟨[], .nil, rfl⟩, K.beside.refl h, Nat.le_refl _⟩

theorem Stores.took {r : ρ} {id : String} {h₁ : Hub α} (hm : K.makes h.now.text d = .ok r)
    (hs : K.Stores d r id h h₁) (ht : K.Took taken h₁ h') : K.Took (d :: taken) h h' := by
  obtain ⟨made, hmade, hstored⟩ := ht.gained
  refine ⟨⟨(id, K.storedAt r h.now.text id) :: made, .cons ⟨_, r, hm, rfl, fun id' hid => ?_⟩ hmade, ?_⟩,
    K.beside.trans hs.beside ht.beside, Nat.le_trans ?_ ht.serial⟩
  · rw [hs.named, hid]
    rfl
  · rw [hstored, hs.stored]
    rfl
  · rw [hs.serial]
    split <;> omega

theorem Drawn.mono (hd : K.Drawn h) (hstored : K.stored h' = K.stored h) (hs : h.serial ≤ h'.serial) :
    K.Drawn h' := fun n hn => Nat.le_trans (hd n (hstored ▸ hn)) hs

theorem NamesUsed.congr (hu : K.NamesUsed h d) (hs : K.stored h' = K.stored h) : K.NamesUsed h' d := by
  obtain ⟨now, r, id, hm, hid, hused⟩ := hu
  exact ⟨now, r, id, hm, hid, hs ▸ hused⟩

theorem Holds.congr {n : Nat} (hh : K.Holds n definitions h) (hs : K.stored h' = K.stored h) :
    K.Holds n definitions h' := ⟨hs ▸ hh.made, hs ▸ hh.distinct⟩

/-- Where nothing is stored, nothing has been taken in yet. -/
theorem holds_of_nil (hs : K.stored h = []) : K.Holds 0 definitions h ∧ K.Drawn h := by
  refine ⟨⟨?_, ?_⟩, fun n hn => ?_⟩
  · rw [hs]
    exact .nil
  · rw [hs]
    exact List.nodup_nil
  · rw [hs] at hn
    cases hn

/-- The ids in use stay in use. -/
theorem Gained.namesUsed (hg : K.Gained taken h h') (hd : K.NamesUsed h d) : K.NamesUsed h' d := by
  obtain ⟨now, r, id, hm, hid, hused⟩ := hd
  obtain ⟨made, -, hstored⟩ := hg
  exact ⟨now, r, id, hm, hid, hstored ▸ Assoc.mem_keys_merge.2 (.inl hused)⟩

/-- The record that a computed check makes. -/
theorem eq_ok_of_toOption {x : Except Fault ρ} {given : Option String}
    (hx : x.toOption.map K.id? = some given) : ∃ r, x = .ok r ∧ K.id? r = given := by
  cases x with
  | error fault => cases hx
  | ok r => exact ⟨r, rfl, Option.some.inj hx⟩

/-- Definitions that name no ids name none that could be drawn. -/
theorem spares_of_unnamed (hu : ∀ d ∈ definitions, ¬ K.Named d) : K.Spares definitions :=
  fun d hd now r id hm hid => absurd ⟨now, r, id, hm, hid⟩ (hu d hd)

/-- A definition that was taken in describes a record. -/
theorem Gained.valid (hg : K.Gained taken h h') (hd : d ∈ taken) : ∃ now r, K.makes now d = .ok r := by
  obtain ⟨made, hmade, -⟩ := hg
  obtain ⟨e, -, now, r, hm, -⟩ := exists_mem_of_forall₂ hmade hd
  exact ⟨now, r, hm⟩

namespace Lawful

variable (hK : K.Lawful host)
include hK

theorem calm (hc : h.Calm host) (hb : K.beside.allows h h') : h'.Calm host := hc.congr (hK.wiring hb)

/-- The id that a definition names is in use when it was taken in. -/
theorem namesUsed (hg : K.Gained taken h h') (hd : d ∈ taken) (hn : K.Named d) : K.NamesUsed h' d := by
  obtain ⟨now, r, id, hm, hid⟩ := hn
  obtain ⟨made, hmade, hstored⟩ := hg
  obtain ⟨e, he, now', r', hm', -, hnamed⟩ := exists_mem_of_forall₂ hmade hd
  obtain ⟨r'', hm'', hsame⟩ := hK.elsewhen hm now'
  have hr : r'' = r' := Except.ok.inj (hm''.symm.trans hm')
  refine ⟨now, r, id, hm, hid, ?_⟩
  rw [hstored, Assoc.mem_keys_merge]
  exact .inr (List.mem_map.2 ⟨e, he, hnamed id (by rw [← hr, hsame, hid])⟩)

/-- A definition whose record has no id names none at any other time either. -/
theorem not_named (now : String) (hd : (K.makes now d).toOption.map K.id? = some none) :
    ¬ K.Named d := by
  obtain ⟨r, hm, hid⟩ := eq_ok_of_toOption hd
  rintro ⟨now', r', id, hm', hid'⟩
  obtain ⟨r'', hm'', hsame⟩ := hK.elsewhen hm now'
  cases hm''.symm.trans hm'
  rw [hsame, hid] at hid'
  cases hid'

/-- A definition is refused, or its record is stored. -/
theorem register_cases (hc : h.Calm host) (d : Definition ρ) :
    (K.Refuses h d ∧ ∃ fault, outcome (K.register d) h = (.error fault, h)) ∨
      ∃ r id h', K.makes h.now.text d = .ok r ∧ K.Stores d r id h h' := by
  by_cases hr : K.Refuses h d
  · exact .inl ⟨hr, hK.refused hc hr⟩
  · unfold Refuses at hr
    push Not at hr
    obtain ⟨r, hm, hfree⟩ := hr
    obtain ⟨id, h', hs⟩ := hK.stores hc hm hfree
    exact .inr ⟨r, id, h', hm, hs⟩

/-- All definitions are taken in, or those before the first that is refused. -/
theorem takeAll (hc : h.Calm host) (definitions : List (Definition ρ)) :
    (∃ h', outcome (K.takeAll definitions) h = (.ok (), h') ∧ K.Took definitions h h') ∨
    ∃ taken d rest fault h', definitions = taken ++ d :: rest ∧ K.Took taken h h' ∧ K.Refuses h' d ∧
      outcome (K.takeAll definitions) h = (.error fault, h') := by
  induction definitions generalizing h with
  | nil => exact .inl ⟨h, rfl, .nil K h⟩
  | cons d rest ih =>
    unfold Registry.takeAll
    obtain ⟨hr, fault, hf⟩ | ⟨r, id, h₁, hm, hs⟩ := hK.register_cases hc d
    · exact .inr ⟨[], d, rest, fault, h, rfl, .nil K h, hr, outcome_bind_error hf⟩
    · obtain ⟨h₂, hrun, ht⟩ | ⟨taken, d', rest', fault, h₂, rfl, ht, hr, hrun⟩ :=
        ih (hK.calm hc hs.beside)
      · exact .inl ⟨h₂, (outcome_bind_ok hs.done).trans hrun, hs.took hm ht⟩
      · exact .inr ⟨d :: taken, d', rest', fault, h₂, rfl, hs.took hm ht, hr,
          (outcome_bind_ok hs.done).trans hrun⟩

theorem took (hc : h.Calm host) (hrun : outcome (K.takeAll definitions) h = (.ok (), h')) :
    K.Took definitions h h' := by
  obtain ⟨h₁, hok, ht⟩ | ⟨_, _, _, _, _, -, -, -, herror⟩ := hK.takeAll hc definitions
  · cases hok.symm.trans hrun
    exact ht
  · cases herror.symm.trans hrun

/-- Valid definitions without ids are taken in whatever is stored. -/
theorem takeAll_of_unnamed (hc : h.Calm host)
    (hd : ∀ d ∈ definitions, (∃ now r, K.makes now d = .ok r) ∧ ¬ K.Named d) :
    ∃ h', outcome (K.takeAll definitions) h = (.ok (), h') := by
  obtain ⟨h', hok, -⟩ | ⟨taken, d, rest, fault, h', rfl, -, hr, -⟩ := hK.takeAll hc definitions
  · exact ⟨h', hok⟩
  · obtain ⟨⟨now, r, hm⟩, hunnamed⟩ := hd d (by simp)
    obtain ⟨r', hm', -⟩ := hK.elsewhen hm h'.now.text
    obtain ⟨id, hid, -⟩ := hr r' hm'
    exact absurd ⟨_, r', id, hm', hid⟩ hunnamed

/-- Definitions one of which names an id in use are not all taken in. -/
theorem takeAll_ne_ok (hc : h.Calm host) (hd : d ∈ definitions) (hu : K.NamesUsed h d)
    (h' : Hub α) : outcome (K.takeAll definitions) h ≠ (.ok (), h') := by
  induction definitions generalizing h with
  | nil => cases hd
  | cons first rest ih =>
    intro hrun
    obtain ⟨now, r, id, hm, hid, hused⟩ := hu
    unfold Registry.takeAll at hrun
    obtain ⟨hr, fault, hf⟩ | ⟨r₁, id₁, h₁, hm₁, hs⟩ := hK.register_cases hc first
    · rw [outcome_bind_error hf] at hrun
      cases hrun
    rw [outcome_bind_ok hs.done] at hrun
    rcases List.mem_cons.1 hd with rfl | hd
    · -- The definition itself was stored, so its id was free.
      obtain ⟨r', hm', hsame⟩ := hK.elsewhen hm h.now.text
      cases hm'.symm.trans hm₁
      exact hs.free id (hsame.trans hid) hused
    · have hused₁ : id ∈ Assoc.keys (K.stored h₁) := by
        rw [hs.stored]
        exact Assoc.mem_keys_put.2 (.inl hused)
      exact ih (hK.calm hc hs.beside) hd ⟨now, r, id, hm, hid, hused₁⟩ hrun

/-- What one hub takes in, a hub like it takes in as well, and they stay alike. -/
theorem takeAll_like (hc : h.Calm host) (gc : g.Calm host) (hl : K.Like h g)
    (hrun : outcome (K.takeAll definitions) h = (.ok (), h')) :
    ∃ g', outcome (K.takeAll definitions) g = (.ok (), g') ∧ K.Like h' g' := by
  induction definitions generalizing h g with
  | nil =>
    cases hrun
    exact ⟨g, rfl, hl⟩
  | cons d rest ih =>
    obtain ⟨hserial, hkeys⟩ := hl
    unfold Registry.takeAll at hrun ⊢
    obtain ⟨-, fault, hf⟩ | ⟨r, id, h₁, hm, hs⟩ := hK.register_cases hc d
    · rw [outcome_bind_error hf] at hrun
      cases hrun
    rw [outcome_bind_ok hs.done] at hrun
    obtain ⟨r', hm', hsame⟩ := hK.elsewhen hm g.now.text
    have hfree : ∀ id, K.id? r' = some id → id ∉ Assoc.keys (K.stored g) := fun id' hid hused => by
      rw [← hkeys] at hused
      exact hs.free id' (hsame.symm.trans hid) hused
    obtain ⟨id', g₁, gs⟩ := hK.stores gc hm' hfree
    have hids : id' = id := by rw [gs.named, hs.named, hsame, hserial]
    have hl₁ : K.Like h₁ g₁ := by
      refine ⟨by rw [hs.serial, gs.serial, hsame, hserial], ?_⟩
      rw [hs.stored, gs.stored, hids]
      exact Assoc.keys_put_congr hkeys id _ _
    obtain ⟨g', grun, hl'⟩ := ih (hK.calm hc hs.beside) (hK.calm gc gs.beside) hl₁ hrun
    exact ⟨g', (outcome_bind_ok gs.done).trans grun, hl'⟩

/-- Definitions that name no id that could be drawn are stored behind what there was, one entry for each,
under ids that are new. -/
theorem takeAll_appends (hc : h.Calm host) (hspare : K.Spares definitions) (hdrawn : K.Drawn h)
    (hnodup : (Assoc.keys (K.stored h)).Nodup)
    (hrun : outcome (K.takeAll definitions) h = (.ok (), h')) :
    (∃ made, List.Forall₂ K.Makes definitions made ∧ K.stored h' = K.stored h ++ made) ∧
      (Assoc.keys (K.stored h')).Nodup ∧ K.Drawn h' := by
  induction definitions generalizing h with
  | nil =>
    cases hrun
    exact ⟨⟨[], .nil, (List.append_nil _).symm⟩, hnodup, hdrawn⟩
  | cons d rest ih =>
    unfold Registry.takeAll at hrun
    obtain ⟨-, fault, hf⟩ | ⟨r, id, h₁, hm, hs⟩ := hK.register_cases hc d
    · rw [outcome_bind_error hf] at hrun
      cases hrun
    rw [outcome_bind_ok hs.done] at hrun
    -- The id is new: a given one was free, and a drawn one is beyond all that were drawn.
    have hnew : id ∉ Assoc.keys (K.stored h) := fun hused => by
      cases hid : K.id? r with
      | some given =>
        rw [hs.named, hid] at hused
        exact hs.free given hid hused
      | none =>
        rw [hs.named, hid] at hused
        exact Nat.not_succ_le_self _ (hdrawn _ hused)
    have hput : K.stored h₁ = K.stored h ++ [(id, K.storedAt r h.now.text id)] :=
      hs.stored.trans (Assoc.put_of_get?_eq_none ((Assoc.get?_eq_none_iff _ id).2 hnew) _)
    have hkeys : Assoc.keys (K.stored h₁) = Assoc.keys (K.stored h) ++ [id] := by
      rw [hput]
      exact List.map_append
    -- Still no id in use is one that is yet to be drawn: the definitions spare those, and this one may
    -- have been drawn now.
    have hdrawn₁ : K.Drawn h₁ := fun n hn => by
      rw [hkeys, List.mem_append, List.mem_singleton] at hn
      rw [hs.serial]
      rcases hn with hn | hn
      · have := hdrawn n hn
        split <;> omega
      · cases hid : K.id? r with
        | some given =>
          rw [hs.named, hid] at hn
          exact absurd hn.symm (hspare d List.mem_cons_self _ _ _ hm hid n)
        | none =>
          rw [hs.named, hid] at hn
          exact Nat.le_of_eq (hK.draws hn)
    have hnodup₁ : (Assoc.keys (K.stored h₁)).Nodup := by
      rw [hkeys]
      exact List.nodup_append.2 ⟨hnodup, List.nodup_singleton _, fun a ha b hb he =>
        hnew (List.mem_singleton.1 hb ▸ he ▸ ha)⟩
    obtain ⟨⟨made, hmade, hstored⟩, hnodup'⟩ := ih (hK.calm hc hs.beside)
      (fun d' hd' => hspare d' (List.mem_cons_of_mem d hd')) hdrawn₁ hnodup₁ hrun
    refine ⟨⟨(id, K.storedAt r h.now.text id) :: made, .cons ⟨_, r, hm, rfl, fun id' hid => ?_⟩ hmade, ?_⟩,
      hnodup'⟩
    · rw [hs.named, hid]
      rfl
    · rw [hstored, hput, List.append_assoc]
      rfl

/-- Where each definition has `n` entries, it has one more after they were taken in once more. -/
theorem takeAll_holds {n : Nat} (hc : h.Calm host) (hspare : K.Spares definitions) (hdrawn : K.Drawn h)
    (hholds : K.Holds n definitions h) (hrun : outcome (K.takeAll definitions) h = (.ok (), h')) :
    K.Holds (n + 1) definitions h' ∧ K.Drawn h' := by
  obtain ⟨⟨made, hmade, hstored⟩, hdistinct, hdrawn'⟩ :=
    hK.takeAll_appends hc hspare hdrawn hholds.distinct hrun
  refine ⟨⟨?_, hdistinct⟩, hdrawn'⟩
  rw [List.replicate_succ', List.flatten_append, List.flatten_singleton, hstored]
  exact List.rel_append hholds.made hmade

end Lawful

end Registry

end EventHub
