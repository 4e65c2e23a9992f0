import EventHub.Proofs.Context
import EventHub.Proofs.Rules.Execution

/-!
# Attempts in turn

A notification is tried on several channels, and a web hook or a short message is posted to several targets.
Both go through a row, one after the other: what one attempt comes to keeps none of the later ones from
being made.

* **Rows** (`InTurn`): tasks that run one after the other, each once, whatever the ones before it came to.
* **Channels** (`dispatchThrough_tries`): every channel that has a provider is tried in turn, and every
  channel has a status.
* **Posts** (`postEach_inTurn`): a document is posted to every target in turn, until something fails that is
  no request. When only requests fail (`Outside.FailsByRequest`) it is posted to all of them
  (`postEach_all`), and all failed is a fault (`failIfAll_isOk`).
-/

namespace EventHub

open EventHub.Task

variable {α ι : Type}

/-! ## Rows -/

/-- The hub with a warning of the fault, if there was one. -/
def Hub.warned (h : Hub α) (text : Fault → String) : Except Fault Unit → Hub α
  | .ok _ => h
  | .error fault => { h with log := ⟨.warning, notificationPart, text fault⟩ :: h.log }

/-- Tasks that run in turn, with what each of them came to: the first on the hub that there is, and every
other one on the hub that the one before it left, with a warning if that failed. -/
inductive InTurn (task : ι → Task α Unit) (text : ι → Fault → String) :
    List (ι × Except Fault Unit) → Hub α → Hub α → Prop
  | none (h : Hub α) : InTurn task text [] h h
  | one {i : ι} {r : Except Fault Unit} {attempts : List (ι × Except Fault Unit)} {h h₁ h₂ : Hub α}
    (ran : outcome (task i) h = (r, h₁))
    (rest : InTurn task text attempts (h₁.warned (text i) r) h₂) :
    InTurn task text ((i, r) :: attempts) h h₂

/-- The keys whose attempts failed. -/
def failuresOf (attempts : List (ι × Except Fault Unit)) : List ι :=
  Assoc.keys (attempts.filter fun a => !a.2.isOk)

theorem length_failuresOf {attempts : List (ι × Except Fault Unit)} :
    (failuresOf attempts).length = (Assoc.keys attempts).length ↔ ∀ a ∈ attempts, a.2.isOk = false := by
  rw [failuresOf, Assoc.keys, Assoc.keys, List.length_map, List.length_map, List.length_filter_eq_length_iff]
  simp

/-! ## Channels -/

/-- What a provider does with a notification; nothing, if there is none. -/
def Providers.delivery (providers : Providers α) (n : Notification) (channel : String) : Task α Unit :=
  (providers channel).elim (pure ()) (· n)

/-- The warning of a channel that failed. -/
def channelWarning (channel : String) (fault : Fault) : String :=
  s!"Notify via {channel} failed: " ++ fault.message

/-- The status of a channel: it was tried and took the notification, or failed, or it was not tried. -/
def channelStatus : Option (Except Fault Unit) → String
  | none => "unsupported"
  | some (.ok _) => "sent"
  | some (.error fault) => "failed: " ++ fault.message

/-- A status for every channel, in order. -/
def statusesOf (channels : List String) (attempts : List (String × Except Fault Unit)) : Fields :=
  channels.map fun c => (c, .text (channelStatus (Assoc.get? attempts c)))

/-- Entries with their keys as values. -/
def asEntries (fields : Fields) : List (Value × Value) := fields.map fun e => (.text e.1, e.2)

theorem ofDistinct_asEntries (fields : Fields) : Value.ofDistinct (asEntries fields) = .map fields := by
  have hall : Value.allText? (asEntries fields) = some fields := by
    induction fields with
    | nil => rfl
    | cons e rest ih => exact congrArg (Option.map fun more => e :: more) ih
  rw [Value.ofDistinct, hall]

theorem putEntry_asEntries {fields : Fields} {key : String} (hnew : key ∉ Assoc.keys fields) (v : Value) :
    Value.putEntry (asEntries fields) (.text key) v = asEntries (fields ++ [(key, v)]) := by
  induction fields with
  | nil => rfl
  | cons e rest ih =>
    rw [Assoc.keys_cons, List.mem_cons, not_or] at hnew
    have hne : ¬ (Value.text e.1).alike (.text key) = true := fun h =>
      hnew.1 (Value.text.inj (Value.eq_of_text_alike h))
    change Value.putEntry ((.text e.1, e.2) :: asEntries rest) (.text key) v = _
    rw [Value.putEntry, if_neg hne, ih hnew.2]
    rfl

theorem outcome_tryChannel {channel : String} {delivery : Task α Unit} {h h₁ : Hub α}
    {r : Except Fault Unit} (hr : outcome delivery h = (r, h₁)) : outcome (tryChannel channel delivery) h =
      (.ok (channelStatus (some r)), h₁.warned (channelWarning channel) r) := by
  unfold tryChannel
  rw [outcome_bind_ok (outcome_attempt _ h), hr]
  cases r with
  | ok _ => rfl
  | error fault => exact outcome_bind_ok (outcome_log rfl _ _ h₁)

section Steps

variable {providers : Providers α} {n : Notification} {channel : String} {known : List (Value × Value)}
  {rest : List Value} {h : Hub α}

theorem dispatchFrom_unsupported (hp : providers channel = none) :
    dispatchFrom providers n known (.text channel :: rest) =
      dispatchFrom providers n (Value.putEntry known (.text channel) (.text (channelStatus none))) rest := by
  rw [dispatchFrom]
  simp [Value.unhashable?, hp, channelStatus]

theorem outcome_dispatchFrom_tried {deliver : Notification → Task α Unit}
    (hp : providers channel = some deliver) {r : Except Fault Unit} {h₁ : Hub α}
    (hr : outcome (deliver n) h = (r, h₁)) :
    outcome (dispatchFrom providers n known (.text channel :: rest)) h =
      outcome (dispatchFrom providers n
        (Value.putEntry known (.text channel) (.text (channelStatus (some r)))) rest)
        (h₁.warned (channelWarning channel) r) := by
  rw [dispatchFrom]
  simp only [Value.unhashable?, hp]
  exact outcome_bind_ok (outcome_tryChannel hr)

end Steps

/-- Those of the channels that have a provider are tried in turn. -/
structure TriedAll (providers : Providers α) (n : Notification) (channels : List String)
    (attempts : List (String × Except Fault Unit)) (h h' : Hub α) : Prop where
  supported : Assoc.keys attempts = channels.filter fun c => (providers c).isSome
  inTurn : InTurn (providers.delivery n) channelWarning attempts h h'

/-- The attempts at channels, after statuses that are known. -/
theorem dispatchFrom_tries (providers : Providers α) (n : Notification) {known : Fields}
    {channels : List String} (hd : (Assoc.keys known ++ channels).Nodup) (h : Hub α) : ∃ attempts h',
    TriedAll providers n channels attempts h h' ∧
    outcome (dispatchFrom providers n (asEntries known) (channels.map .text)) h =
      (.ok (asEntries (known ++ statusesOf channels attempts)), h') := by
  induction channels generalizing known h with
  | nil => exact ⟨[], h, ⟨rfl, .none h⟩, by simp [statusesOf, dispatchFrom]⟩
  | cons c rest ih =>
    have hnew : c ∉ Assoc.keys known := fun hc =>
      List.disjoint_of_nodup_append hd hc List.mem_cons_self
    have hrest : c ∉ rest := (List.nodup_cons.1 hd.of_append_right).1
    -- the status of the channel is known to the channels behind it
    have hd' (v : Value) : (Assoc.keys (known ++ [(c, v)]) ++ rest).Nodup := by
      rw [Assoc.keys, List.map_append, List.append_assoc]
      exact hd
    rw [List.map_cons]
    cases hc : providers c with
    | none =>
      obtain ⟨attempts, h', ⟨hkeys, hturn⟩, hout⟩ := ih (hd' (.text (channelStatus none))) h
      have hskipped : Assoc.get? attempts c = none := by
        rw [Assoc.get?_eq_none_iff, hkeys]
        exact fun hmem => hrest (List.mem_of_mem_filter hmem)
      refine ⟨attempts, h', ⟨by simp [hkeys, hc], hturn⟩, ?_⟩
      rw [dispatchFrom_unsupported hc, putEntry_asEntries hnew, hout, List.append_assoc, statusesOf,
        statusesOf, List.map_cons, hskipped]
      rfl
    | some deliver =>
      generalize hr : outcome (deliver n) h = run
      obtain ⟨r, h₁⟩ := run
      obtain ⟨attempts, h', ⟨hkeys, hturn⟩, hout⟩ :=
        ih (hd' (.text (channelStatus (some r)))) (h₁.warned (channelWarning c) r)
      have hran : outcome (providers.delivery n c) h = (r, h₁) := by
        rw [Providers.delivery, hc]
        exact hr
      have hlater : statusesOf rest ((c, r) :: attempts) = statusesOf rest attempts :=
        List.map_congr_left fun d hmem => by
          rw [Assoc.get?, if_neg (by simpa using fun heq : c = d => hrest (heq ▸ hmem))]
      refine ⟨(c, r) :: attempts, h', ⟨by simp [hkeys, hc], .one hran hturn⟩, ?_⟩
      rw [outcome_dispatchFrom_tried hc hr, putEntry_asEntries hnew, hout, List.append_assoc, ← hlater,
        statusesOf, statusesOf, List.map_cons, Assoc.get?, if_pos (beq_self_eq_true c)]
      rfl

/-- Every channel that has a provider is tried in turn, and every channel has a status. -/
theorem dispatchThrough_tries (providers : Providers α) (n : Notification) {channels : List String}
    (hd : channels.Nodup) (h : Hub α) : ∃ attempts h', TriedAll providers n channels attempts h h' ∧
    outcome (dispatchThrough providers n (channels.map .text)) h =
      (.ok (asEntries (statusesOf channels attempts)), h') :=
  dispatchFrom_tries providers n (show (Assoc.keys ([] : Fields) ++ channels).Nodup from hd) h

/-! ## Posts -/

/-- The attempt did not fail, or with a fault of a request. -/
def ByRequest (r : Except Fault Unit) : Prop := ∀ fault, r = .error fault → fault.isA requestFault = true

/-- The world fails requests only with faults of requests, in whatever pattern. -/
def Outside.FailsByRequest (o : Outside) : Prop :=
  ∀ r journal fault, (o.http r journal).1 = .error fault → fault.isA requestFault = true

/-- The warning of a target at which a request failed. -/
def postWarning (title : String) (target : Value) (fault : Fault) : String :=
  title ++ " notify failed (" ++ target.plain ++ "): " ++ fault.message

/-- A refused answer is a fault of the request. -/
theorem byRequest_accepted (r : HttpResponse) (url : Value) : ByRequest (r.accepted url) := by
  intro fault h
  unfold HttpResponse.accepted at h
  dsimp only at h
  split at h
  · cases h
    rfl
  · split at h
    · cases h
      rfl
    · cases h

/-- A post is a request whose answer has to be accepted. -/
theorem outcome_post (url document timeout : Value) (h : Hub α) :
    let asked : HttpRequest := ⟨"POST", url, [("json", document), ("timeout", timeout)]⟩
    outcome (post url document timeout) h =
      ((h.outside.http asked h.effects).1.bind (·.accepted url),
        { h with effects := (h.outside.http asked h.effects).2 }) := by
  intro asked
  have hrequest : outcome (request "POST" url asked.options) h =
      ((h.outside.http asked h.effects).1, { h with effects := (h.outside.http asked h.effects).2 }) := rfl
  unfold post
  rw [outcome_bind, hrequest]
  cases (h.outside.http asked h.effects).1 with
  | ok answer =>
    dsimp only
    rw [outcome_ofExcept]
    rfl
  | error fault => rfl

theorem Outside.FailsByRequest.post {h h₁ : Hub α} (ho : h.outside.FailsByRequest)
    {url document timeout : Value} {r : Except Fault Unit}
    (hr : outcome (EventHub.post url document timeout) h = (r, h₁)) : ByRequest r := by
  rw [outcome_post] at hr
  obtain rfl := congrArg Prod.fst hr
  intro fault hfails
  dsimp only at hfails
  generalize hasked : (h.outside.http _ h.effects).1 = answer at hfails
  cases answer with
  | ok answer => exact byRequest_accepted answer url fault hfails
  | error other =>
    cases hfails
    exact ho _ _ _ hasked

/-- A frame of every task is one of a row. -/
theorem InTurn.allows {F : Frame α} (hF : F.OpenToTraces) {task : ι → Task α Unit}
    {text : ι → Fault → String} (ht : ∀ i, Within F (task i)) {attempts : List (ι × Except Fault Unit)}
    {h h' : Hub α} (hturn : InTurn task text attempts h h') : F.allows h h' := by
  induction hturn with
  | none h => exact F.refl h
  | one ran rest ih =>
    refine F.trans ((ht _).of_outcome ran) (F.trans ?_ ih)
    unfold Hub.warned
    split
    · exact F.refl _
    · exact hF.log _ _

section Posts

variable {title : String} {url document : Value → Value} {timeout target : Value} {rest : List Value}
  {h h₁ : Hub α}

/-- A post that succeeds, or whose request fails, is followed by the others. -/
theorem outcome_postEach_posted {r : Except Fault Unit} (hb : ByRequest r)
    (hr : outcome (post (url target) (document target) timeout) h = (r, h₁)) :
    outcome (postEach title url document timeout (target :: rest)) h =
      outcome (do
        let failures ← postEach title url document timeout rest
        return failuresOf [(target, r)] ++ failures) (h₁.warned (postWarning title target) r) := by
  rw [postEach, outcome_bind_ok (outcome_attempt _ h), hr]
  cases r with
  | ok _ => exact congrArg (outcome · h₁) (bind_pure _).symm
  | error fault =>
    dsimp only
    rw [if_pos (hb fault rfl)]
    exact outcome_bind_ok (outcome_log rfl _ _ h₁)

/-- What fails and is no request ends the posts. -/
theorem outcome_postEach_stopped {fault : Fault} (hf : fault.isA requestFault = false)
    (hr : outcome (post (url target) (document target) timeout) h = (.error fault, h₁)) :
    outcome (postEach title url document timeout (target :: rest)) h = (.error fault, h₁) := by
  rw [postEach, outcome_bind_ok (outcome_attempt _ h), hr]
  dsimp only
  rw [hf]
  rfl

variable (title url document timeout)

/-- The posts to targets, in turn: to all of them, unless something fails that is no request. -/
theorem postEach_inTurn (targets : List Value) (h : Hub α) : ∃ attempts h₁,
    InTurn (fun t => post (url t) (document t) timeout) (postWarning title) attempts h h₁ ∧
    (∀ a ∈ attempts, ByRequest a.2) ∧
    ((Assoc.keys attempts = targets ∧
        outcome (postEach title url document timeout targets) h = (.ok (failuresOf attempts), h₁)) ∨
      ∃ target rest fault h₂, targets = Assoc.keys attempts ++ target :: rest ∧
        outcome (post (url target) (document target) timeout) h₁ = (.error fault, h₂) ∧
        fault.isA requestFault = false ∧
        outcome (postEach title url document timeout targets) h = (.error fault, h₂)) := by
  induction targets generalizing h with
  | nil => exact ⟨[], h, .none h, nofun, .inl ⟨rfl, rfl⟩⟩
  | cons target rest ih =>
    generalize hr : outcome (post (url target) (document target) timeout) h = run
    obtain ⟨r, h₁⟩ := run
    by_cases hb : ByRequest r
    · obtain ⟨attempts, h₂, hturn, hall, hends⟩ := ih (h₁.warned (postWarning title target) r)
      have hpost : outcome (postEach title url document timeout (target :: rest)) h = _ :=
        outcome_postEach_posted hb hr
      refine ⟨(target, r) :: attempts, h₂, .one hr hturn, List.forall_mem_cons.2 ⟨hb, hall⟩, ?_⟩
      obtain ⟨rfl, hout⟩ | ⟨other, later, fault, h₃, rfl, hran, hf, hout⟩ := hends
      · refine .inl ⟨rfl, ?_⟩
        rw [hpost, outcome_bind_ok hout, outcome_pure, failuresOf, failuresOf, failuresOf, Assoc.keys,
          Assoc.keys, Assoc.keys, ← List.map_append, ← List.filter_append]
        rfl
      · exact .inr ⟨other, later, fault, h₃, rfl, hran, hf, hpost.trans (outcome_bind_error hout)⟩
    · obtain ⟨fault, hfails⟩ := not_forall.1 hb
      obtain ⟨rfl, hf⟩ := Classical.not_imp.1 hfails
      have hf : fault.isA requestFault = false := Bool.eq_false_iff.2 hf
      exact ⟨[], h, .none h, nofun, .inr ⟨target, rest, fault, h₁, rfl, hr, hf, outcome_postEach_stopped hf hr⟩⟩

/-- Where only requests fail, a document is posted to every target in turn. -/
theorem postEach_all (targets : List Value) {h : Hub α} (ho : h.outside.FailsByRequest) :
    ∃ attempts h₁, Assoc.keys attempts = targets ∧
      InTurn (fun t => post (url t) (document t) timeout) (postWarning title) attempts h h₁ ∧
      (∀ a ∈ attempts, ByRequest a.2) ∧
      outcome (postEach title url document timeout targets) h = (.ok (failuresOf attempts), h₁) := by
  have hF : (Frame.ofPart fun h : Hub α => h.outside).OpenToTraces :=
    ⟨fun _ _ => rfl, fun _ _ => rfl, fun _ _ => rfl, fun _ _ => rfl⟩
  obtain ⟨attempts, h₁, hturn, hby, ⟨hkeys, hout⟩ | ⟨target, rest, fault, h₂, -, hran, hf, -⟩⟩ :=
    postEach_inTurn title url document timeout targets h
  · exact ⟨attempts, h₁, hkeys, hturn, hby, hout⟩
  · have houtside : h₁.outside = h.outside := hturn.allows hF fun t => within_post hF _ _ _
    have ho₁ : h₁.outside.FailsByRequest := houtside ▸ ho
    rw [ho₁.post hran fault rfl] at hf
    cases hf

end Posts

theorem hub_failIfAll (title : String) (targets failures : List Value) (h : Hub α) :
    (outcome (failIfAll title targets failures) h).2 = h := by
  unfold failIfAll
  split
  · rw [outcome_bind, outcome_ofExcept]
    cases joinTexts 0 failures <;> rfl
  · rfl

/-- When all of them failed, and only then, that is a fault. -/
theorem failIfAll_isOk (title : String) (attempts : List (Value × Except Fault Unit)) (h : Hub α) :
    (outcome (failIfAll title (Assoc.keys attempts) (failuresOf attempts)) h).1.isOk = false ↔
      ∀ a ∈ attempts, a.2.isOk = false := by
  rw [← length_failuresOf]
  unfold failIfAll
  split
  · rename_i hall
    refine iff_of_true ?_ (by simpa using hall)
    rw [outcome_bind, outcome_ofExcept]
    cases joinTexts 0 (failuresOf attempts) <;> rfl
  · rename_i hall
    exact iff_of_false nofun (by simpa using hall)

end EventHub
