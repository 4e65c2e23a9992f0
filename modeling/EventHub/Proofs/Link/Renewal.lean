import EventHub.Link.Client
import EventHub.Proofs.Assoc
import EventHub.Proofs.Frame.Receive

/-!
# Renewal of subscriptions

What a link asks the network for when a connection stands: the topics it was ever asked to subscribe to.

* **Calls** (`LinkCall`, `runLink`, `requestsOf`): the life of a link, and the subscriptions that were asked
  for, each with whether the call returned.
* **Steps** (`remembers_call`): a link remembers every request and nothing else, by one lemma for each call.
* **Connections** (`outcome_linkUp`, `outcome_connectLink`): a connection asks for what is remembered.
* `runLink_renews`: both together, and what it means for a topic whose latest request returned.
* `renews_refused`: a request that failed is renewed as well.
-/

namespace EventHub

open EventHub.Task

variable {α : Type} {h h' : Hub α} {l : Link}

/-! ## Calls -/

/-- What happens to a link: the network behaves otherwise from now on, reports a connection or that there
is none, or loses it, and the program connects, subscribes or stops. -/
inductive LinkCall
  | network (n : Network)
  | up (reason : Option String)
  | down (reason : String)
  | connect
  | subscribe (topic : String) (qos : Int)
  | stop

/-- The task of a call. -/
def LinkCall.task : LinkCall → Task α Unit
  | network n => modifyLink fun l => { l with network := n }
  | up reason => linkUp reason
  | down reason => linkDown reason
  | connect => discard connectLink
  | subscribe topic qos => discard (subscribeOnLink topic qos)
  | stop => stopLink

/-- The hub after calls. -/
def runLink (calls : List LinkCall) (h : Hub α) : Hub α :=
  calls.foldl (fun h c => (outcome c.task h).2) h

/-- A subscription that was asked for, and whether the call returned. -/
structure LinkRequest where
  topic : String
  qos : Int
  returned : Bool

/-- The request that a call makes. -/
def LinkCall.request (c : LinkCall) (h : Hub α) : List LinkRequest :=
  match c with
  | subscribe topic qos => [⟨topic, qos, (outcome (subscribeOnLink topic qos) h).1.isOk⟩]
  | _ => []

/-- The requests that calls make, in order. -/
def requestsOf : List LinkCall → Hub α → List LinkRequest
  | [], _ => []
  | c :: rest, h => c.request h ++ requestsOf rest (outcome c.task h).2

/-- The topic and the quality of a request. -/
def LinkRequest.entry (r : LinkRequest) : String × Int := (r.topic, r.qos)

/-! ## Steps -/

/-- The hub has a link that remembers these subscriptions. -/
def Hub.Remembers (h : Hub α) (subscriptions : List (String × Int)) : Prop :=
  h.link.map (·.subscriptions) = some subscriptions

/-- The frame in which a link remembers what it did. -/
def Frame.remembering : Frame α := .ofPart fun h => h.link.map (·.subscriptions)

theorem Frame.remembering_free : (Frame.remembering : Frame α).Free where
  log _ _ := rfl
  effects _ _ := rfl
  serial _ _ := rfl
  cache _ _ := rfl
  deskCounters _ _ _ _ _ := rfl
  engineCounters _ _ _ _ _ := rfl

theorem Hub.Remembers.of_link {subscriptions : List (String × Int)} (hr : h.Remembers subscriptions) :
    ∃ l, h.link = some l ∧ l.subscriptions = subscriptions := by
  unfold Hub.Remembers at hr
  exact Option.map_eq_some_iff.1 hr

theorem outcome_getLink (hl : h.link = some l) : outcome getLink h = (.ok l, h) := by
  unfold getLink
  rw [outcome_bind_ok (outcome_get h), hl]
  rfl

theorem within_getLink {F : Frame α} : Within F getLink := by
  unfold getLink
  refine Within.bind Within.get fun h => ?_
  split
  · exact Within.pure _
  · exact Within.throw _

/-- A change of another part of the link. -/
theorem within_modifyLink {f : Link → Link} (hf : ∀ l, (f l).subscriptions = l.subscriptions) :
    Within .remembering (modifyLink f : Task α Unit) := Within.change fun h => by
  show (h.link.map f).map (·.subscriptions) = _
  rw [Option.map_map]
  exact congrArg (Option.map · h.link) (funext hf)

theorem within_nextMessage : Within .remembering (nextMessage : Task α Nat) :=
  Within.bind (within_modifyLink fun _ => rfl) fun _ =>
    Within.bind within_getLink fun _ => Within.pure _

section Remembering

variable (hfree : (Frame.remembering : Frame α).Free)
include hfree

theorem within_renew (entries : List (String × Int)) : Within .remembering (renew entries : Task α Unit) := by
  induction entries with
  | nil => exact Within.pure _
  | cons e rest ih =>
    exact Within.bind (within_nextMessage) fun _ => Within.bind (Within.record hfree _) fun _ => ih

theorem within_linkUp (reason : Option String) : Within .remembering (linkUp reason : Task α Unit) := by
  refine Within.bind within_getLink fun l => ?_
  cases reason with
  | some reason => exact Within.log hfree _ _ _
  | none =>
    exact Within.bind (Within.log hfree _ _ _) fun _ =>
      Within.bind (within_modifyLink fun _ => rfl) fun _ => within_renew hfree _

theorem within_reconnect (failures : Nat) : Within .remembering (reconnect failures : Task α Unit) := by
  induction failures with
  | zero => exact Within.bind (Within.log hfree _ _ _) fun _ => Within.record hfree _
  | succ failures ih =>
    refine Within.bind (Within.log hfree _ _ _) fun _ => Within.bind (Within.record hfree _) fun _ => ?_
    exact Within.bind (Within.log hfree _ _ _) fun _ => Within.bind (Within.record hfree _) fun _ => ih

theorem within_linkDown (reason : String) : Within .remembering (linkDown reason : Task α Unit) := by
  refine Within.bind (Within.log hfree _ _ _) fun _ => Within.bind (within_modifyLink fun _ => rfl) fun _ => ?_
  refine Within.bind within_getLink fun l => ?_
  split
  · exact Within.bind (within_modifyLink fun _ => rfl) fun _ => within_reconnect hfree _
  · exact Within.pure _

theorem within_connectLink : Within .remembering (connectLink : Task α Bool) := by
  have hup := within_linkUp hfree none
  have hrecord (e : Effect) := Within.record hfree.openToActions.openToTraces e
  have hlog (text : String) := Within.log hfree.openToActions.openToTraces .warning linkPart text
  unfold connectLink
  refine Within.bind within_getLink fun l => Within.bind (hrecord _) fun _ => ?_
  have hrest : Within .remembering (do
      if (← getLink (α := α)).connected then return true
      Task.log .warning linkPart "MQTT connection timeout; continuing anyway"
      return false) := by
    refine Within.bind within_getLink fun l => ?_
    grind
  grind

theorem within_stopLink : Within .remembering (stopLink : Task α Unit) := by
  refine Within.bind (within_modifyLink fun _ => rfl) fun _ => Within.bind within_getLink fun l => ?_
  refine Within.bind (Within.record hfree _) fun _ => Within.bind (Within.record hfree _) fun _ => ?_
  split
  · exact Within.throw _
  · exact Within.pure _

end Remembering

/-- A request is remembered before the network answers. -/
theorem remembers_subscribe {subscriptions : List (String × Int)} (hr : h.Remembers subscriptions)
    (topic : String) (qos : Int) :
    (outcome (subscribeOnLink topic qos) h).2.Remembers (Assoc.put subscriptions topic qos) := by
  have hfree : (Frame.remembering : Frame α).Free := Frame.remembering_free
  obtain ⟨l, hl, rfl⟩ := hr.of_link
  let h₁ : Hub α := { h with
    link := some { l with subscriptions := Assoc.put l.subscriptions topic qos } }
  have hput : outcome (modifyLink fun l => { l with subscriptions := Assoc.put l.subscriptions topic qos }) h =
      (.ok (), h₁) := by
    unfold modifyLink
    rw [outcome_modify, hl]
    rfl
  unfold subscribeOnLink
  rw [outcome_bind_ok hput]
  -- The topic is put down before the network is asked, so it is remembered whatever the answer.
  have hrest : Within .remembering (do
      let code := (← getLink (α := α)).network.returnCode
      let id ← nextMessage
      Task.record (.linkSubscribed topic qos)
      if code != 0 && code != notConnected then
        throw (.raised .runtime s!"MQTT subscribe to {topic} failed: {returnText code}")
      Task.log .info linkPart s!"Subscribed to MQTT topic {topic} qos={qos}"
      return Value.map [("topic", .text topic), ("qos", .int qos), ("mid", .int id),
        ("subscribed", .bool (code == 0))]) := by
    refine Within.bind within_getLink fun l => Within.bind (within_nextMessage) fun id => ?_
    refine Within.bind (Within.record hfree _) fun _ => ?_
    split
    · exact Within.bind (Within.throw _) fun _ => Within.bind (Within.log hfree _ _ _) fun _ => Within.pure _
    · exact Within.bind (Within.log hfree _ _ _) fun _ => Within.pure _
  exact hrest h₁

/-- One call: the request that it makes is remembered, and what was remembered stays. -/
theorem remembers_call {asked : List (String × Int)} (hr : h.Remembers (Assoc.ofList asked)) (c : LinkCall) :
    (outcome c.task h).2.Remembers (Assoc.ofList (asked ++ (c.request h).map (·.entry))) := by
  have hfree : (Frame.remembering : Frame α).Free := Frame.remembering_free
  have hkept (hw : Within .remembering (c.task : Task α Unit)) (hn : c.request h = []) :
      (outcome c.task h).2.Remembers (Assoc.ofList (asked ++ (c.request h).map (·.entry))) := by
    rw [hn, List.map_nil, List.append_nil]
    exact (hw h).trans hr
  cases c with
  | network n => exact hkept (within_modifyLink fun _ => rfl) rfl
  | up reason => exact hkept (within_linkUp hfree reason) rfl
  | down reason => exact hkept (within_linkDown hfree reason) rfl
  | connect => exact hkept (Within.discard (within_connectLink hfree)) rfl
  | stop => exact hkept (within_stopLink hfree) rfl
  | subscribe topic qos =>
    show (outcome (discard (subscribeOnLink topic qos)) h).2.Remembers
      (Assoc.ofList (asked ++ [(topic, qos)]))
    rw [hub_discard, Assoc.ofList_concat]
    exact remembers_subscribe hr topic qos

/-- A run: what is remembered is what was asked for. -/
theorem remembers_run (calls : List LinkCall) {asked : List (String × Int)}
    (hr : h.Remembers (Assoc.ofList asked)) :
    (runLink calls h).Remembers (Assoc.ofList (asked ++ (requestsOf calls h).map (·.entry))) := by
  induction calls generalizing h asked with
  | nil => rwa [requestsOf, List.map_nil, List.append_nil]
  | cons c rest ih =>
    have hall := ih (remembers_call hr c)
    rwa [List.append_assoc, ← List.map_append] at hall

/-! ## Connections -/

/-- The effects of asking for subscriptions, newest first. -/
def renewals (entries : List (String × Int)) : List Effect :=
  (entries.map fun e => .linkSubscribed e.1 e.2).reverse

theorem outcome_nextMessage (hl : h.link = some l) :
    outcome nextMessage h = (.ok (l.messages + 1),
      { h with link := some { l with messages := l.messages + 1 } }) := by
  have hcount : outcome (modifyLink fun l => { l with messages := l.messages + 1 }) h =
      (.ok (), { h with link := some { l with messages := l.messages + 1 } }) := by
    unfold modifyLink
    rw [outcome_modify, hl]
    rfl
  unfold nextMessage
  rw [outcome_bind_ok hcount, outcome_bind_ok (outcome_getLink rfl)]
  rfl

/-- Every entry is asked for once, in order. -/
theorem outcome_renew (entries : List (String × Int)) (hl : h.link = some l) :
    outcome (renew entries) h = (.ok (), { h with
      link := some { l with messages := l.messages + entries.length }
      effects := renewals entries ++ h.effects }) := by
  induction entries generalizing h l with
  | nil =>
    have hsame : { h with link := some { l with messages := l.messages + 0 } } = h := by rw [Nat.add_zero, ← hl]
    exact congrArg (Prod.mk (Except.ok ())) hsame.symm
  | cons e rest ih =>
    obtain ⟨topic, qos⟩ := e
    unfold renew
    have hrecord (h : Hub α) : outcome (Task.record (.linkSubscribed topic qos)) h =
      (.ok (), { h with effects := .linkSubscribed topic qos :: h.effects }) := rfl
    rw [outcome_bind_ok (outcome_nextMessage hl), outcome_bind_ok (hrecord _), ih rfl]
    simp [renewals, Nat.add_assoc, Nat.add_comm 1]

/-- The hub whose link has asked for every subscription that it remembers. -/
def Hub.renewed (h : Hub α) (l : Link) : Hub α := { h with
  link := some { l with connected := true, messages := l.messages + l.subscriptions.length }
  effects := renewals l.subscriptions ++ h.effects
  log := ⟨.info, linkPart, "Connected to MQTT broker " ++ l.settings.host.plain ++ ":" ++
    l.settings.port.plain⟩ :: h.log }

/-- A connection asks for every subscription that is remembered. -/
theorem outcome_linkUp (hl : h.link = some l) : outcome (linkUp none) h = (.ok (), h.renewed l) := by
  let text : String := "Connected to MQTT broker " ++ l.settings.host.plain ++ ":" ++ l.settings.port.plain
  let h₁ : Hub α := { h with log := ⟨.info, linkPart, text⟩ :: h.log }
  have hlogged : outcome (Task.log .info linkPart text) h = (.ok (), h₁) := rfl
  have hstands : outcome (modifyLink fun l => { l with connected := true }) h₁ =
      (.ok (), { h₁ with link := some { l with connected := true } }) := by
    unfold modifyLink
    rw [outcome_modify, show h₁.link = some l from hl]
    rfl
  unfold linkUp
  rw [outcome_bind_ok (outcome_getLink hl)]
  dsimp only
  rw [outcome_bind_ok hlogged, outcome_bind_ok hstands, outcome_renew (l := { l with connected := true }) _ rfl]
  rfl

/-- So does a connection that the program asks for, where the network acknowledges it. -/
theorem outcome_connectLink (hl : h.link = some l) (hrefuses : l.network.refuses = false)
    (hacknowledges : l.network.acknowledges = true) : ∃ h', outcome connectLink h = (.ok true, h') ∧
      h'.effects = renewals l.subscriptions ++
        .linkLoopStarted :: .linkConnected l.settings.host l.settings.port keepAlive :: h.effects := by
  let h₁ : Hub α := { h with
    effects := .linkConnected l.settings.host l.settings.port keepAlive :: h.effects }
  let h₂ : Hub α := { h₁ with effects := .linkLoopStarted :: h₁.effects }
  have hfirst : outcome (Task.record (.linkConnected l.settings.host l.settings.port keepAlive)) h =
    (.ok (), h₁) := rfl
  have hloop : outcome (Task.record .linkLoopStarted) h₁ = (.ok (), h₂) := rfl
  have hup : outcome (linkUp none) h₂ = (.ok (), h₂.renewed l) := outcome_linkUp hl
  refine ⟨h₂.renewed l, ?_, rfl⟩
  unfold connectLink
  rw [outcome_bind_ok (outcome_getLink hl), outcome_bind_ok hfirst]
  rw [hrefuses, hacknowledges, if_neg Bool.false_ne_true, if_pos rfl]
  rw [outcome_bind_ok hloop, outcome_bind_ok hup, outcome_bind_ok (outcome_getLink rfl)]
  rfl

/-- The quality of the latest request for a topic. -/
def latestQos (requests : List LinkRequest) (topic : String) : Option Int :=
  (requests.filter (·.topic == topic)).getLast?.map (·.qos)

theorem get?_entries_requests (requests : List LinkRequest) (topic : String) :
    Assoc.get? (Assoc.ofList (requests.map (·.entry))) topic = latestQos requests topic := by
  rw [Assoc.get?_ofList, List.filter_map, List.getLast?_map, Option.map_map]
  rfl

/-- The latest request of a topic, if it returned, is the latest of those that returned. -/
theorem latestQos_of_returned {requests : List LinkRequest} {topic : String}
    (hr : ∀ r ∈ (requests.filter (·.topic == topic)).getLast?, r.returned = true) :
    latestQos requests topic = latestQos (requests.filter (·.returned)) topic := by
  have hcomm : (requests.filter (·.returned)).filter (·.topic == topic) =
      (requests.filter (·.topic == topic)).filter (·.returned) := by
    simp only [List.filter_filter, Bool.and_comm]
  rw [latestQos, latestQos, hcomm]
  obtain hnone | ⟨before, r, hlast⟩ := List.eq_nil_or_concat (requests.filter (·.topic == topic))
  · rw [hnone]
    rfl
  · have hreturned : r.returned = true := hr r (by simp [hlast])
    simp [hlast, hreturned]

/-- Renewal. However a link was used, a connection that stands asks the network once for every topic that
the link was ever asked to subscribe to, with the quality of the latest request for it, and for no other
topic. So a topic whose latest request returned, or that none was made for, is renewed as the requests that
returned want it. -/
theorem runLink_renews (hl : h.link = some l) (hnone : l.subscriptions = []) (calls : List LinkCall) :
    let asked := requestsOf calls h
    let renewed := Assoc.ofList (asked.map (·.entry))
    let h' := runLink calls h
    (∃ l', h'.link = some l' ∧
      (∃ h'', outcome (linkUp none) h' = (.ok (), h'') ∧ h''.effects = renewals renewed ++ h'.effects) ∧
      (l'.network.refuses = false → l'.network.acknowledges = true →
        ∃ h'', outcome connectLink h' = (.ok true, h'') ∧ h''.effects = renewals renewed ++
          .linkLoopStarted :: .linkConnected l'.settings.host l'.settings.port keepAlive :: h'.effects)) ∧
    (Assoc.keys renewed).Nodup ∧
    ∀ topic, Assoc.get? renewed topic = latestQos asked topic ∧
      ((∀ r ∈ (asked.filter (·.topic == topic)).getLast?, r.returned = true) →
        Assoc.get? renewed topic = latestQos (asked.filter (·.returned)) topic) := by
  intro asked renewed h'
  have hblank : h.Remembers (Assoc.ofList []) := by
    unfold Hub.Remembers
    rw [hl, Option.map_some, hnone]
    rfl
  obtain ⟨l', hl', hsubscriptions⟩ := (remembers_run calls hblank).of_link
  rw [List.nil_append] at hsubscriptions
  refine ⟨⟨l', hl', ⟨h'.renewed l', outcome_linkUp hl', ?_⟩, fun hrefuses hacknowledges => ?_⟩,
    Assoc.nodup_ofList _, fun topic => ⟨get?_entries_requests _ _, fun hr => ?_⟩⟩
  · rw [Hub.renewed, hsubscriptions]
  · obtain ⟨h'', hrun, heffects⟩ := outcome_connectLink hl' hrefuses hacknowledges
    rw [hsubscriptions] at heffects
    exact ⟨h'', hrun, heffects⟩
  · rw [get?_entries_requests, latestQos_of_returned hr]

/-- A network that takes connections and answers subscriptions with the code. -/
def Network.answering (code : Int) : Network :=
  { refuses := false, acknowledges := true, disconnectFails := false, returnCode := code,
    reconnectFailures := 0 }

/-- A hub with a link to a network that is not connected. -/
def Hub.linked : Hub Unit :=
  (outcome (openLink .standard .null none (.answering notConnected)) (Hub.atMidnight ())).2

/-- Two topics are asked for, one of them again after the connection was lost. -/
def lostAndFound : List LinkCall :=
  [.subscribe "cameras" 1, .subscribe "doors" 0, .network (.answering 0), .up none, .down "lost",
    .subscribe "cameras" 2]

/-- Each of the two topics is asked for once when the connection is found again, the one with the quality
that it was last asked for with. -/
theorem runLink_renews_lostAndFound : ∃ h'', outcome (linkUp none) (runLink lostAndFound Hub.linked) =
    (.ok (), h'') ∧ h''.effects = renewals [("cameras", 2), ("doors", 0)] ++
      (runLink lostAndFound Hub.linked).effects := by
  obtain ⟨⟨_, -, hup, -⟩, -⟩ :=
    runLink_renews (show Hub.linked.link = some _ from rfl) rfl lostAndFound
  exact hup

/-- A request that the network refused is renewed: the call failed, no request returned, and the next
connection asks for the topic all the same. -/
theorem renews_refused :
    let calls : List LinkCall := [.network (.answering 3), .subscribe "bad" 0]
    (requestsOf calls Hub.linked).map (·.returned) = [false] ∧
    (outcome (linkUp none) (runLink calls Hub.linked)).2.effects =
      .linkSubscribed "bad" 0 :: (runLink calls Hub.linked).effects :=
  ⟨rfl, rfl⟩

end EventHub
