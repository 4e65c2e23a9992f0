import EventHub.Proofs.Bus.Account
import Mathlib.Data.List.Induction

/-!
# Subscriptions that stand

The calls of a bus that is not started, in any order: clients subscribe to topics and to the events that
patterns select, subscriptions are ended, and notices and events are published. A subscription stands from
the call that makes it to the first that ends it.

* **Calls** (`BusCall`): what they answer and enter into the account (`BusCall.Answered`).
* **Subscriptions** (`Stands`): those that calls have made and not ended, told from the calls alone.
* `BusCall.tells_standing`: after any calls the bus has the subscriptions that stand, oldest first, and the
  next call answers and enters what it should.
-/

namespace EventHub

open EventHub.Task

variable {σ : Type}

/-! ## Calls -/

/-- A call of the bus. What cannot be called is no client, and what selects nothing is no pattern. -/
inductive BusCall
  | subscribe (topic : String) (client : Option Nat)
  | subscribeEvents (pattern : Option EventPattern) (client : Option Nat)
  | unsubscribe (id : Nat)
  | publish (topic : String) (n : Notice)
  | publishEvent (raw : Definition Event)

/-- What a call answers: the number of a subscription, whether one was in force, how many took a notice, or
the event that was published. -/
inductive BusAnswer
  | subscribed (id : Nat)
  | ended (inForce : Bool)
  | taken (count : Nat)
  | published (e : Event)

namespace BusCall

/-- Makes the call. -/
def run (host : Host (Ledger σ)) : BusCall → Task (Ledger σ) BusAnswer
  | subscribe topic client => do
    return .subscribed (← EventHub.subscribe topic (client.map .client))
  | subscribeEvents pattern client => do
    return .subscribed (← EventHub.subscribeEvents pattern (client.map .client))
  | unsubscribe id => do return .ended (← EventHub.unsubscribe id)
  | publish topic n => do return .taken (← publishEntered host topic n)
  | publishEvent raw => do return .published (← publishEventEntered host raw)

/-- The subscription that the call makes. -/
def makes : BusCall → Option (Channel × Subscriber)
  | subscribe topic (some client) => some (.topic topic, .client client)
  | subscribeEvents (some pattern) (some client) => some (.events pattern, .client client)
  | _ => none

/-- Does the call end the subscription of the number? -/
def ends (id : Nat) : BusCall → Bool
  | unsubscribe ended => ended == id
  | _ => false

/-- The call answers what it should and enters what it should, given the subscriptions and the schema
before. A subscription gets the next number, and ending one tells whether it was in force; neither is
entered. A publication is entered with the calls that it led to, and answers how many returned. -/
def Answered (ask : String → Value → Except Fault Value) (s : Subscriptions) (schema : Schema) :
    BusCall → Except Fault BusAnswer → List Entry → Prop
  | subscribe _ client, r, news => news = [] ∧ r = match client with
    | some _ => .ok (.subscribed s.next)
    | none => .error (.type .uncallableHandler)
  | subscribeEvents pattern client, r, news => news = [] ∧ r = match client, pattern with
    | some _, some _ => .ok (.subscribed s.next)
    | some _, none => .error (.type .badPattern)
    | none, _ => .error (.type .uncallableHandler)
  | unsubscribe id, r, news => news = [] ∧ r = .ok (.ended (s.entries.any fun x => x.id == id))
  | publish topic n, r, news => ∃ calls taken, news = [.publication topic n calls taken] ∧
      r = .ok (.taken taken) ∧ (Entry.publication topic n calls taken).Lawful ask s receptionDepth
  | publishEvent _, r, news => ∃ result calls, news = [.event schema result calls] ∧
      r = result.map .published ∧ (Entry.event schema result calls).Lawful ask s receptionDepth

end BusCall

/-! ## Subscriptions -/

/-- The number of subscriptions that the calls make. -/
def made (calls : List BusCall) : Nat := calls.countP fun c => c.makes.isSome

/-- The subscription was made by one of the calls, numbered in the order in which they are made, and none
of the later calls ends it. -/
def Stands (calls : List BusCall) (x : Subscription) : Prop :=
  ∃ before c later, calls = before ++ c :: later ∧ c.makes = some (x.channel, x.subscriber) ∧
    x.id = made before + 1 ∧ ∀ d ∈ later, d.ends x.id = false

theorem stands_concat {calls : List BusCall} {c : BusCall} {x : Subscription} :
    Stands (calls ++ [c]) x ↔ Stands calls x ∧ c.ends x.id = false ∨
      c.makes = some (x.channel, x.subscriber) ∧ x.id = made calls + 1 := by
  constructor
  · rintro ⟨before, d, later, hcalls, hmakes, hid, hlater⟩
    obtain rfl | ⟨later, last, rfl⟩ := List.eq_nil_or_concat later
    · obtain ⟨rfl, hd⟩ := List.append_inj' hcalls rfl
      cases hd
      exact .inr ⟨hmakes, hid⟩
    · rw [List.concat_eq_append, ← List.cons_append, ← List.append_assoc] at hcalls
      obtain ⟨rfl, hlast⟩ := List.append_inj' hcalls rfl
      cases hlast
      exact .inl ⟨⟨before, d, later, rfl, hmakes, hid, fun e he => hlater e (by simp [he])⟩,
        hlater c (by simp)⟩
  · rintro (⟨⟨before, d, later, rfl, hmakes, hid, hlater⟩, hc⟩ | ⟨hmakes, hid⟩)
    · refine ⟨before, d, later ++ [c], by simp, hmakes, hid, fun e he => ?_⟩
      obtain he | rfl := by simpa using he
      · exact hlater e he
      · exact hc
    · exact ⟨calls, c, [], rfl, hmakes, hid, by simp⟩

/-- The subscriptions of a bus after the calls: those that stand, in the order in which they were made. -/
structure Subscriptions.After (calls : List BusCall) (s : Subscriptions) : Prop where
  stand : ∀ x, x ∈ s.entries ↔ Stands calls x
  inOrder : s.entries.Pairwise fun x y => x.id < y.id
  next : s.next = made calls + 1

namespace Subscriptions.After

variable {calls : List BusCall} {s : Subscriptions} {c : BusCall}

theorem nil : After [] .none where
  stand x := by simp [Subscriptions.none, Stands]
  inOrder := .nil
  next := rfl

/-- What stands was made before. -/
theorem lt_next (hs : s.After calls) {x : Subscription} (hx : x ∈ s.entries) : x.id < s.next := by
  obtain ⟨before, c, later, rfl, hmakes, hid, -⟩ := (hs.stand x).1 hx
  rw [hs.next, hid, made, made, List.countP_append, List.countP_cons, hmakes]
  simp

theorem add (hs : s.After calls) {channel : Channel} {subscriber : Subscriber}
    (hc : c.makes = some (channel, subscriber)) : (s.add channel subscriber).2.After (calls ++ [c]) := by
  have hends (id : Nat) : c.ends id = false := by
    cases c <;> first | rfl | cases hc
  refine ⟨fun x => ?_, ?_, ?_⟩
  · rw [stands_concat, ← hs.stand, hc, ← hs.next]
    obtain ⟨id, xchannel, xsubscriber⟩ := x
    simp [Subscriptions.add, hends, and_comm, eq_comm]
  · exact List.pairwise_append.2 ⟨hs.inOrder, List.pairwise_singleton _ _, fun x hx y hy => by
      obtain rfl := List.mem_singleton.1 hy
      exact hs.lt_next hx⟩
  · rw [made, List.countP_append, ← made, Subscriptions.add, hs.next]
    simp [hc]

theorem remove (hs : s.After calls) (id : Nat) :
    (s.remove id).2.After (calls ++ [.unsubscribe id]) where
  stand x := by
    rw [stands_concat, ← hs.stand]
    simp only [Subscriptions.remove, BusCall.ends, BusCall.makes, List.mem_filter, reduceCtorEq,
      false_and, or_false]
    exact and_congr_right fun _ => by rw [bne_iff_ne, beq_eq_false_iff_ne, ne_comm]
  inOrder := hs.inOrder.filter _
  next := by
    rw [made, List.countP_append, ← made]
    exact hs.next

theorem other (hs : s.After calls) (hm : c.makes = .none) (he : ∀ id, c.ends id = false) :
    s.After (calls ++ [c]) where
  stand x := by
    rw [stands_concat, ← hs.stand]
    simp [hm, he]
  inOrder := hs.inOrder
  next := by
    rw [made, List.countP_append, ← made, hs.next]
    simp [hm]

end Subscriptions.After

/-! ## Runs -/

/-- A bus that nobody has used: it is in order, not started, and has no subscriptions. -/
structure Hub.Unused (h : Hub (Ledger σ)) : Prop where
  inOrder : h.outages = []
  inline : h.bus.running = false
  subscriptions : h.bus.subscriptions = .none

/-- The hub after the calls, whatever they answer. -/
def Clients.after (c : Clients σ) (calls : List BusCall) (h : Hub (Ledger σ)) : Hub (Ledger σ) :=
  calls.foldl (fun h call => (outcome (call.run c.application.host) h).2) h

/-- The bus was used by the calls: it can be called, and has the subscriptions that stand. -/
structure Hub.Used (calls : List BusCall) (h : Hub (Ledger σ)) : Prop where
  callable : h.Callable h.bus.subscriptions
  table : h.bus.subscriptions.After calls

/-- A call answers and enters what it should, and makes and ends the subscriptions that it should. -/
theorem Hub.Used.call {h : Hub (Ledger σ)} {calls : List BusCall} (hu : h.Used calls) (c : Clients σ)
    (call : BusCall) : ∃ r h' news, outcome (call.run c.application.host) h = (r, h') ∧
      h'.host.entries = h.host.entries ++ news ∧
      call.Answered c.ask h.bus.subscriptions h.bus.schema r news ∧ h'.Used (calls ++ [call]) := by
  have hears : Clients.Hears c.ask h.bus.subscriptions receptionDepth c.application.host.receive :=
    c.reception h.bus.subscriptions receptionDepth
  -- What is entered leaves the table of subscriptions, so a call that makes and ends none keeps it.
  have hkept {call : BusCall} {h' : Hub (Ledger σ)} {news : List Entry} (he : h.Enters h' news)
      (hm : call.makes = none) (hends : ∀ id, call.ends id = false) : h'.Used (calls ++ [call]) :=
    ⟨by rw [he.subscriptions]; exact hu.callable.enters he,
      by rw [he.subscriptions]; exact hu.table.other hm hends⟩
  have hnothing := Hub.Enters.nothing (h := h) rfl rfl rfl rfl
  -- A subscription that is made is one of a client, and goes to the end of the table.
  have hadd (channel : Channel) (k : Nat) (hm : call.makes = some (channel, .client k)) :
      Hub.Used (calls ++ [call]) { h with bus := { h.bus with
        subscriptions := (h.bus.subscriptions.add channel (.client k)).2 } } := by
    refine ⟨⟨hu.callable.inOrder, hu.callable.inline, rfl, fun e he => ?_⟩, hu.table.add hm⟩
    obtain he | rfl : e ∈ h.bus.subscriptions.entries ∨ e = ⟨h.bus.subscriptions.next, channel, .client k⟩ := by
      simpa [Subscriptions.add] using he
    · exact hu.callable.clients e he
    · exact ⟨k, rfl⟩
  cases call with
  | subscribe topic client =>
    cases client with
    | none => exact ⟨_, h, [], rfl, by simp, ⟨rfl, rfl⟩, hkept hnothing rfl fun _ => rfl⟩
    | some k => exact ⟨_, _, [], rfl, by simp, ⟨rfl, rfl⟩, hadd _ k rfl⟩
  | subscribeEvents pattern client =>
    cases client with
    | none =>
      exact ⟨_, h, [], rfl, by simp, ⟨rfl, rfl⟩, hkept hnothing (by cases pattern <;> rfl) fun _ => rfl⟩
    | some k =>
      cases pattern with
      | none => exact ⟨_, h, [], rfl, by simp, ⟨rfl, rfl⟩, hkept hnothing rfl fun _ => rfl⟩
      | some p => exact ⟨_, _, [], rfl, by simp, ⟨rfl, rfl⟩, hadd _ k rfl⟩
  | unsubscribe id =>
    refine ⟨_, _, [], rfl, by simp, ⟨rfl, rfl⟩, ?_, hu.table.remove id⟩
    exact ⟨hu.callable.inOrder, hu.callable.inline, rfl, fun e he =>
      hu.callable.clients e (List.mem_filter.1 he).1⟩
  -- The last two calls reach clients, which may call the bus in turn: see `Clients.publishEntered_lawful`.
  | publish topic n =>
    obtain ⟨taken, h', told, hrun, henters, hlawful⟩ :=
      Clients.publishEntered_lawful hears topic n hu.callable
    exact ⟨_, h', _, outcome_bind_ok hrun, henters.entries, ⟨told, taken, rfl, rfl, hlawful⟩,
      hkept henters rfl fun _ => rfl⟩
  | publishEvent raw =>
    obtain ⟨r, h', told, hrun, henters, hlawful⟩ :=
      Clients.publishEventEntered_lawful hears rfl raw hu.callable
    refine ⟨r.map .published, h', _, ?_, henters.entries, ⟨r, told, rfl, rfl, hlawful⟩,
      hkept henters rfl fun _ => rfl⟩
    rw [BusCall.run, outcome_bind, hrun]
    cases r <;> rfl

theorem Hub.Unused.used {h : Hub (Ledger σ)} (hh : h.Unused) : h.Used [] where
  callable := ⟨hh.inOrder, hh.inline, rfl, by simp [hh.subscriptions, Subscriptions.none]⟩
  table := by rw [hh.subscriptions]; exact .nil

theorem Hub.Unused.after {h : Hub (Ledger σ)} (hh : h.Unused) (c : Clients σ) (calls : List BusCall) :
    (c.after calls h).Used calls := by
  induction calls using List.reverseRecOn with
  | nil => exact hh.used
  | append_singleton calls call ih =>
    obtain ⟨r, h', news, hrun, -, -, hused⟩ := ih.call c call
    rw [Clients.after, List.foldl_append, List.foldl_cons, List.foldl_nil, ← Clients.after, hrun]
    exact hused

/-- Whatever calls a bus has had, and whatever its clients do and raise, as long as they do not change the
subscriptions: its subscriptions are those that were made and not ended since, in the order in which they
were made, each under a number of its own, and they are all that it counts. The next call answers and enters
what it should: a publication is told once to each of those whose subscription to the topic stands, or whose
pattern selects the event, and to nobody else, in the order of the subscriptions, whoever raises; it answers
the number of those who did not raise; and a subscription is found in force by the first call that ends it
and by no later one. -/
theorem BusCall.tells_standing (c : Clients σ) {h₀ : Hub (Ledger σ)} (unused : h₀.Unused)
    (calls : List BusCall) (next : BusCall) :
    let h := c.after calls h₀
    (∀ x, x ∈ h.bus.subscriptions.entries ↔ Stands calls x) ∧
    h.bus.subscriptions.entries.Pairwise (fun x y => x.id < y.id) ∧
    h.bus.subscriptions.next = made calls + 1 ∧
    h.bus.subscriptions.count none = h.bus.subscriptions.entries.length ∧
    ∃ r h' news, outcome (next.run c.application.host) h = (r, h') ∧
      h'.host.entries = h.host.entries ++ news ∧
      next.Answered c.ask h.bus.subscriptions h.bus.schema r news := by
  intro h
  have hused := unused.after c calls
  obtain ⟨r, h', news, hrun, hentries, hanswered, -⟩ := hused.call c next
  exact ⟨hused.table.stand, hused.table.inOrder, hused.table.next, rfl, r, h', news, hrun, hentries,
    hanswered⟩

/-- Three clients: one that returns, one that raises, and one that publishes what it is told further on. -/
def Clients.mixed : Clients Unit where
  ask _ _ := .error (.raised .runtime "no")
  act _ _ v _ := return ⟨.null, v, none⟩
  conduct
    | 0, _ => .done
    | 1, _ => .fail (.raised .runtime "no")
    | _, n => .publish "further" n fun _ => .done

/-- The three subscribe to a topic, the first of them once more where the last publishes, and by a function
that raises. Then the first ends its first subscription, twice. -/
def mixedCalls : List BusCall :=
  [.subscribe "news" (some 0), .subscribe "news" (some 1), .subscribe "news" (some 2),
    .subscribe "further" (some 0), .subscribeEvents (some (.function "f")) (some 0), .unsubscribe 1,
    .unsubscribe 1]

/-- The second and the third client are told, and the third takes the notice. -/
theorem BusCall.tells_standing_mixed :
    let h := Clients.mixed.after mixedCalls (Hub.atMidnight ⟨(), []⟩)
    ∃ h' calls, outcome ((BusCall.publish "news" (.value .null)).run Clients.mixed.application.host) h =
        (.ok (.taken 1), h') ∧ h'.host.entries = [.publication "news" (.value .null) calls 1] ∧
      calls.map Entry.told = [some (.client 1, .value .null), some (.client 2, .value .null)] := by
  intro h
  have hunused : (Hub.atMidnight (⟨(), []⟩ : Ledger Unit)).Unused := ⟨rfl, rfl, rfl⟩
  obtain ⟨-, -, -, -, r, h', news, hrun, hentries, calls, taken, rfl, rfl, hlawful⟩ :=
    BusCall.tells_standing Clients.mixed hunused mixedCalls (.publish "news" (.value .null))
  have htaken : (outcome ((BusCall.publish "news" (.value .null)).run Clients.mixed.application.host) h).1 =
      .ok (.taken 1) := by rfl
  rw [hrun] at htaken
  cases htaken
  cases hlawful with
  | publication told each count => exact ⟨h', calls, hrun, hentries, told⟩

end EventHub
