import EventHub.Proofs.Bus.Telling

/-!
# The account of a bus

Clients are programs that change a state of their own, see the bus, publish and raise. They do not change
subscriptions. Whatever is published is entered into an account, with the calls of clients that it led to,
and a call of a client with whatever the client published meanwhile.

* **Accounts** (`Entry`, `entered`): entries, and tasks that are entered with what they led to.
* **Clients** (`Conduct`, `Clients.application`): the programs, and the application that runs them.
* **The law** (`Entry.Lawful`): of whatever is published everyone who is subscribed is told once, in the
  order of the subscriptions, whoever raises. What is published deeper than the bus reaches nobody hears.
* **Calls** (`Clients.telling`, `Clients.dispatchEvent_answers`): everyone who is to be told is called.
* **Receptions** (`Clients.reception`): clients keep the law, by induction on the levels that are left and
  on the program.
-/

namespace EventHub

open EventHub.Task

variable {σ β : Type}

/-! ## Accounts -/

/-- What an account says: that a notice was published and how many took it, that an event was published
to a bus of a schema, and that a client was called. Each with what it led to. -/
inductive Entry
  | publication (topic : String) (notice : Notice) (calls : List Entry) (taken : Nat)
  | event (schema : Schema) (result : Except Fault Event) (calls : List Entry)
  | call (client : Nat) (notice : Notice) (inside : List Entry) (returned : Bool)

/-- Who was called, and with what. -/
def Entry.told : Entry → Option (Subscriber × Notice)
  | call client notice _ _ => some (.client client, notice)
  | _ => none

/-- Was the call one that returned? -/
def Entry.returned : Entry → Bool
  | call _ _ _ returned => returned
  | _ => false

/-- The state of the clients, and the account, oldest entries first. -/
structure Ledger (σ : Type) where
  state : σ
  entries : List Entry

/-- The hub with another account. -/
def Hub.withEntries (h : Hub (Ledger σ)) (entries : List Entry) : Hub (Ledger σ) :=
  { h with host := { h.host with entries } }

/-- Runs a task and enters it with what was entered meanwhile. -/
def entered (entry : Except Fault β → List Entry → Entry) (t : Task (Ledger σ) β) :
    Task (Ledger σ) β := do
  let before := (← get).host.entries
  modify fun h => h.withEntries []
  let r ← Task.attempt t
  modify fun h => h.withEntries (before ++ [entry r h.host.entries])
  Task.ofExcept r

theorem outcome_entered (entry : Except Fault β → List Entry → Entry) (t : Task (Ledger σ) β)
    (h : Hub (Ledger σ)) : outcome (entered entry t) h =
      let run := outcome t (h.withEntries [])
      (run.1, run.2.withEntries (h.host.entries ++ [entry run.1 run.2.host.entries])) := by
  unfold entered
  rw [outcome_bind_ok (outcome_get h), outcome_bind_ok (outcome_modify _ _),
    outcome_bind_ok (outcome_attempt _ _), outcome_bind_ok (outcome_modify _ _), outcome_ofExcept]

/-! ## Clients -/

/-- What a client does when it is called: nothing more, raise, change its state, publish a notice and go on
with the number of those that took it, or publish an event and go on with what became of it. A client sees
the bus and its state before it changes the state. -/
inductive Conduct (σ : Type)
  | done
  | fail (fault : Fault)
  | turn (change : Bus → σ → σ) (next : Bus → σ → Conduct σ)
  | publish (topic : String) (n : Notice) (next : Nat → Conduct σ)
  | publishEvent (raw : Definition Event) (next : Except Fault Event → Conduct σ)

/-- Publishes a notice and enters it. -/
def publishEntered (host : Host (Ledger σ)) (topic : String) (n : Notice) : Task (Ledger σ) Nat :=
  entered (fun r calls => .publication topic n calls (r.toOption.getD 0)) (publish host topic n)

/-- Publishes an event and enters it. -/
def publishEventEntered (host : Host (Ledger σ)) (raw : Definition Event) : Task (Ledger σ) Event := do
  let schema := (← get).bus.schema
  entered (.event schema) (publishEvent host raw)

/-- Does what the program says. -/
def Conduct.run (host : Host (Ledger σ)) : Conduct σ → Task (Ledger σ) Unit
  | done => return ()
  | fail fault => throw fault
  | turn change next => do
    let h ← get
    modify fun h => { h with host := { h.host with state := change h.bus h.host.state } }
    (next h.bus h.host.state).run host
  | publish topic n next => do
    let taken ← publishEntered host topic n
    (next taken).run host
  | publishEvent raw next => do
    let r ← Task.attempt (publishEventEntered host raw)
    (next r).run host

/-- The functions, the actions and the clients of an application. -/
structure Clients (σ : Type) where
  ask : String → Value → Except Fault Value
  act : Receive (Ledger σ) → String → Value → Context → Task (Ledger σ) Reply
  conduct : Nat → Notice → Conduct σ

/-- What a client publishes through, given how notices are received further on. -/
def Clients.hostOf (c : Clients σ) (receive : Receive (Ledger σ)) : Host (Ledger σ) :=
  ⟨⟨c.ask, c.act, fun _ _ _ => return ()⟩, receive⟩

/-- The application of the clients. Every call of one is entered. -/
def Clients.application (c : Clients σ) : Application (Ledger σ) where
  ask := c.ask
  act := c.act
  serve receive k n :=
    entered (fun r inside => .call k n inside r.isOk) ((c.conduct k n).run (c.hostOf receive))

theorem Clients.receive_client (c : Clients σ) (levels k : Nat) (n : Notice) :
    receive c.application (levels + 1) (.client k) n =
      entered (fun r inside => .call k n inside r.isOk)
        ((c.conduct k n).run (c.hostOf (receive c.application levels))) := rfl

/-! ## The law -/

/-- Who of those that are to be told is reached: everyone, unless no level is left. -/
def reached (levels : Nat) (told : List (Subscriber × Notice)) : List (Subscriber × Notice) :=
  if levels = 0 then [] else told

/-- The entry says what it should where so many levels are left: everyone who was to be told was called
once, in order, and nobody else, and those were counted that returned. A call leaves one level less. -/
inductive Entry.Lawful (ask : String → Value → Except Fault Value) (s : Subscriptions) :
    Nat → Entry → Prop
  | publication {levels taken : Nat} {topic : String} {n : Notice} {calls : List Entry}
    (told : calls.map Entry.told = (reached levels (s.toTell topic n)).map some)
    (each : ∀ c ∈ calls, Lawful ask s levels c) (count : taken = calls.countP Entry.returned) :
    Lawful ask s levels (.publication topic n calls taken)
  | event {levels : Nat} {schema : Schema} {e : Event} {calls : List Entry}
    (told : calls.map Entry.told = (reached levels (s.toTellOf ask schema e)).map some)
    (each : ∀ c ∈ calls, Lawful ask s levels c) : Lawful ask s levels (.event schema (.ok e) calls)
  | refused {levels : Nat} {schema : Schema} (fault : Fault) :
    Lawful ask s levels (.event schema (.error fault) [])
  | call {levels client : Nat} {n : Notice} {inside : List Entry} (returned : Bool)
    (each : ∀ i ∈ inside, Lawful ask s levels i) :
    Lawful ask s (levels + 1) (.call client n inside returned)

/-! ## Calls -/

/-- Everyone can be called: a bus in order that is not started, all of whose subscribers are clients. -/
structure Hub.Callable (s : Subscriptions) (h : Hub (Ledger σ)) : Prop where
  inOrder : h.outages = []
  inline : h.bus.running = false
  subscriptions : h.bus.subscriptions = s
  clients : ∀ e ∈ s.entries, ∃ k, e.subscriber = .client k

/-- What the change leaves: the subscriptions, the mode of the bus, and the account but for what was
entered. -/
structure Hub.Enters (h h' : Hub (Ledger σ)) (news : List Entry) : Prop where
  outages : h'.outages = h.outages
  subscriptions : h'.bus.subscriptions = h.bus.subscriptions
  running : h'.bus.running = h.bus.running
  entries : h'.host.entries = h.host.entries ++ news

namespace Hub

variable {s : Subscriptions} {h h₁ h₂ : Hub (Ledger σ)} {news more : List Entry}

theorem Enters.nothing (ho : h₁.outages = h.outages)
    (hs : h₁.bus.subscriptions = h.bus.subscriptions) (hr : h₁.bus.running = h.bus.running)
    (he : h₁.host.entries = h.host.entries) : h.Enters h₁ [] :=
  ⟨ho, hs, hr, by rw [he, List.append_nil]⟩

theorem Enters.trans (h₀₁ : h.Enters h₁ news) (h₁₂ : h₁.Enters h₂ more) :
    h.Enters h₂ (news ++ more) where
  outages := h₁₂.outages.trans h₀₁.outages
  subscriptions := h₁₂.subscriptions.trans h₀₁.subscriptions
  running := h₁₂.running.trans h₀₁.running
  entries := by rw [h₁₂.entries, h₀₁.entries, List.append_assoc]

theorem Enters.log (h : Hub (Ledger σ)) (lines : List LogLine) :
    h.Enters { h with log := lines } [] := .nothing rfl rfl rfl rfl

theorem Callable.enters (hc : h.Callable s) (he : h.Enters h₁ news) : h₁.Callable s where
  inOrder := he.outages.trans hc.inOrder
  inline := he.running.trans hc.inline
  subscriptions := he.subscriptions.trans hc.subscriptions
  clients := hc.clients

theorem Callable.withEntries (hc : h.Callable s) (entries : List Entry) :
    (h.withEntries entries).Callable s := ⟨hc.inOrder, hc.inline, hc.subscriptions, hc.clients⟩

/-- What is entered within an entry. -/
theorem Enters.within (he : (h.withEntries []).Enters h₁ news) (entry : List Entry → Entry) :
    h.Enters (h₁.withEntries (h.host.entries ++ [entry h₁.host.entries])) [entry news] where
  outages := he.outages
  subscriptions := he.subscriptions
  running := he.running
  entries := by
    have hnews : h₁.host.entries = news := he.entries
    rw [hnews]
    rfl

end Hub

/-- The calls are those of everyone who is reached of those that are to be told, and they keep the law. -/
structure Answers (ask : String → Value → Except Fault Value) (s : Subscriptions) (levels : Nat)
    (told : List (Subscriber × Notice)) (calls : List Entry) : Prop where
  told : calls.map Entry.told = (reached levels told).map some
  each : ∀ c ∈ calls, c.Lawful ask s levels

namespace Answers

variable {ask : String → Value → Except Fault Value} {s : Subscriptions} {levels : Nat}
  {told more : List (Subscriber × Notice)} {calls later : List Entry}

theorem nobody : Answers ask s levels [] [] := ⟨by simp [reached], by simp⟩

theorem append (ha : Answers ask s levels told calls) (hb : Answers ask s levels more later) :
    Answers ask s levels (told ++ more) (calls ++ later) where
  told := by
    rw [List.map_append, ha.told, hb.told]
    unfold reached
    split <;> simp
  each c hc := (List.mem_append.1 hc).elim (ha.each c) (hb.each c)

end Answers

namespace Clients

variable {ask : String → Value → Except Fault Value} {s : Subscriptions} {levels : Nat}
  {host : Host (Ledger σ)} {h : Hub (Ledger σ)}

/-- A client that receives a notice is called if it is reached, and then takes the notice if it returns. -/
def Hears (ask : String → Value → Except Fault Value) (s : Subscriptions) (levels : Nat)
    (receive : Receive (Ledger σ)) : Prop :=
  ∀ k n (h : Hub (Ledger σ)), h.Callable s → ∃ r h' calls, outcome (receive (.client k) n) h = (r, h') ∧
    h.Enters h' calls ∧ Answers ask s levels [(.client k, n)] calls ∧
    calls.countP Entry.returned = if r.isOk then 1 else 0

section Hears

variable (hr : Hears ask s levels host.receive)
include hr

/-- A notice is delivered to one client after the other, whichever of them raise, and those are counted that
return. -/
theorem deliver_answers (topic : String) (n : Notice) {subscribers : List Subscriber}
    (hs : ∀ x ∈ subscribers, ∃ k, x = .client k) (hc : h.Callable s) : ∃ h' calls,
      outcome (deliver host topic n subscribers) h = (.ok (calls.countP Entry.returned), h') ∧
      h.Enters h' calls ∧ Answers ask s levels (subscribers.map fun x => (x, n)) calls := by
  induction subscribers generalizing h with
  | nil => exact ⟨h, [], rfl, .nothing rfl rfl rfl rfl, .nobody⟩
  | cons x rest ih =>
    obtain ⟨k, rfl⟩ := hs x List.mem_cons_self
    have hrest := fun y hy => hs y (List.mem_cons_of_mem _ hy)
    obtain ⟨r, h₁, calls, hrun, hfirst, hanswers, hcount⟩ := hr k n h hc
    have hc₁ := hc.enters hfirst
    rw [deliver, outcome_bind_ok (outcome_attempt _ h), hrun]
    cases r with
    | ok _ =>
      obtain ⟨h₂, later, hrun', hsecond, hanswers'⟩ := ih hrest hc₁
      refine ⟨h₂, calls ++ later, ?_, hfirst.trans hsecond, hanswers.append hanswers'⟩
      dsimp only
      rw [outcome_bind_ok hrun', List.countP_append, hcount, Nat.add_comm]
      rfl
    -- Who raises is logged and not counted, and those behind are called all the same.
    | error fault =>
      have hlog := Hub.Enters.log h₁
        (⟨.error, busPart, faultText "Subscriber failed" [("topic", .text topic)] fault.message⟩ :: h₁.log)
      obtain ⟨h₂, later, hrun', hsecond, hanswers'⟩ := ih hrest (hc₁.enters hlog)
      refine ⟨h₂, calls ++ later, ?_, hfirst.trans (hlog.trans hsecond), hanswers.append hanswers'⟩
      dsimp only
      rw [Task.logFault, outcome_bind_ok (outcome_log rfl _ _ _), hrun', List.countP_append, hcount]
      simp [Except.isOk, Except.toBool]

/-- A notice that is published under a topic is told to those subscribed to it. -/
theorem publish_answers (topic : String) (n : Notice) (hc : h.Callable s) : ∃ h' calls,
    outcome (publish host topic n) h = (.ok (calls.countP Entry.returned), h') ∧
      h.Enters h' calls ∧ Answers ask s levels (s.toTell topic n) calls := by
  rw [publish, outcome_bind_ok (outcome_get h), hc.subscriptions]
  refine deliver_answers hr topic n (fun x hx => ?_) hc
  obtain ⟨e, he, -, rfl⟩ := Subscriptions.mem_ofTopic.1 hx
  exact hc.clients e he

/-- Calls are entered as everyone is told who is to be told. -/
theorem telling (ha : host.app.ask = ask) (hs : ∀ e ∈ s.entries, ∃ k, e.subscriber = .client k) :
    Telling host s (Hub.Callable s) fun told h h' => h.Callable s →
      ∃ calls, h.Enters h' calls ∧ Answers host.app.ask s levels told calls where
  subscriptions hc := hc.subscriptions
  keeps hadds hc := by
    obtain ⟨calls, henters, -⟩ := hadds hc
    exact hc.enters henters
  log h lines _ := ⟨[], .log h lines, .nobody⟩
  trans hfirst hsecond hc := by
    obtain ⟨calls, henters, hanswers⟩ := hfirst hc
    obtain ⟨later, henters', hanswers'⟩ := hsecond (hc.enters henters)
    exact ⟨calls ++ later, henters.trans henters', hanswers.append hanswers'⟩
  each x hx n h hc := by
    obtain ⟨k, hk⟩ := hs x hx
    obtain ⟨r, h', calls, hrun, henters, hanswers, -⟩ := hr k n h hc
    rw [hk, hrun]
    exact ⟨calls, henters, ha ▸ hanswers⟩

/-- An event that is dispatched is told to everyone it is to be told to. -/
theorem dispatchEvent_answers (ha : host.app.ask = ask) (e : Event) (hc : h.Callable s) :
    ∃ h' calls, outcome (dispatchEvent host e) h = (.ok (), h') ∧ h.Enters h' calls ∧
      Answers ask s levels (s.toTellOf ask h.bus.schema e) calls := by
  have hobserved : h.Enters (h.observed e) [] := .nothing rfl rfl rfl rfl
  have hready := hc.enters hobserved
  obtain ⟨h', hrun, hadds⟩ := (telling hr ha hc.clients).dispatch hc.inOrder hready
  obtain ⟨calls, henters, hanswers⟩ := hadds hready
  exact ⟨h', calls, hrun, hobserved.trans henters, ha ▸ hanswers⟩

/-! ## Entries -/

/-- A notice that is published makes one lawful entry. -/
theorem publishEntered_lawful (topic : String) (n : Notice) (hc : h.Callable s) : ∃ taken h' calls,
    outcome (publishEntered host topic n) h = (.ok taken, h') ∧
      h.Enters h' [.publication topic n calls taken] ∧
      (Entry.publication topic n calls taken).Lawful ask s levels := by
  obtain ⟨h', calls, hrun, henters, hanswers⟩ := publish_answers hr topic n (hc.withEntries [])
  refine ⟨_, _, calls, ?_,
    henters.within fun inside => .publication topic n inside (calls.countP Entry.returned),
    .publication hanswers.told hanswers.each rfl⟩
  rw [publishEntered, outcome_entered, hrun]
  rfl

/-- An event that is published makes one lawful entry. -/
theorem publishEventEntered_lawful (ha : host.app.ask = ask) (raw : Definition Event)
    (hc : h.Callable s) : ∃ r h' calls, outcome (publishEventEntered host raw) h = (r, h') ∧
      h.Enters h' [.event h.bus.schema r calls] ∧
      (Entry.event h.bus.schema r calls).Lawful ask s levels := by
  let h₀ := h.withEntries []
  have hc₀ : h₀.Callable s := hc.withEntries []
  -- Making the event draws at most an id, and nobody hears of that.
  obtain ⟨serial, hserial⟩ := normalizeEvent_hub raw h₀
  have hnormal : h₀.Enters { h₀ with serial } [] := .nothing rfl rfl rfl rfl
  rw [publishEventEntered, outcome_bind_ok (outcome_get h), outcome_entered]
  cases hn : outcome (normalizeEvent raw) h₀ with
  | mk r h₁ =>
  obtain rfl : h₁ = { h₀ with serial } := by rw [← hserial, hn]
  cases r with
  | error fault =>
    have hrun : outcome (publishEvent host raw) h₀ = (.error fault, { h₀ with serial }) :=
      outcome_bind_error hn
    rw [hrun]
    exact ⟨_, _, [], rfl, hnormal.within (.event h.bus.schema (.error fault)), .refused fault⟩
  | ok e =>
    obtain ⟨h₂, calls, hdispatch, henters, hanswers⟩ := dispatchEvent_answers hr ha e (hc₀.enters hnormal)
    have hinline : ¬ h₀.bus.running = true := by rw [hc₀.inline]; exact Bool.false_ne_true
    have hrun : outcome (publishEvent host raw) h₀ = (.ok e, h₂) := by
      rw [publishEvent, outcome_bind_ok hn, outcome_bind_ok (outcome_get _), if_neg hinline,
        outcome_bind_ok hdispatch]
      rfl
    rw [hrun]
    exact ⟨_, _, calls, rfl, (hnormal.trans henters).within (.event h.bus.schema (.ok e)),
      .event hanswers.told hanswers.each⟩

/-- What a program does is entered lawfully. By induction on the program. -/
theorem conduct_lawful (ha : host.app.ask = ask) (program : Conduct σ) (hc : h.Callable s) :
    ∃ r h' news, outcome (program.run host) h = (r, h') ∧ h.Enters h' news ∧
      ∀ i ∈ news, i.Lawful ask s levels := by
  induction program generalizing h with
  | done => exact ⟨_, h, [], rfl, .nothing rfl rfl rfl rfl, by simp⟩
  | fail fault => exact ⟨_, h, [], rfl, .nothing rfl rfl rfl rfl, by simp⟩
  | turn change next ih =>
    have hturn : h.Enters { h with host := { h.host with state := change h.bus h.host.state } } [] :=
      .nothing rfl rfl rfl rfl
    obtain ⟨r, h₂, news, hrun, hsecond, hall⟩ := ih h.bus h.host.state (hc.enters hturn)
    exact ⟨r, h₂, news, hrun, hturn.trans hsecond, hall⟩
  | publish topic n next ih =>
    obtain ⟨taken, h₁, calls, hrun, hfirst, hlawful⟩ := publishEntered_lawful hr topic n hc
    obtain ⟨r, h₂, news, hrun', hsecond, hall⟩ := ih taken (hc.enters hfirst)
    refine ⟨r, h₂, _ :: news, ?_, hfirst.trans hsecond, ?_⟩
    · rw [Conduct.run, outcome_bind_ok hrun, hrun']
    · exact List.forall_mem_cons.2 ⟨hlawful, hall⟩
  | publishEvent raw next ih =>
    obtain ⟨result, h₁, calls, hrun, hfirst, hlawful⟩ := publishEventEntered_lawful hr ha raw hc
    obtain ⟨r, h₂, news, hrun', hsecond, hall⟩ := ih result (hc.enters hfirst)
    refine ⟨r, h₂, _ :: news, ?_, hfirst.trans hsecond, ?_⟩
    · rw [Conduct.run, outcome_bind_ok (outcome_attempt _ h), hrun, hrun']
    · exact List.forall_mem_cons.2 ⟨hlawful, hall⟩

end Hears

/-! ## Receptions -/

/-- However many levels are left, a client that is reached is called once, and all that its call leads to is
entered lawfully. By induction on the levels. -/
theorem reception (c : Clients σ) (s : Subscriptions) (levels : Nat) :
    Hears c.ask s levels (receive c.application levels) := by
  induction levels with
  | zero => exact fun k n h _ => ⟨_, h, [], rfl, .nothing rfl rfl rfl rfl, ⟨rfl, by simp⟩, rfl⟩
  | succ levels ih =>
    intro k n h hc
    have hears : Hears c.ask s levels (c.hostOf (receive c.application levels)).receive := ih
    obtain ⟨r, h', news, hrun, henters, hall⟩ :=
      conduct_lawful hears rfl (c.conduct k n) (hc.withEntries [])
    rw [c.receive_client, outcome_entered, hrun]
    refine ⟨r, _, _, rfl, henters.within fun inside => .call k n inside r.isOk, ⟨rfl, ?_⟩, ?_⟩
    · exact List.forall_mem_singleton.2 (.call r.isOk hall)
    · cases r <;> rfl

end Clients

end EventHub
