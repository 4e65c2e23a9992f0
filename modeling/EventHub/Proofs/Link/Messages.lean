import EventHub.Proofs.Actions.Shared
import EventHub.Proofs.Json.RoundTrip
import EventHub.Proofs.Link.Renewal

/-!
# Messages over the link

A payload on its way: an action publishes it through the broker, which is a link; the link sends a message; the
message comes back to a link, whose listener is handed the payload.

* **Bytes** (`Text.decodeLossy_encode`): a text in ASCII is read back from its bytes.
* **Payloads** (`wireForm_of_isCarried`, `decodePayload_wireBytes`): what is sent for a payload, and what is
  read of it.
* **Events** (`EventOf`, `eventOf_messageToEvent`): the event that a payload describes, or the one that
  carries it.
* **Publishing** (`publishOnLink_effects`, `runMqttPublish_effects`): the message that a link sends, and the
  one that it sends for an action (`Link.broker`).
* **Receiving** (`receiveOnLink_hands`): what the listener is handed.
* `published_returns`: both, for every payload that JSON carries. The writer goes as deep as the reader, so
  that what cannot be read back is not sent.
-/

namespace EventHub

open EventHub.Task

/-! ## Bytes -/

theorem Text.decode_encode {cs : List Char} (h : Json.IsAscii cs) : decode (encode cs) = cs.map some := by
  induction cs with
  | nil => rw [encode, List.flatMap_nil, decode, List.map_nil]
  | cons c cs ih =>
    obtain ⟨hc, hcs⟩ := List.forall_mem_cons.1 h
    have hbyte : c.toNat.toUInt8.toNat = c.toNat := by
      rw [Nat.toUInt8_eq, UInt8.toNat_ofNat']
      exact Nat.mod_eq_of_lt (by omega)
    have hlow : c.toNat.toUInt8 < 0x80 := UInt8.lt_iff_toNat_lt.2 (hbyte.trans_lt hc)
    rw [encode, List.flatMap_cons, encodeChar_ascii hc, List.singleton_append, decode_ascii _ _ hlow, hbyte,
      Char.ofNat_toNat, List.map_cons]
    exact congrArg _ (ih hcs)

/-- A text in ASCII is read back from its bytes. -/
theorem Text.decodeLossy_encode {cs : List Char} (h : Json.IsAscii cs) :
    decodeLossy (encode cs) = String.ofList cs := by
  rw [decodeLossy, decode_encode h, List.map_map]
  exact congrArg String.ofList (List.map_id cs)

/-! ## Payloads -/

section Payloads

variable {payload : Value} (hp : payload.IsCarried) (hshape : ∀ s, payload ≠ .text s)
include hp hshape

/-- What is sent for a payload that is no text is its JSON, unless the payload is nested too deep. -/
theorem wireForm_of_isCarried : wireForm payload =
    if payload.depth ≤ Json.maxLevels then .ok (.text (String.ofList (Json.chars payload)))
    else .error (.raised .recursion Json.writeDepthMessage) := by
  let sent (json : Except Fault (List Char)) : Except Fault Value :=
    json.bind fun cs => .ok (.text (String.ofList cs))
  have hsent : wireForm payload = sent (payload.jsonWithin Json.maxLevels) := by
    cases hp with
    | text s => exact absurd rfl (hshape s)
    | _ => rfl
  rw [hsent, Value.jsonWithin_of_isJson hp.isJson]
  split <;> rfl

end Payloads

/-- A message in ASCII is read as its text is. -/
theorem read_wireBytes {cs : List Char} (hcs : Json.IsAscii cs) :
    Json.read (Text.decodeLossy (wireBytes (.text (String.ofList cs)))) = Json.readChars cs := by
  rw [wireBytes, String.toList_ofList, Text.decodeLossy_encode hcs, Json.read, String.toList_ofList]

/-- What JSON carries and the reader reaches comes out of a message as it went in. -/
theorem decodePayload_wireBytes {payload : Value} (hp : payload.IsCarried) (hd : payload.depth ≤ Json.maxLevels) :
    decodePayload (wireBytes (.text (String.ofList (Json.chars payload)))) = .ok payload := by
  have hread := (read_wireBytes (Json.isAscii_chars hp)).trans (Json.readChars_chars hp hd)
  simp only [decodePayload, hread]

/-! ## Events -/

/-- The event of a payload: the one that it describes, with the topic as its source and the present as its time
where it has none, or else one that carries it. -/
inductive EventOf (now topic : String) (payload : Value) : Value → Prop
  | described {fields event : Fields} (map : payload = .map fields)
    (typed : (Value.get fields "type").truthy = true)
    (kept : ∀ key v, Assoc.get? fields key = some v → Assoc.get? event key = some v)
    (source : Assoc.get? fields "source" = none → Assoc.get? event "source" = some (.text topic))
    (time : Assoc.get? fields "timestamp" = none → Assoc.get? event "timestamp" = some (.text now))
    (only : ∀ key, Assoc.get? fields key = none → key ≠ "source" → key ≠ "timestamp" →
      Assoc.get? event key = none) : EventOf now topic payload (.map event)
  | carried (untyped : ∀ fields, payload = .map fields → (Value.get fields "type").truthy = false) :
    EventOf now topic payload (.map [("type", .text messageEventType), ("source", .text topic),
      ("timestamp", .text now), ("data", .map [("topic", .text topic), ("payload", payload)])])

/-- A missing entry is set, and nothing else. -/
theorem get?_putMissing (fields : Fields) (key : String) (v : Value) :
    ∃ event, putMissing (.map fields) key v = .map event ∧
      ∀ other, Assoc.get? event other = (Assoc.get? fields other).or (if key == other then some v else none) := by
  unfold putMissing
  split
  · rename_i hhas
    obtain ⟨w, hw⟩ : ∃ w, Assoc.get? fields key = some w := Option.isSome_iff_exists.1 hhas
    refine ⟨fields, rfl, fun other => ?_⟩
    split
    · rename_i heq
      rw [← eq_of_beq heq, hw, Option.some_or]
    · rw [Option.or_none]
  · rename_i hhas
    have hnone : Assoc.get? fields key = none := Option.not_isSome_iff_eq_none.1 hhas
    refine ⟨Assoc.put fields key v, rfl, fun other => ?_⟩
    rw [Assoc.get?_put]
    split
    · rename_i heq
      rw [← eq_of_beq heq, hnone, Option.none_or]
    · rw [Option.or_none]

theorem eventOf_messageToEvent (now topic : String) {payload : Value} (hp : payload.IsCarried) :
    EventOf now topic payload (messageToEvent now (.text topic) payload) := by
  unfold messageToEvent
  dsimp only
  split
  · rename_i htyped
    cases hp with
    | @map fields _ _ =>
      obtain ⟨sourced, hsourced, hsource⟩ := get?_putMissing fields "source" (.text topic)
      obtain ⟨event, hevent, htime⟩ := get?_putMissing sourced "timestamp" (.text now)
      -- Source and time are added only where the payload has none, each behind what is there.
      have hget (key : String) : Assoc.get? event key = (Assoc.get? fields key).or
          (if "source" == key then some (.text topic) else if "timestamp" == key then some (.text now) else none) := by
        rw [htime, hsource, Option.or_assoc]
        split <;> rfl
      rw [hsourced, hevent]
      exact .described rfl htyped (fun key v h => by rw [hget, h, Option.some_or])
        (fun h => by rw [hget, h]; rfl) (fun h => by rw [hget, h]; rfl)
        fun key h hsource htime => by rw [hget, h]; simp [hsource.symm, htime.symm]
    | _ => cases htyped
  · rename_i huntyped
    refine .carried fun fields hmap => ?_
    subst hmap
    exact Bool.eq_false_iff.2 huntyped

/-! ## Publishing -/

variable {α : Type} {h : Hub α} {l : Link}

/-- A link sends the wire form of the payload, whatever the network makes of it. -/
theorem publishOnLink_effects (hl : h.link = some l) {payload message : Value}
    (hm : wireForm payload = .ok message) (topic : String) (qos : Int) (retain : Bool) : ∃ later,
    (outcome (publishOnLink topic payload qos retain) h).2.effects =
      later ++ .linkPublished topic message qos retain :: h.effects := by
  let sent : Hub α := { h with
    link := some { l with messages := l.messages + 1 }
    effects := .linkPublished topic message qos retain :: h.effects }
  have hsent : outcome (Task.record (.linkPublished topic message qos retain))
      { h with link := some { l with messages := l.messages + 1 } } = (.ok (), sent) := rfl
  unfold publishOnLink
  rw [hm, outcome_bind_ok (outcome_ofExcept _ h), outcome_bind_ok (outcome_getLink hl),
    outcome_bind_ok (outcome_nextMessage hl), outcome_bind_ok hsent]
  by_cases hwaits : 0 < qos
  · rw [if_pos hwaits]
    cases l.network.returnCode != 0 with
    | true => exact ⟨[], rfl⟩
    | false => exact ⟨[.linkWaited l.timeout], rfl⟩
  · rw [if_neg hwaits]
    cases l.network.returnCode != 0 with
    | true => exact ⟨[], rfl⟩
    | false => exact ⟨[], rfl⟩

/-- The broker that a link is to actions. -/
def Link.broker (l : Link) : Broker :=
  let run (journal : List Effect) (t : Task Unit Value) :=
    outcome t { Hub.atMidnight () with link := some l, effects := journal }
  { publish := fun topic payload qos retain journal =>
      let published := run journal (publishOnLink topic.plain payload qos retain)
      (published.1, published.2.effects)
    subscribe := some fun topic qos journal =>
      let subscribed := run journal (subscribeOnLink topic.plain qos)
      (subscribed.1, subscribed.2.effects) }

/-- An action that publishes through a link sends the wire form of its payload. -/
theorem runMqttPublish_effects {ctx : Context} (hb : ctx.broker = some l.broker) {params : Fields}
    {topic : String} (htopic : Value.get params "topic" = .text topic) (hne : topic ≠ "") {qos : Int}
    (hqos : (Value.getOr params "qos" (.int 0)).toInt = .ok qos) {message : Value}
    (hm : wireForm (Value.getOr params "payload" (Value.get params "message")) = .ok message) (h : Hub α) :
    ∃ later, (outcome (runMqttPublish params ctx) h).2.effects =
      later ++ .linkPublished topic message qos (Value.get params "retain").truthy :: h.effects := by
  have hrequired : outcome (require (α := α) .mqttPublish params ["topic"]) h = (.ok (), h) :=
    outcome_require (List.forall_mem_singleton.2 (by rw [htopic]; simpa [isBlankValue] using hne)) h
  unfold runMqttPublish
  rw [outcome_bind_ok hrequired, hqos, outcome_bind_ok (outcome_ofExcept _ h), hb, htopic]
  exact publishOnLink_effects (h := { Hub.atMidnight () with link := some l, effects := h.effects }) rfl hm
    topic qos _

/-! ## Receiving -/

/-- The listener is handed the payload of the message; a fault of it is logged. -/
theorem receiveOnLink_hands (host : Host α) (hl : h.link = some l) {s : Subscriber} (hs : l.listener = some s)
    {bytes : List UInt8} {payload : Value} (hp : decodePayload bytes = .ok payload) (topic : String) :
    ∃ lines, (outcome (receiveOnLink host topic bytes) h).2 =
      { (outcome (host.receive s (.message topic payload)) h).2 with log := lines } := by
  have hhear : outcome (do host.receive s (.message topic (← Task.ofExcept (decodePayload bytes)))) h =
      outcome (host.receive s (.message topic payload)) h := by
    rw [hp]
    exact outcome_bind_ok (outcome_ofExcept _ h)
  unfold receiveOnLink
  rw [outcome_bind_ok (outcome_getLink hl), hs]
  dsimp only
  rw [outcome_bind_ok (outcome_attempt _ h), hhear]
  cases (outcome (host.receive s (.message topic payload)) h).1 with
  | ok _ => exact ⟨_, rfl⟩
  | error fault => exact ⟨⟨.error, linkPart, _⟩ :: _, rfl⟩

/-! ## There and back -/

/-- Payloads come back. For a payload that JSON carries and that is no bare text a message is sent unless the
payload is nested too deep; then publishing it fails and sends nothing. The payload is read from the bytes of
the message. The message goes out when an action publishes the payload through a link; when the bytes arrive at
a link, its listener is handed the payload; and the event of the payload is the one that it describes, or one
that carries it. -/
theorem published_returns {payload : Value} (hp : payload.IsCarried) (hshape : ∀ s, payload ≠ .text s)
    (topic : String) :
    (payload.depth ≤ Json.maxLevels → ∃ message, wireForm payload = .ok message) ∧
    (Json.maxLevels < payload.depth → ∃ fault, fault.kind = .recursion ∧ ∀ qos retain (h : Hub α),
      outcome (publishOnLink topic payload qos retain) h = (.error fault, h)) ∧
    ∀ message, wireForm payload = .ok message →
      decodePayload (wireBytes message) = .ok payload ∧
      (∀ (l : Link) (ctx : Context) (params : Fields) (qos : Int) (h : Hub α), ctx.broker = some l.broker →
        Value.get params "topic" = .text topic → topic ≠ "" →
        Value.getOr params "payload" (Value.get params "message") = payload →
        (Value.getOr params "qos" (.int 0)).toInt = .ok qos →
        ∃ later, (outcome (runMqttPublish params ctx) h).2.effects =
          later ++ .linkPublished topic message qos (Value.get params "retain").truthy :: h.effects) ∧
      (∀ (host : Host α) (l : Link) (s : Subscriber) (h : Hub α), h.link = some l → l.listener = some s →
        ∃ lines, (outcome (receiveOnLink host topic (wireBytes message)) h).2 =
          { (outcome (host.receive s (.message topic payload)) h).2 with log := lines }) ∧
      ∀ now, EventOf now topic payload (messageToEvent now (.text topic) payload) := by
  have hform := wireForm_of_isCarried hp hshape
  refine ⟨fun hd => ⟨_, hform.trans (if_pos hd)⟩,
    fun hd => ⟨.raised .recursion Json.writeDepthMessage, rfl, fun qos retain h => ?_⟩,
    fun message hm => ?_⟩
  · have hfails : outcome (Task.ofExcept (wireForm payload)) h =
        (.error (.raised .recursion Json.writeDepthMessage), h) := by
      rw [hform, if_neg (by omega), outcome_ofExcept]
    exact outcome_bind_error hfails
  · -- There is a message, so the payload is no deeper than the writer goes, and the reader goes as deep.
    by_cases hd : payload.depth ≤ Json.maxLevels
    · obtain rfl := Except.ok.inj (hm.symm.trans (hform.trans (if_pos hd)))
      have hreturns := decodePayload_wireBytes hp hd
      refine ⟨hreturns, fun l ctx params qos h hb htopic hne hpayload hqos => ?_,
        fun host l s h hl hs => receiveOnLink_hands host hl hs hreturns topic,
        fun now => eventOf_messageToEvent now topic hp⟩
      exact runMqttPublish_effects hb htopic hne hqos (by rw [hpayload]; exact hm) h
    · cases hm.symm.trans (hform.trans (if_neg hd))

/-- An event as a payload, with characters that are escaped and empty containers. -/
def motionPayload : Value :=
  .map [("type", .text "motion"), ("note", .text "\"caf\u00e9\" \n\x01 😀"), ("floor", .int (-2)),
    ("zones", .list [.null, .bool true, .list [], .map []])]

theorem motionPayload_isCarried : motionPayload.IsCarried := by
  have hzones : ∀ v ∈ [Value.null, .bool true, .list [], .map []], v.IsCarried := by
    simp only [List.forall_mem_cons]
    exact ⟨.null, .bool true, .list (List.forall_mem_nil _), .map List.nodup_nil (List.forall_mem_nil _),
      List.forall_mem_nil _⟩
  refine .map (by decide) ?_
  simp only [List.forall_mem_cons]
  exact ⟨.text _, .text _, .int (by decide), .list hzones, List.forall_mem_nil _⟩

theorem published_returns_motion : ∃ message,
    wireForm motionPayload = .ok message ∧ decodePayload (wireBytes message) = .ok motionPayload := by
  obtain ⟨hsent, -, hreturns⟩ :=
    published_returns (α := Unit) motionPayload_isCarried nofun "hall/motion"
  obtain ⟨message, hm⟩ := hsent (by decide)
  exact ⟨message, hm, (hreturns message hm).1⟩

end EventHub
