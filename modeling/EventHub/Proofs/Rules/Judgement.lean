import EventHub.Proofs.Hub.Registration
import EventHub.Proofs.Record.FlowForms
import EventHub.Proofs.Rules.Reload
import EventHub.Proofs.Value.Lookup

/-!
# When conditions fail

A check takes the ends of a window and the paths of wanted data as texts. What they say is read when an
event is judged, and then an end that is no time of day is a fault, and so is a number in a path that
no item can have.

* **Paths** (`Value.walk_eq_error`): a walk in a JSON value fails where it comes to a list with a segment
  of digits that is read as no number.
* **Clauses** (`TimeRange.holds_eq_error`, `dataMatches_eq_error`): the window fails at its first end that
  is no time of day, and the data at its first path that fails, once all before it is as wanted.
* **Conditions** (`RuleConditions.FailsOn`): clauses are judged in order, so that a clause fails only if
  those before it hold.
* **Registered rules** (`registerRule_judgements`): how the conditions of a registered rule fail.
-/

namespace EventHub

open EventHub.Task

variable {α : Type} {host : Host α}

/-! ## Paths -/

/-- The segment consists of digits and is read as no number, with the fault. -/
def UnreadNumber (segment : String) (fault : Fault) : Prop :=
  segment ≠ "" ∧ (∀ c ∈ segment.toList, Text.isDigit c = true) ∧
    ((Number.readInt segment = .error .malformed ∧ fault = .value (.intText segment)) ∨
      ∃ digits, Number.readInt segment = .error (.tooLong digits) ∧
        fault = .value (.intDigits digits))

theorem indexOf?_eq_error {segment : String} {fault : Fault} :
    indexOf? segment = .error fault ↔ UnreadNumber segment fault := by
  unfold indexOf? UnreadNumber
  split
  · rename_i hshape
    refine iff_of_false (by simp) fun ⟨hne, hdigits, _⟩ => ?_
    obtain hempty | ⟨c, hc, hother⟩ : segment = "" ∨ ∃ c ∈ segment.toList, Text.isDigit c = false := by
      simpa using hshape
    · exact hne hempty
    · rw [hdigits c hc] at hother
      cases hother
  · rename_i hshape
    obtain ⟨hne, hdigits⟩ : segment ≠ "" ∧ ∀ c ∈ segment.toList, Text.isDigit c = true := by
      simpa using hshape
    rw [and_iff_right hne, and_iff_right hdigits]
    cases Number.readInt segment with
    | ok n => simp
    | error flaw => cases flaw <;> simp [eq_comm]

namespace Value

variable {v : Value} {fault : Fault}

/-- In a JSON value only lists make a segment fail. -/
theorem step_eq_error (hv : v.isJson = true) {segment : String} :
    v.step segment = .error fault ↔ (∃ items, v = list items) ∧ UnreadNumber segment fault := by
  cases v with
  | list items =>
    rw [← indexOf?_eq_error, ← isMisnumbered_iff]
    exact itemAt_eq_error.trans (by simp)
  | _ => simp_all [step, isJson]

theorem walk_eq_error {segments : List String} (hv : v.isJson = true) :
    walk segments v = .error fault ↔ ∃ front segment back items,
      segments = front ++ segment :: back ∧ walk front v = .ok (some (list items)) ∧
        UnreadNumber segment fault := by
  rw [← endsAt_iff (by simp)]
  constructor
  · rintro ⟨front, segment, back, u, hsplit, htrail, hstep⟩
    have hwalk := trail_iff.1 htrail
    obtain ⟨⟨items, rfl⟩, hunread⟩ := (step_eq_error (isJson_of_walk hv hwalk)).1 hstep
    exact ⟨front, segment, back, items, hsplit, hwalk, hunread⟩
  · rintro ⟨front, segment, back, items, hsplit, hwalk, hunread⟩
    have hlist : (list items).isJson = true := isJson_of_walk hv hwalk
    exact ⟨front, segment, back, _, hsplit, trail_iff.2 hwalk,
      (step_eq_error hlist).2 ⟨⟨items, rfl⟩, hunread⟩⟩

end Value

/-! ## Clauses -/

/-- The end of a window, if it is given and is no time of day. -/
def unreadEnd : Option String → Option String
  | none => none
  | some s => if s ≠ "" ∧ Time.readDayMinute s = none then some s else none

theorem dayMinute?_eq (s? : Option String) : ∃ minute?, dayMinute? s? =
    match unreadEnd s? with
    | some s => .error (.definition (.dayTime s))
    | none => .ok minute? := by
  cases s? with
  | none => exact ⟨none, rfl⟩
  | some s =>
    by_cases hempty : s = ""
    · exact ⟨none, by simp [dayMinute?, unreadEnd, hempty]⟩
    · cases hread : Time.readDayMinute s with
      | none => exact ⟨none, by simp [dayMinute?, unreadEnd, hempty, hread]⟩
      | some minute => exact ⟨some minute, by simp [dayMinute?, unreadEnd, hempty, hread]⟩

/-- The first end of the window that is given and is no time of day. -/
def TimeRange.unread? (window : TimeRange) : Option String :=
  (unreadEnd window.start).or (unreadEnd window.end)

/-- The ends of a window are read when the time of the event is known, and the first that is no time of
day is a fault. -/
theorem TimeRange.holds_eq_error {window : TimeRange} {e : Event} {fault : Fault} :
    window.holds e = .error fault ↔ e.moment? ≠ none ∧ ∃ s, window.unread? = some s ∧
      fault = .definition (.dayTime s) := by
  unfold TimeRange.holds unread?
  obtain ⟨start, hstart⟩ := dayMinute?_eq window.start
  obtain ⟨stop, hstop⟩ := dayMinute?_eq window.end
  cases e.moment? with
  | none => simp
  | some m =>
    dsimp only
    rw [hstart, hstop]
    cases unreadEnd window.start with
    | some s => simp [bind, Except.bind, eq_comm]
    | none => cases unreadEnd window.end <;> simp [bind, Except.bind, eq_comm]

theorem dataMatches_append (data : Value) (before after : Fields) :
    dataMatches data (before ++ after) = dataMatches data before >>= fun holds =>
      if holds then dataMatches data after else .ok false := by
  induction before with
  | nil => rfl
  | cons entry rest ih =>
    obtain ⟨path, wanted⟩ := entry
    rw [List.cons_append, dataMatches, dataMatches]
    cases data.lookup path with
    | error fault => rfl
    | ok found =>
      cases found with
      | none => rfl
      | some w =>
        cases hsame : w.same wanted with
        | true => simpa [bind, Except.bind, hsame] using ih
        | false => simp [bind, Except.bind, hsame]

/-- The path of the entry leads to what it wants. -/
def IsAsWanted (data : Value) (entry : String × Value) : Prop :=
  ∃ found, data.lookup entry.1 = .ok (some found) ∧ found.same entry.2 = true

instance (data : Value) (entry : String × Value) : Decidable (IsAsWanted data entry) :=
  match h : data.lookup entry.1 with
  | .ok (some found) => decidable_of_iff (found.same entry.2 = true) (by simp [IsAsWanted, h])
  | .ok none => isFalse (by simp [IsAsWanted, h])
  | .error _ => isFalse (by simp [IsAsWanted, h])

theorem dataMatches_eq_true {data : Value} {entries : Fields} :
    dataMatches data entries = .ok true ↔ ∀ entry ∈ entries, IsAsWanted data entry := by
  induction entries with
  | nil => simp [dataMatches]
  | cons entry rest ih =>
    obtain ⟨path, wanted⟩ := entry
    rw [List.forall_mem_cons, ← ih, dataMatches, IsAsWanted]
    cases data.lookup path with
    | error fault => simp [bind, Except.bind]
    | ok found =>
      cases found with
      | none => simp [bind, Except.bind]
      | some w => cases hsame : w.same wanted <;> simp [bind, Except.bind, hsame]

/-- The entries are judged in order, and the first path that fails is a fault if all entries before it are
as wanted. -/
theorem dataMatches_eq_error {data : Value} {entries : Fields} {fault : Fault} :
    dataMatches data entries = .error fault ↔ ∃ before path wanted after,
      entries = before ++ (path, wanted) :: after ∧ (∀ entry ∈ before, IsAsWanted data entry) ∧
        data.lookup path = .error fault := by
  constructor
  · intro h
    -- Entries are asked in turn: one that does not hold ends the search, so those before the failing one
    -- hold.
    induction entries with
    | nil => cases h
    | cons entry rest ih =>
      obtain ⟨path, wanted⟩ := entry
      rw [dataMatches, bind_eq_error] at h
      obtain hlookup | ⟨found, hlookup, h⟩ := h
      · exact ⟨[], path, wanted, rest, rfl, fun _ hm => (List.not_mem_nil hm).elim, hlookup⟩
      · split at h
        · cases h
        · rename_i w
          split at h
          · rename_i hsame
            obtain ⟨before, path', wanted', after, rfl, hbefore, hfails⟩ := ih h
            exact ⟨(path, wanted) :: before, path', wanted', after, rfl,
              List.forall_mem_cons.2 ⟨⟨w, hlookup, hsame⟩, hbefore⟩, hfails⟩
          · cases h
  · rintro ⟨before, path, wanted, after, rfl, hbefore, hfails⟩
    rw [dataMatches_append, dataMatches_eq_true.2 hbefore]
    dsimp only [bind, Except.bind]
    rw [if_pos rfl, dataMatches, hfails]
    rfl

/-! ## Conditions -/

namespace RuleConditions

/-- Does the window of the conditions, if there is one, hold the time of the event? -/
def windowHolds (c : RuleConditions) (e : Event) : Except Fault Bool :=
  match c.timeRange with
  | some window => window.holds e
  | none => .ok true

/-- The event is of the types and from the sources that the conditions name. -/
def Admits (c : RuleConditions) (e : Event) : Prop :=
  amongNames c.eventTypes e.type = true ∧ amongNames c.sources e.source = true

/-- How judging the event by the conditions fails: at an end of the window, when the event is of the types
and from the sources and its time can be read, or at a path, when the window holds, too, and so do the
entries before. -/
inductive FailsOn (c : RuleConditions) (e : Event) : Fault → Prop
  | window {window : TimeRange} {s : String} (admits : c.Admits e) (given : c.timeRange = some window)
    (timed : e.moment? ≠ none) (unread : window.unread? = some s) :
    FailsOn c e (.definition (.dayTime s))
  | data {before after : Fields} {path : String} {wanted : Value} {front back : List String}
    {segment : String} {items : List Value} {fault : Fault} (admits : c.Admits e)
    (holds : c.windowHolds e = .ok true) (entries : c.data.getD [] = before ++ (path, wanted) :: after)
    (earlier : ∀ entry ∈ before, IsAsWanted (.map e.data) entry)
    (segments : (segmentsOf path.toList).map String.ofList = front ++ segment :: back)
    (leads : walk front (.map e.data) = .ok (some (.list items)))
    (unread : UnreadNumber segment fault) : FailsOn c e fault

/-- Every end of the window that is given is a time of day, and every number in a path can be read. -/
structure Readable (c : RuleConditions) : Prop where
  window : ∀ window ∈ c.timeRange, window.unread? = none
  data : ∀ entry ∈ c.data.getD [], ∀ segment ∈ segmentsOf entry.1.toList,
    (indexOf? (String.ofList segment)).isOk = true

variable {c : RuleConditions} {e : Event} {fault : Fault}

theorem Readable.not_failsOn (hc : c.Readable) : ¬ c.FailsOn e fault := by
  intro h
  cases h with
  | window _ given _ unread =>
    rw [hc.window _ given] at unread
    cases unread
  | @data _ _ path wanted _ _ segment _ _ _ _ entries _ segments _ unread =>
    have hentry : (path, wanted) ∈ c.data.getD [] :=
      entries ▸ List.mem_append_right _ List.mem_cons_self
    have hsegment : segment ∈ (segmentsOf path.toList).map String.ofList :=
      segments ▸ List.mem_append_right _ List.mem_cons_self
    obtain ⟨cs, hcs, rfl⟩ := List.mem_map.1 hsegment
    have hread := hc.data _ hentry cs hcs
    rw [indexOf?_eq_error.2 unread] at hread
    cases hread

/-- The clauses in the order in which they are judged. -/
theorem matchesEvent_eq (ask : String → Value → Except Fault Value) (c : RuleConditions) (e : Event) :
    c.matchesEvent ask e =
      if amongNames c.eventTypes e.type && amongNames c.sources e.source then
        c.windowHolds e >>= fun holds => if holds then
          dataMatches (.map e.data) (c.data.getD []) >>= fun holds =>
            if holds then customHolds ask e c.custom else .ok false
          else .ok false
      else .ok false := by
  unfold RuleConditions.matchesEvent windowHolds
  cases amongNames c.eventTypes e.type with
  | false => rfl
  | true =>
  cases amongNames c.sources e.source with
  | false => rfl
  | true =>
  have hnot {β : Type} (holds : Bool) (x y : β) :
      (if (!holds) = true then x else y) = if holds = true then y else x := by cases holds <;> rfl
  simp only [Bool.not_true, Bool.false_eq_true, ↓reduceIte, Bool.and_self, hnot]
  cases c.timeRange <;> rfl

/-- Conditions that ask no function fail on an event with JSON data as `FailsOn` tells, and with no other
fault. -/
theorem matchesEvent_eq_error {ask : String → Value → Except Fault Value} (hc : c.custom = none)
    (he : Value.isJsonFields e.data = true) :
    c.matchesEvent ask e = .error fault ↔ c.FailsOn e fault := by
  have hj : (Value.map e.data).isJson = true := by simpa using he
  rw [matchesEvent_eq, hc]
  -- Type and source are asked first and never fail, then the window, and then the data.
  constructor
  · intro h
    split at h
    case isFalse => cases h
    rename_i hadmits
    have hadmits : c.Admits e := by simpa [Admits] using hadmits
    obtain hwindow | ⟨holds, hwindow, h⟩ := bind_eq_error.1 h
    · unfold windowHolds at hwindow
      split at hwindow
      · rename_i window hgiven
        obtain ⟨htimed, s, hunread, rfl⟩ := TimeRange.holds_eq_error.1 hwindow
        exact .window hadmits hgiven htimed hunread
      · cases hwindow
    · split at h
      case isFalse => cases h
      rename_i hholds
      obtain hdata | ⟨wanted, -, h⟩ := bind_eq_error.1 h
      · obtain ⟨before, path, wanted, after, hentries, hbefore, hfails⟩ :=
          dataMatches_eq_error.1 hdata
        obtain ⟨front, segment, back, items, hsegments, hleads, hunread⟩ :=
          (Value.walk_eq_error hj).1 hfails
        exact .data hadmits (hholds ▸ hwindow) hentries hbefore hsegments hleads hunread
      · split at h
        · cases h
        · cases h
  · intro h
    -- Conversely a failure of either kind is reached, since what comes before it holds.
    have hadmits : c.Admits e := by
      cases h with
      | window admits => exact admits
      | data admits => exact admits
    rw [if_pos (by simpa [Admits] using hadmits)]
    refine bind_eq_error.2 ?_
    cases h with
    | window _ given timed unread =>
      refine .inl ?_
      rw [windowHolds, given]
      exact TimeRange.holds_eq_error.2 ⟨timed, _, unread, rfl⟩
    | data _ holds entries earlier segments leads unread =>
      have hfails := (Value.walk_eq_error hj).2 ⟨_, _, _, _, segments, leads, unread⟩
      have hdata := dataMatches_eq_error.2 ⟨_, _, _, _, entries, earlier, hfails⟩
      exact .inr ⟨true, holds, bind_eq_error.2 (.inl hdata)⟩

end RuleConditions

/-! ## Registered rules -/

/-- A rule that was registered from JSON is judged on every event that was checked from JSON. If the ends of
its window are times of day and the numbers in its paths can be read, it is decided whether the event
matches. Otherwise that fails on some events: on those for which its conditions come to an end or to a
number that is not read, and with the fault of that. -/
theorem registerRule_judgements {h h' : Hub α} {d : Definition Rule} {id : String} (hd : d.IsJson)
    (hr : outcome (registerRule host d) h = (.ok id, h')) :
    ∃ made stored book, d.toRule h.now.text = .ok made ∧
      h.engine.book.register h.now.text (h.drawnRuleId made) made = .ok (id, stored, book) ∧
      ∀ (ask : String → Value → Except Fault Value) (fresh : String) (v : Value) (e : Event),
        v.isJson = true → Event.check fresh v = .ok e →
        ((∀ c ∈ stored.conditions, c.Readable) →
          ∃ holds, matchesEvent ask stored.conditions e = .ok holds) ∧
        ∀ fault, matchesEvent ask stored.conditions e = .error fault ↔
          ∃ c ∈ stored.conditions, c.FailsOn e fault := by
  obtain ⟨made, stored, book, -, hmade, hbook, -⟩ := registerRule_eq_ok hr
  refine ⟨made, stored, book, hmade, hbook, fun ask fresh v e hv he => ?_⟩
  -- The rule came from JSON, so its conditions ask no function and its data is plain.
  have hplain := Definition.plain_of_toRule hd hmade
  obtain ⟨rfl, -⟩ := RuleBook.register_eq_ok hbook
  have hfails (fault : Fault) : matchesEvent ask made.conditions e = .error fault ↔
      ∃ c ∈ made.conditions, c.FailsOn e fault := by
    cases hc : made.conditions with
    | none => simp [matchesEvent]
    | some c =>
      have hcustom := (hplain.conditions c hc).custom
      simpa [matchesEvent] using RuleConditions.matchesEvent_eq_error hcustom
        (Event.plain_of_check hv he).data
  refine ⟨fun hreadable => ?_, hfails⟩
  cases hm : matchesEvent ask made.conditions e with
  | ok holds => exact ⟨holds, rfl⟩
  | error fault =>
    obtain ⟨c, hc, hfailing⟩ := (hfails fault).1 hm
    exact absurd hfailing (hreadable c hc).not_failsOn

/-- A rule for the night that wants something of the first item. -/
def nightRule : Value :=
  loggingRule "night" [("timeRange", .map [("start", .text "22:00"), ("end", .text "")]),
    ("data", .map [("items.0.zone", .text "z1")])] []

/-- A rule from an hour on that no day has. -/
def lateRule : Value := loggingRule "late" [("timeRange", .map [("start", .text "25:00")])] []

/-- A rule that wants something of an item of no number: the digit is none of a decimal number. -/
def squareRule : Value := loggingRule "square" [("data", .map [("items.\u00b2", .text "z1")])] []

/-- An event at night, with one item. -/
def itemEvent : Value :=
  .map [("type", .text "seen"), ("source", .text "probe"), ("timestamp", .text "2024-01-01T23:00:00"),
    ("data", .map [("items", .list [.map [("zone", .text "z1")]])])]

/-- The conditions of the rule for the night. -/
def nightConditions : RuleConditions :=
  ⟨none, none, some [("items.0.zone", .text "z1")], some ⟨some "22:00", some ""⟩, none⟩

theorem nightConditions_readable : nightConditions.Readable where
  window w hw := by
    obtain rfl : (⟨some "22:00", some ""⟩ : TimeRange) = w := Option.some.inj hw
    decide
  data entry he := by
    obtain rfl : entry = ("items.0.zone", .text "z1") := List.mem_singleton.1 he
    decide +kernel

theorem registerRule_judgements_night : ∃ made stored book e,
    (Definition.document nightRule).toRule (Hub.atMidnight ()).now.text = .ok made ∧
    (Hub.atMidnight ()).engine.book.register (Hub.atMidnight ()).now.text
      ((Hub.atMidnight ()).drawnRuleId made) made = .ok ("night", stored, book) ∧
    Event.check "e1" itemEvent = .ok e ∧
    ∃ holds, matchesEvent Host.deaf.app.ask stored.conditions e = .ok holds := by
  have hj : (Definition.document nightRule).IsJson := by
    change Value.isJsonFields _ = true
    decide
  have hr : outcome (registerRule .deaf (.document nightRule)) (Hub.atMidnight ()) =
      (.ok "night", _) := rfl
  obtain ⟨made, stored, book, hmade, hbook, hjudges⟩ := registerRule_judgements hj hr
  have he : Event.check "e1" itemEvent = .ok _ := rfl
  refine ⟨made, stored, book, _, hmade, hbook, he, ?_⟩
  refine (hjudges Host.deaf.app.ask "e1" itemEvent _ (by decide) he).1 fun c hc => ?_
  obtain ⟨rfl, -⟩ := RuleBook.register_eq_ok hbook
  have hconditions : .ok made.conditions = Except.ok (ε := Fault) (some nightConditions) :=
    (congrArg (Except.map Rule.conditions) hmade).symm.trans rfl
  obtain rfl : nightConditions = c := Option.some.inj ((Except.ok.inj hconditions).symm.trans hc)
  exact nightConditions_readable

/-- Both are JSON, the rule is registered under the id, and its conditions fail on the event. -/
def FailsLate (rule : Value) (id : String) (event : Value) (fault : Fault) : Prop :=
  rule.isJson = true ∧ event.isJson = true ∧ ∃ made e h',
    outcome (registerRule .deaf (.document rule)) (Hub.atMidnight ()) = (.ok id, h') ∧
    (Definition.document rule).toRule (Hub.atMidnight ()).now.text = .ok made ∧
    Event.check "e1" event = .ok e ∧
    matchesEvent Host.deaf.app.ask made.conditions e = .error fault

/-- Rules are registered whose conditions fail on an event: one at the end of its window, and one at the
number of an item. -/
theorem registerRule_takes_unread :
    FailsLate lateRule "late" itemEvent (.definition (.dayTime "25:00")) ∧
    FailsLate squareRule "square" itemEvent (.value (.intText "\u00b2")) :=
  ⟨⟨by decide, by decide, _, _, _, rfl, rfl, rfl, rfl⟩,
    ⟨by decide, by decide, _, _, _, rfl, rfl, rfl, rfl⟩⟩

end EventHub
