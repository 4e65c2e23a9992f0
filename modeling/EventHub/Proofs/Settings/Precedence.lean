import EventHub.Settings.Load
import Mathlib.Data.List.Nodup

/-!
# The precedence of the environment

A variable that is set decides its setting, whatever the document says there, except that a variable for a list
is as good as unset when it lists nothing.

* **Reads** (`SectionReads`, `Settings.sections`): what is read of which section, and by which variables it is
  overridden. Nothing else counts (`ofDocument_congr`).
* **Likeness** (`SectionReads.Alike`, `AlikeAt`): two environments and two documents between which what is read
  makes no difference.
* **Agreement** (`AgreeBut`): documents that agree but at one place.
* `load_precedence`: a variable that is set, and documents that agree but at its place.
-/

namespace EventHub

variable {env env' : Environment} {d d' p q : Value} {name key : String} {place : List String}

/-! ## Reads -/

/-- What is read of a section: options and lists, each with the variable that overrides it, and options that
no variable overrides. -/
structure SectionReads where
  settings : List (String × String)
  lists : List (String × String)
  options : List String

/-- The variables with the options that they override. -/
def SectionReads.overrides (o : SectionReads) : List (String × String) := o.settings ++ o.lists

/-- The names of what is read. -/
def SectionReads.names (o : SectionReads) : List String := o.overrides.map (·.2) ++ o.options

def brokerReads : SectionReads where
  settings := [("MQTT_ENABLED", "enabled"), ("MQTT_BROKER_HOST", "host"), ("MQTT_BROKER_PORT", "port"),
    ("MQTT_USERNAME", "username"), ("MQTT_PASSWORD", "password"),
    ("MQTT_PUBLISH_TIMEOUT_SEC", "publish_timeout_sec")]
  lists := []
  options := ["client_id"]

def busReads : SectionReads := ⟨[], [], ["max_events", "queue_size", "enqueue_timeout_sec"]⟩

def actionReads : SectionReads :=
  ⟨[("LG_HTTP_TIMEOUT_SEC", "http_timeout_sec")], [], ["max_delay_ms", "smtp_timeout_sec"]⟩

def notificationReads : SectionReads := ⟨[], [("NOTIFY_WEBHOOK_URLS", "webhook_urls")], []⟩

def smtpReads : SectionReads where
  settings := [("SMTP_HOST", "host"), ("SMTP_PORT", "port"), ("SMTP_USER", "user"),
    ("SMTP_PASSWORD", "password"), ("SMTP_FROM", "from"), ("SMTP_STARTTLS", "starttls")]
  lists := [("SMTP_TO", "to")]
  options := []

def telegramReads : SectionReads :=
  ⟨[("TELEGRAM_BOT_TOKEN", "bot_token"), ("TELEGRAM_CHAT_ID", "chat_id")], [], []⟩

def smsReads : SectionReads := ⟨[("SMS_WEBHOOK_URL", "webhook_url")], [("SMS_TO", "to")], []⟩

def slackReads : SectionReads :=
  ⟨[("SLACK_WEBHOOK_URL", "webhook_url"), ("SLACK_CHANNEL", "channel")], [], []⟩

def loggingReads : SectionReads := ⟨[("LG_LOG_LEVEL", "level"), ("LG_LOG_FILE", "file")], [], []⟩

/-- What is read of the document itself. -/
def documentReads : SectionReads := ⟨[], [], ["rules", "flows"]⟩

/-- The sections, each with the names that lead to it. -/
def Settings.sections : List (List String × SectionReads) :=
  [(["mqtt"], brokerReads), (["event_bus"], busReads), (["actions"], actionReads),
    (["notifications"], notificationReads), (["notifications", "smtp"], smtpReads),
    (["notifications", "telegram"], telegramReads), (["notifications", "sms"], smsReads),
    (["notifications", "slack"], slackReads), (["logging"], loggingReads), ([], documentReads)]

/-- A section, which is empty where the value counts as false. -/
def Value.asSection (v : Value) : Value := v.orElse (.map [])

/-! ## Likeness -/

/-- What is read of the sections, under the two environments, makes no difference between them. -/
structure SectionReads.Alike (o : SectionReads) (env env' : Environment) (p q : Value) : Prop where
  setting : ∀ name key, (name, key) ∈ o.settings → ∀ default,
    setting env name p key default = setting env' name q key default
  list : ∀ name key, (name, key) ∈ o.lists → listSetting env name p key = listSetting env' name q key
  option : ∀ key, key ∈ o.options → ∀ default, sectionOption p key default = sectionOption q key default

theorem SectionReads.Alike.refl (o : SectionReads) (env : Environment) (p : Value) : o.Alike env env p p where
  setting _ _ _ _ := rfl
  list _ _ _ := rfl
  option _ _ _ := rfl

/-- The documents have the sections that are related, or both fail to have one. -/
def SectionsRelated (R : Value → Value → Prop) (name : String) (d d' : Value) : Prop :=
  (∃ p q, sectionOf d name = .ok p ∧ sectionOf d' name = .ok q ∧ R p q) ∨
    ∃ fault, sectionOf d name = .error fault ∧ sectionOf d' name = .error fault

/-- The sections to which the names lead in the documents are alike. -/
def AlikeAt (env env' : Environment) (o : SectionReads) : List String → Value → Value → Prop
  | [], d, d' => o.Alike env env' d d'
  | name :: place, d, d' => SectionsRelated (AlikeAt env env' o place) name d d'

theorem SectionsRelated.of_eq {R : Value → Value → Prop} (hR : ∀ p, R p p)
    (h : sectionOf d name = sectionOf d' name) : SectionsRelated R name d d' := by
  cases hd : sectionOf d name with
  | ok p => exact .inl ⟨p, p, hd, h.symm.trans hd, hR p⟩
  | error fault => exact .inr ⟨fault, hd, h.symm.trans hd⟩

theorem AlikeAt.refl {o : SectionReads} (h : ∀ p, o.Alike env env' p p) (place : List String) (d : Value) :
    AlikeAt env env' o place d d := by
  induction place generalizing d with
  | nil => exact h d
  | cons name place ih => exact SectionsRelated.of_eq (ih ·) rfl

theorem SectionsRelated.and {R S : Value → Value → Prop} (hR : SectionsRelated R name d d')
    (hS : SectionsRelated S name d d') : SectionsRelated (fun p q => R p q ∧ S p q) name d d' := by
  obtain ⟨p, q, hp, hq, hR⟩ | ⟨fault, hp, hq⟩ := hR
  · obtain ⟨p', q', hp', hq', hS⟩ | ⟨fault, hp', -⟩ := hS
    · cases hp.symm.trans hp'
      cases hq.symm.trans hq'
      exact .inl ⟨p, q, hp, hq, hR, hS⟩
    · cases hp.symm.trans hp'
  · exact .inr ⟨fault, hp, hq⟩

theorem SectionsRelated.bind_congr {β : Type} {R : Value → Value → Prop} {f g : Value → Except Fault β}
    (h : SectionsRelated R name d d') (hf : ∀ p q, R p q → f p = g q) :
    (sectionOf d name >>= f) = (sectionOf d' name >>= g) := by
  obtain ⟨p, q, hp, hq, hR⟩ | ⟨fault, hp, hq⟩ := h
  · rw [hp, hq]
    exact hf p q hR
  · rw [hp, hq]
    rfl

/-! ## What counts -/

theorem loadBroker_congr (h : AlikeAt env env' brokerReads ["mqtt"] d d') :
    loadBroker env d = loadBroker env' d' := by
  refine h.bind_congr fun p q ha => ?_
  simp (disch := decide) only [ha.setting, ha.option]

theorem loadBus_congr (h : AlikeAt env env' busReads ["event_bus"] d d') : loadBus d = loadBus d' := by
  refine h.bind_congr fun p q ha => ?_
  simp (disch := decide) only [ha.option]

theorem loadActions_congr (h : AlikeAt env env' actionReads ["actions"] d d') :
    loadActions env d = loadActions env' d' := by
  refine h.bind_congr fun p q ha => ?_
  simp (disch := decide) only [ha.setting, ha.option]

theorem loadNotifications_congr (ho : AlikeAt env env' notificationReads ["notifications"] d d')
    (hsmtp : AlikeAt env env' smtpReads ["notifications", "smtp"] d d')
    (htelegram : AlikeAt env env' telegramReads ["notifications", "telegram"] d d')
    (hsms : AlikeAt env env' smsReads ["notifications", "sms"] d d')
    (hslack : AlikeAt env env' slackReads ["notifications", "slack"] d d') :
    loadNotifications env d = loadNotifications env' d' := by
  refine (ho.and (hsmtp.and (htelegram.and (hsms.and hslack)))).bind_congr fun p q h => ?_
  obtain ⟨ha, hsmtp, htelegram, hsms, hslack⟩ := h
  refine hsmtp.bind_congr fun smtp smtp' hsmtp => ?_
  refine htelegram.bind_congr fun telegram telegram' htelegram => ?_
  refine hsms.bind_congr fun sms sms' hsms => ?_
  refine hslack.bind_congr fun slack slack' hslack => ?_
  simp (disch := decide) only [ha.list, hsmtp.setting, hsmtp.list, htelegram.setting, hsms.setting,
    hsms.list, hslack.setting]

theorem listOption_congr (h : documentReads.Alike env env' d d') (hkey : key ∈ documentReads.options) :
    listOption d key = listOption d' key := by
  rw [listOption, listOption, h.option key hkey]

/-- The settings depend on what is read of the sections, and on nothing else. -/
theorem ofDocument_congr
    (h : ∀ x ∈ Settings.sections, AlikeAt env env' x.2 x.1 d.asSection d'.asSection) :
    Settings.ofDocument env d = Settings.ofDocument env' d' := by
  simp only [Settings.sections, List.forall_mem_cons] at h
  obtain ⟨hbroker, hbus, hactions, hown, hsmtp, htelegram, hsms, hslack, hlogging, hdocument, -⟩ := h
  have hrules : listOption d.asSection "rules" = listOption d'.asSection "rules" :=
    listOption_congr hdocument (by simp [documentReads])
  have hflows : listOption d.asSection "flows" = listOption d'.asSection "flows" :=
    listOption_congr hdocument (by simp [documentReads])
  unfold Settings.ofDocument
  simp only [Value.asSection] at *
  rw [loadBroker_congr hbroker, loadBus_congr hbus, loadActions_congr hactions,
    loadNotifications_congr hown hsmtp htelegram hsms hslack, hrules, hflows]
  refine bind_congr fun broker => bind_congr fun bus => bind_congr fun actions => bind_congr fun sent => ?_
  refine hlogging.bind_congr fun p q ha => ?_
  simp (disch := decide) only [ha.setting]

/-! ## Agreement -/

/-- The values agree but at the place to which the names lead: what stands there may differ or be absent.
Sections that count as false agree with empty ones. -/
inductive AgreeBut : List String → Value → Value → Prop
  | there (v w : Value) : AgreeBut [] v w
  | same (place : List String) (v : Value) : AgreeBut place v v
  | inside {name : String} {place : List String} {v w : Value} {fields fields' : Fields}
    (hv : v.asSection.fields? = some fields) (hw : w.asSection.fields? = some fields')
    (others : ∀ other, other ≠ name → Assoc.get? fields other = Assoc.get? fields' other)
    (inner : AgreeBut place (Value.get fields name) (Value.get fields' name)) : AgreeBut (name :: place) v w

section Fields

variable {fields fields' : Fields} (hp : p.fields? = some fields)
include hp

theorem sectionOption_of_fields (name : String) (default : Value) :
    sectionOption p name default = .ok (Value.getOr fields name default) := by
  rw [sectionOption, hp]

theorem sectionOf_of_fields (name : String) : sectionOf p name = .ok (Value.get fields name).asSection := by
  rw [sectionOf, sectionOption_of_fields hp]
  unfold Value.getOr Value.get
  cases Assoc.get? fields name <;> rfl

variable (hq : q.fields? = some fields')
include hq

theorem sectionOption_congr (h : Assoc.get? fields key = Assoc.get? fields' key) (default : Value) :
    sectionOption p key default = sectionOption q key default := by
  rw [sectionOption_of_fields hp, sectionOption_of_fields hq, Value.getOr, Value.getOr, h]

theorem setting_of_set {s : String} (hset : Assoc.get? env name = some s) (default : Value) :
    setting env name p key default = setting env name q key default := by
  rw [setting, setting, sectionOption_of_fields hp, sectionOption_of_fields hq]
  exact congrArg Except.ok (fromEnvironment_of_set hset _ _)

end Fields

theorem listSetting_of_listed {s : String} (hset : Assoc.get? env name = some s) (hs : commaParts s ≠ []) :
    listSetting env name p key = listSetting env name q key := by
  rw [listSetting, listSetting, hset, Option.map_some]
  cases hparts : commaParts s with
  | nil => exact absurd hparts hs
  | cons part parts => rfl

/-- Whatever the section reads of the option is hidden by a variable. -/
structure SectionReads.Hides (o : SectionReads) (env : Environment) (key : String) : Prop where
  setting : ∀ name, (name, key) ∈ o.settings → ∃ s, Assoc.get? env name = some s
  list : ∀ name, (name, key) ∈ o.lists → ∃ s, Assoc.get? env name = some s ∧ commaParts s ≠ []
  option : key ∉ o.options

theorem SectionReads.Hides.alike {o : SectionReads} {fields fields' : Fields} (h : o.Hides env key)
    (hp : p.fields? = some fields) (hq : q.fields? = some fields')
    (others : ∀ other, other ≠ key → Assoc.get? fields other = Assoc.get? fields' other) :
    o.Alike env env p q where
  setting name other hmem default := by
    by_cases hkey : other = key
    · subst hkey
      obtain ⟨s, hset⟩ := h.setting name hmem
      exact setting_of_set hp hq hset default
    · rw [EventHub.setting, sectionOption_congr hp hq (others other hkey)]
      rfl
  list name other hmem := by
    by_cases hkey : other = key
    · subst hkey
      obtain ⟨s, hset, hs⟩ := h.list name hmem
      exact listSetting_of_listed hset hs
    · rw [listSetting, listSetting, listOption, listOption, sectionOption_congr hp hq (others other hkey)]
  option other hmem := sectionOption_congr hp hq (others other fun hkey => h.option (hkey ▸ hmem))

/-- Documents that agree but at one place are alike wherever nothing is read there but what is hidden. By
induction on the way to the place. -/
theorem AgreeBut.alikeAt {o : SectionReads} {target : List String} (h : AgreeBut target d d')
    (hbeside : ¬ target <+: place) (hides : ∀ key rest, target = place ++ key :: rest → o.Hides env key) :
    AlikeAt env env o place d.asSection d'.asSection := by
  induction h generalizing place with
  | there => exact absurd List.nil_prefix hbeside
  | same => exact AlikeAt.refl (.refl o env) _ _
  | @inside name rest v w fields fields' hv hw others inner ih =>
    cases place with
    | nil => exact (hides name rest rfl).alike hv hw others
    | cons head place =>
      by_cases hhead : head = name
      · subst hhead
        refine .inl ⟨_, _, sectionOf_of_fields hv head, sectionOf_of_fields hw head, ih ?_ ?_⟩
        · exact fun hprefix => hbeside (List.cons_prefix_cons.2 ⟨rfl, hprefix⟩)
        · exact fun key rest htarget => hides key rest (congrArg (head :: ·) htarget)
      · refine SectionsRelated.of_eq (AlikeAt.refl (.refl o env) place) ?_
        rw [sectionOf_of_fields hv, sectionOf_of_fields hw, Value.get, Value.get, others head hhead]

/-! ## Precedence -/

/-- A section within another is not read as an option. -/
theorem Settings.sections_within : ∀ x ∈ sections, ∀ y ∈ sections, x.1 <+: y.1 →
    ∀ inner ∈ (y.1.drop x.1.length).head?, inner ∉ x.2.names := by
  decide

/-- An option that is read is no section on the way to others. -/
theorem Settings.sections_apart {x y : List String × SectionReads} (hx : x ∈ sections) (hy : y ∈ sections)
    (hkey : key ∈ x.2.names) : ¬ x.1 ++ [key] <+: y.1 := by
  rintro ⟨rest, hrest⟩
  refine sections_within x hx y hy ⟨key :: rest, by simp [← hrest]⟩ key ?_ hkey
  simp [← hrest]

theorem Settings.sections_nodup : (sections.map (·.1)).Nodup := by decide

theorem Settings.names_nodup : ∀ x ∈ sections, x.2.names.Nodup := by decide

/-- A variable for a setting is none for a list. -/
theorem Settings.lists_apart : ∀ x ∈ sections, ∀ v ∈ x.2.settings, ∀ y ∈ sections, ∀ w ∈ y.2.lists,
    v.1 ≠ w.1 := by
  decide

theorem SectionReads.mem_names {o : SectionReads} (h : (name, key) ∈ o.overrides) : key ∈ o.names :=
  List.mem_append_left _ (List.mem_map_of_mem h)

theorem SectionReads.hides_of_not_mem {o : SectionReads} (h : key ∉ o.names) : o.Hides env key where
  setting _ hmem := absurd (mem_names (List.mem_append_left _ hmem)) h
  list _ hmem := absurd (mem_names (List.mem_append_right _ hmem)) h
  option hmem := absurd (List.mem_append_right _ hmem) h

section Variable

variable {o : SectionReads} {s : String} (hset : Assoc.get? env name = some s)
include hset

/-- A variable that is set, and for a list lists something, hides its option. -/
theorem SectionReads.hides_of_set (hnames : o.names.Nodup)
    (hlisted : (name, key) ∈ o.settings ∨ (name, key) ∈ o.lists ∧ commaParts s ≠ []) : o.Hides env key := by
  have hown : (name, key) ∈ o.overrides := List.mem_append.2 (hlisted.imp_right And.left)
  obtain ⟨hkeys, -, hoptions⟩ := List.nodup_append.1 hnames
  obtain ⟨-, -, hkinds⟩ := List.nodup_append.1 hkeys.of_map
  have honly (other : String) (hmem : (other, key) ∈ o.overrides) : other = name :=
    congrArg Prod.fst (List.inj_on_of_nodup_map hkeys hmem hown rfl)
  refine ⟨fun other hmem => ⟨s, ?_⟩, fun other hmem => ⟨s, ?_, ?_⟩, fun hmem => ?_⟩
  · rw [honly other (List.mem_append_left _ hmem), hset]
  · rw [honly other (List.mem_append_right _ hmem), hset]
  · obtain rfl := honly other (List.mem_append_right _ hmem)
    obtain hsetting | ⟨-, hs⟩ := hlisted
    · exact absurd rfl (hkinds _ hsetting _ hmem)
    · exact hs
  · exact hoptions key (List.mem_map_of_mem hown) key hmem rfl

variable (ho : (place, o) ∈ Settings.sections)
include ho

/-- What is read at the place of a variable is hidden, in every section on the way to it. -/
theorem hides_of_target (hlisted : (name, key) ∈ o.settings ∨ (name, key) ∈ o.lists ∧ commaParts s ≠ [])
    {x : List String × SectionReads} (hx : x ∈ Settings.sections) {other : String} {rest : List String}
    (htarget : place ++ [key] = x.1 ++ other :: rest) : x.2.Hides env other := by
  obtain rfl | ⟨between, last, rfl⟩ := List.eq_nil_or_concat' rest
  -- the section of the variable itself
  · obtain ⟨hplace, hkey⟩ := List.append_inj' htarget rfl
    obtain rfl : (place, o) = x := List.inj_on_of_nodup_map Settings.sections_nodup ho hx hplace
    obtain rfl : key = other := List.singleton_inj.1 hkey
    exact SectionReads.hides_of_set hset (Settings.names_nodup _ ho) hlisted
  -- a section on the way to it, in which only the next section is entered
  · rw [← List.cons_append, ← List.append_assoc] at htarget
    obtain ⟨hplace, -⟩ := List.append_inj' htarget rfl
    refine SectionReads.hides_of_not_mem fun hother => Settings.sections_apart hx ho hother ?_
    exact ⟨between, by simp [hplace]⟩

/-- No section tells an environment from one in which a list that lists nothing is unset. -/
theorem alike_of_unset (hlist : (name, key) ∈ o.lists) (hs : commaParts s = [])
    (hnone : Assoc.get? env' name = none)
    (hothers : ∀ other, other ≠ name → Assoc.get? env' other = Assoc.get? env other)
    {x : List String × SectionReads} (hx : x ∈ Settings.sections) (p : Value) : x.2.Alike env env' p p where
  setting other _ hmem default := by
    have hne : other ≠ name := Settings.lists_apart x hx _ hmem _ ho _ hlist
    simp only [EventHub.setting, fromEnvironment, hothers other hne]
  list other _ hmem := by
    by_cases hother : other = name
    · subst hother
      rw [listSetting, listSetting, hset, hnone, Option.map_some, hs]
      rfl
    · rw [listSetting, listSetting, hothers other hother]
  option _ _ _ := rfl

/-- Documents that agree but at the place of a variable that is set lead to the same. -/
theorem load_of_agreeBut (hlisted : (name, key) ∈ o.settings ∨ (name, key) ∈ o.lists ∧ commaParts s ≠ [])
    (hd : AgreeBut (place ++ [key]) d d') (path : String) :
    Settings.load env (fun _ => some d) (.text path) = Settings.load env (fun _ => some d') (.text path) := by
  have hkey : key ∈ o.names := SectionReads.mem_names (List.mem_append.2 (hlisted.imp_right And.left))
  refine ofDocument_congr fun x hx => hd.alikeAt ?_ fun other rest htarget => ?_
  · exact Settings.sections_apart ho hx hkey
  · exact hides_of_target hset ho hlisted hx htarget

/-- A list that lists nothing is as good as unset. -/
theorem load_of_unset (hlist : (name, key) ∈ o.lists) (hs : commaParts s = [])
    (hnone : Assoc.get? env' name = none)
    (hothers : ∀ other, other ≠ name → Assoc.get? env' other = Assoc.get? env other)
    (document? : String → Option Value) (v : Value) :
    Settings.load env document? v = Settings.load env' document? v := by
  cases v with
  | text path =>
    rw [Settings.load, Settings.load]
    cases document? path with
    | none => rfl
    | some d =>
      exact ofDocument_congr fun x hx => AlikeAt.refl (alike_of_unset hset ho hlist hs hnone hothers hx) _ _
  | _ => rfl

end Variable

/-- A variable of the environment takes precedence: if it is set, to whatever text, and for a list lists
something, then documents that agree but at its place lead to the same settings, or to the same fault. A variable
for a list that lists nothing is as good as unset. -/
theorem load_precedence {o : SectionReads} (ho : (place, o) ∈ Settings.sections) {s : String}
    (hset : Assoc.get? env name = some s) :
    ((name, key) ∈ o.settings ∨ (name, key) ∈ o.lists ∧ commaParts s ≠ [] →
      ∀ d d', AgreeBut (place ++ [key]) d d' → ∀ path,
        Settings.load env (fun _ => some d) (.text path) =
          Settings.load env (fun _ => some d') (.text path)) ∧
    ((name, key) ∈ o.lists → commaParts s = [] →
      ∀ env', Assoc.get? env' name = none →
        (∀ other, other ≠ name → Assoc.get? env' other = Assoc.get? env other) →
        ∀ document? v, Settings.load env document? v = Settings.load env' document? v) := by
  constructor
  · intro hlisted d d' hd path
    exact load_of_agreeBut hset ho hlisted hd path
  · intro hlist hs env' hnone hothers document? v
    exact load_of_unset hset ho hlist hs hnone hothers document? v

/-- Maps of one entry agree but within it. -/
theorem AgreeBut.single (name : String) {v w : Value} (h : AgreeBut place v w) :
    AgreeBut (name :: place) (.map [(name, v)]) (.map [(name, w)]) := by
  refine .inside rfl rfl (fun other hother => by simp [Assoc.get?, hother.symm]) ?_
  simpa [Value.get, Value.ofOption, Assoc.get?] using h

/-- A document with one option in one section. -/
def oneOption (head option : String) (v : Value) : Value := .map [(head, .map [(option, v)])]

theorem oneOption_agreeBut (head option : String) (v w : Value) :
    AgreeBut [head, option] (oneOption head option v) (oneOption head option w) :=
  .single head (.single option (.there v w))

theorem notifications_mem_sections : (["notifications"], notificationReads) ∈ Settings.sections := by
  simp [Settings.sections]

/-- A blank port is the same under two ports of the document, and commas alone are as good as no variable. -/
theorem load_precedence_blank :
    Settings.load [("MQTT_BROKER_PORT", " ")] (fun _ => some (oneOption "mqtt" "port" (.int 1))) (.text "a") =
      Settings.load [("MQTT_BROKER_PORT", " ")] (fun _ => some (oneOption "mqtt" "port" .null)) (.text "a") ∧
    Settings.load [("NOTIFY_WEBHOOK_URLS", ",")]
        (fun _ => some (oneOption "notifications" "webhook_urls" (.list [.text "http://a"]))) (.text "a") =
      Settings.load []
        (fun _ => some (oneOption "notifications" "webhook_urls" (.list [.text "http://a"]))) (.text "a") := by
  have hbroker : (["mqtt"], brokerReads) ∈ Settings.sections := by simp [Settings.sections]
  have hport : Assoc.get? [("MQTT_BROKER_PORT", " ")] "MQTT_BROKER_PORT" = some " " := rfl
  have hread : ("MQTT_BROKER_PORT", "port") ∈ brokerReads.settings := by decide
  have hurls : Assoc.get? [("NOTIFY_WEBHOOK_URLS", ",")] "NOTIFY_WEBHOOK_URLS" = some "," := rfl
  have hlist : ("NOTIFY_WEBHOOK_URLS", "webhook_urls") ∈ notificationReads.lists := by decide
  constructor
  · exact (load_precedence hbroker hport).1 (.inl hread) _ _ (oneOption_agreeBut "mqtt" "port" _ _) "a"
  · refine (load_precedence notifications_mem_sections hurls).2 hlist (by decide +kernel) [] rfl ?_ _ _
    intro other hother
    simp [Assoc.get?, hother.symm]

/-- A variable for a list that is set to nothing does not decide its setting. -/
theorem load_of_empty :
    AgreeBut ["notifications", "webhook_urls"]
      (oneOption "notifications" "webhook_urls" (.list [.text "http://a"]))
      (oneOption "notifications" "webhook_urls" (.list [])) ∧
    Settings.load [("NOTIFY_WEBHOOK_URLS", "")]
        (fun _ => some (oneOption "notifications" "webhook_urls" (.list [.text "http://a"]))) (.text "a") ≠
      Settings.load [("NOTIFY_WEBHOOK_URLS", "")]
        (fun _ => some (oneOption "notifications" "webhook_urls" (.list []))) (.text "a") := by
  refine ⟨oneOption_agreeBut _ _ _ _, fun hsame => ?_⟩
  have hset : Assoc.get? [("NOTIFY_WEBHOOK_URLS", "")] "NOTIFY_WEBHOOK_URLS" = some "" := rfl
  have hlist : ("NOTIFY_WEBHOOK_URLS", "webhook_urls") ∈ notificationReads.lists := by decide
  have hnone : Assoc.get? ([] : Environment) "NOTIFY_WEBHOOK_URLS" = none := rfl
  have hunset := load_of_unset hset notifications_mem_sections hlist (by decide +kernel) hnone
    (fun other hother => by simp [Assoc.get?, hother.symm])
  rw [hunset, hunset] at hsame
  have hurls : (Except.ok (.list [.text "http://a"]) : Except Fault Value) = .ok (.list []) :=
    congrArg (Except.map fun s : Settings => s.notifications.webhookUrls) hsame
  simp at hurls

end EventHub
