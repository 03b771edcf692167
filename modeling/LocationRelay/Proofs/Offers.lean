import LocationRelay.Proofs.Checks
import LocationRelay.Proofs.LowerCase
import LocationRelay.Proofs.TextBytes
import LocationRelay.Settings.File

/-! # What settings are offered

A file and an environment each offer values for some of the settings, and a setting that is not offered stays
what it was. Texts are offered trimmed and never blank, periods never zero, and the defaults are no different,
so settings are well formed wherever they come from. The same offer made again changes nothing.
-/
namespace LocationRelay

open Text (Blank Tidy)

namespace Settings

structure Offer where
  bind : Option String
  metricsBind : Option String
  healthBind : Option String
  authHeader : Option String
  algorithm : Option SigningAlgorithm
  livenessPeriod : Option Nat
  maxMissedProbes : Option Nat
  handshakeTimeout : Option Nat
  brokerUrl : Option String
  exchange : Option String
  databaseUrl : Option String

/-- The settings with what is offered in its place. At least one missed round of probes is always allowed. -/
def taking (s : Settings) (o : Offer) : Settings where
  server := {
    bind := o.bind.getD s.server.bind
    metricsBind := o.metricsBind.or s.server.metricsBind
    healthBind := o.healthBind.or s.server.healthBind
    authHeader := o.authHeader.getD s.server.authHeader
    algorithm := o.algorithm.getD s.server.algorithm
    livenessPeriod := o.livenessPeriod.getD s.server.livenessPeriod
    maxMissedProbes := max 1 (o.maxMissedProbes.getD s.server.maxMissedProbes)
    handshakeTimeout := o.handshakeTimeout.getD s.server.handshakeTimeout }
  broker := {
    url := (o.brokerUrl.map Secret.mk).getD s.broker.url
    exchange := o.exchange.getD s.broker.exchange }
  identity := { s.identity with
    databaseUrl := (o.databaseUrl.map Secret.mk).or s.identity.databaseUrl }

theorem taking_taking (s : Settings) (o : Offer) : (s.taking o).taking o = s.taking o := by
  have hget : ∀ {α : Type} (offered : Option α) (held : α),
      offered.getD (offered.getD held) = offered.getD held := by
    intro α offered held
    cases offered <;> rfl
  have hor : ∀ {α : Type} (offered held : Option α),
      offered.or (offered.or held) = offered.or held := by
    intro α offered held
    rw [← Option.or_assoc, Option.or_self]
  have hprobes : ∀ (offered : Option Nat) (held : Nat),
      max 1 (offered.getD (max 1 (offered.getD held))) = max 1 (offered.getD held) := by
    intro offered held
    cases offered with
    | none => exact max_eq_right (le_max_left 1 held)
    | some n => rfl
  simp only [taking, hget, hor, hprobes]

/-! ## Well-formed settings -/

structure IsFieldName (name : String) : Prop where
  tidy : Tidy name.toList
  lower : ∀ c ∈ name.toList, c.isUpper = false

structure WellFormed (s : Settings) : Prop where
  bind : Tidy s.server.bind.toList
  metricsBind : ∀ a ∈ s.server.metricsBind, Tidy a.toList
  healthBind : ∀ a ∈ s.server.healthBind, Tidy a.toList
  authHeader : IsFieldName s.server.authHeader
  livenessPeriod : 1 ≤ s.server.livenessPeriod
  maxMissedProbes : 1 ≤ s.server.maxMissedProbes
  handshakeTimeout : 1 ≤ s.server.handshakeTimeout
  brokerUrl : Tidy s.broker.url.exposed.toList
  exchange : Tidy s.broker.exchange.toList
  databaseUrl : ∀ u ∈ s.identity.databaseUrl, Tidy u.exposed.toList
  staticKeys : ∀ user path, s.identity.staticKeys.get? user = some path → ¬ Blank user ∧ ¬ Blank path

structure Offer.Sound (o : Offer) : Prop where
  bind : ∀ a ∈ o.bind, Tidy a.toList
  metricsBind : ∀ a ∈ o.metricsBind, Tidy a.toList
  healthBind : ∀ a ∈ o.healthBind, Tidy a.toList
  authHeader : ∀ name ∈ o.authHeader, IsFieldName name
  livenessPeriod : ∀ n ∈ o.livenessPeriod, 1 ≤ n
  handshakeTimeout : ∀ n ∈ o.handshakeTimeout, 1 ≤ n
  brokerUrl : ∀ u ∈ o.brokerUrl, Tidy u.toList
  exchange : ∀ x ∈ o.exchange, Tidy x.toList
  databaseUrl : ∀ u ∈ o.databaseUrl, Tidy u.toList

theorem WellFormed.taking {s : Settings} (h : s.WellFormed) {o : Offer} (ho : o.Sound) :
    (s.taking o).WellFormed where
  bind := Option.forall_getD ho.bind h.bind
  metricsBind := Option.forall_mem_or ho.metricsBind h.metricsBind
  healthBind := Option.forall_mem_or ho.healthBind h.healthBind
  authHeader := Option.forall_getD ho.authHeader h.authHeader
  livenessPeriod := Option.forall_getD ho.livenessPeriod h.livenessPeriod
  maxMissedProbes := le_max_left _ _
  handshakeTimeout := Option.forall_getD ho.handshakeTimeout h.handshakeTimeout
  brokerUrl := Option.forall_getD (P := fun u : Secret => Tidy u.exposed.toList) (Option.forall_mem_map.mpr ho.brokerUrl) h.brokerUrl
  exchange := Option.forall_getD ho.exchange h.exchange
  databaseUrl := Option.forall_mem_or (Option.forall_mem_map.mpr ho.databaseUrl) h.databaseUrl
  staticKeys := h.staticKeys

/-! ## What a file offers -/

theorem tidy_setting? {written : Option String} : ∀ t ∈ setting? written, Tidy t.toList := by
  intro t ht
  obtain ⟨s, -, hs⟩ := Option.bind_eq_some_iff.mp ht
  exact Text.tidy_of_nonBlank? hs

theorem isFieldName_lowerAscii {name : String} (h : Tidy name.toList) :
    IsFieldName (Text.lowerAscii name) :=
  ⟨h.lowerAscii, Text.isUpper_lowerAscii name⟩

theorem isFieldName_default : IsFieldName defaultAuthHeader := by
  have hlower : Text.lowerAscii defaultAuthHeader = defaultAuthHeader := by decide +kernel
  exact hlower ▸ isFieldName_lowerAscii (by decide)

theorem one_le_positive? {written : Option Nat} : ∀ n ∈ positive? written, 1 ≤ n := by
  intro n hn
  exact of_decide_eq_true (Option.filter_eq_some_iff.mp hn).2

end Settings

namespace WrittenSettings

open Settings

def offer (w : WrittenSettings) : Offer where
  bind := setting? w.bind
  metricsBind := setting? w.metricsBind
  healthBind := setting? w.healthBind
  authHeader := (setting? w.authHeader).map Text.lowerAscii
  algorithm := algorithm? w.algorithm
  livenessPeriod := positive? w.livenessPeriod
  maxMissedProbes := w.maxMissedProbes
  handshakeTimeout := positive? w.handshakeTimeout
  brokerUrl := setting? w.brokerUrl
  exchange := setting? w.exchange
  databaseUrl := setting? w.databaseUrl

theorem sound_offer (w : WrittenSettings) : w.offer.Sound where
  bind := tidy_setting?
  metricsBind := tidy_setting?
  healthBind := tidy_setting?
  authHeader := Option.forall_mem_map.mpr fun name hname => isFieldName_lowerAscii (tidy_setting? name hname)
  livenessPeriod := one_le_positive?
  handshakeTimeout := one_le_positive?
  brokerUrl := tidy_setting?
  exchange := tidy_setting?
  databaseUrl := tidy_setting?

end WrittenSettings

namespace Settings

def keyTable (written : List (String × String)) : Table String String :=
  (written.filter fun e => !Blank e.1 && !Blank e.2).foldl (fun t e => t.insert e.1 e.2) ∅

theorem ofWritten_eq (w : WrittenSettings) :
    ofWritten w = Settings.taking { identity := { staticKeys := keyTable w.staticKeys } } w.offer := by
  simp only [ofWritten, taking, WrittenSettings.offer, keyTable, Option.or_none]

theorem foldl_insert_get? {P : String → String → Prop} (es : List (String × String)) {t : Table String String}
    (ht : ∀ user path, t.get? user = some path → P user path) (hes : ∀ e ∈ es, P e.1 e.2) :
    ∀ user path, (es.foldl (fun t e => t.insert e.1 e.2) t).get? user = some path → P user path := by
  induction es generalizing t with
  | nil => exact ht
  | cons e es ih =>
    refine ih (fun user path hget => ?_) fun e' he' => hes e' (List.mem_cons_of_mem e he')
    rw [Table.get?_insert] at hget
    split at hget
    · next huser =>
      subst huser
      cases hget
      exact hes e List.mem_cons_self
    · exact ht user path hget

theorem keyTable_not_blank (es : List (String × String)) :
    ∀ user path, (keyTable es).get? user = some path → ¬ Blank user ∧ ¬ Blank path := by
  refine foldl_insert_get? _ (fun user path hget => nomatch hget) fun e he => ?_
  simpa using (List.mem_filter.mp he).2

theorem wellFormed_default : ({} : Settings).WellFormed where
  bind := by decide
  metricsBind := nofun
  healthBind := nofun
  authHeader := isFieldName_default
  livenessPeriod := by decide
  maxMissedProbes := by decide
  handshakeTimeout := by decide
  brokerUrl := by decide
  exchange := by decide
  databaseUrl := nofun
  staticKeys := nofun

theorem wellFormed_ofWritten (w : WrittenSettings) : (ofWritten w).WellFormed := by
  have hkeys : WellFormed { identity := { staticKeys := keyTable w.staticKeys } } :=
    { wellFormed_default with staticKeys := keyTable_not_blank w.staticKeys }
  rw [ofWritten_eq]
  exact hkeys.taking w.sound_offer

theorem ofFile_encode {text : String} {w : WrittenSettings}
    (h : (Toml.read? text).bind WrittenSettings.ofEntries? = some w) :
    ofFile (.bytes (Text.encode text)) = .ok (ofWritten w) := by
  simp only [ofFile, Text.decode_encode, h]

theorem ofFile_eq_ok {content : FileContent} {held : Settings} (h : ofFile content = .ok held) :
    ∃ w, held = ofWritten w := by
  unfold ofFile at h
  split at h
  · exact ⟨{}, (Except.ok.inj h).symm⟩
  · cases h
  · split at h
    · cases h
    · split at h
      · cases h
      · next w _ => exact ⟨w, (Except.ok.inj h).symm⟩

end Settings

/-! ## What an environment offers -/

namespace Environment

def offer (env : Environment) : Settings.Offer where
  bind := (env.get? "WAYPOINT_BIND").or env.bindAtPort?
  metricsBind := env.get? "WAYPOINT_METRICS_BIND"
  healthBind := env.get? "WAYPOINT_HEALTH_BIND"
  authHeader := (env.get? "WAYPOINT_AUTH_HEADER").map Text.lowerAscii
  algorithm := (env.get? "WAYPOINT_JWT_ALGORITHM").bind fun name => (SigningAlgorithm.parse? name).toOption
  livenessPeriod := Settings.positive? (env.number? Text.maxU64 "WAYPOINT_LIVENESS_PERIOD_SECS")
  maxMissedProbes := env.number? Text.maxU32 "WAYPOINT_MAX_MISSED_PROBES"
  handshakeTimeout := Settings.positive? (env.number? Text.maxU64 "WAYPOINT_HANDSHAKE_TIMEOUT_SECS")
  brokerUrl := (env.get? "WAYPOINT_BROKER_URL").or env.brokerUrl?
  exchange := env.get? "WAYPOINT_BROKER_EXCHANGE"
  databaseUrl := (env.get? "WAYPOINT_DATABASE_URL").or (env.get? "PG_URL")

variable (env : Environment)

theorem override_eq (s : Settings) : s.override env = s.taking env.offer := rfl

theorem tidy_get? {name : String} : ∀ t ∈ env.get? name, Tidy t.toList := Settings.tidy_setting?

theorem tidy_bindAtPort? : ∀ a ∈ env.bindAtPort?, Tidy a.toList := by
  refine Option.forall_mem_map.mpr fun port _ => ?_
  have hdigit : ∀ c ∈ Nat.toDigits 10 port, Text.isBlank c = false := by
    intro c hc
    have hbounds := Text.isDigit_bounds (Nat.isDigit_of_mem_toDigits (by decide) (by decide) hc)
    exact Text.isBlank_of_visible (by omega)
  have hopening : Tidy "ws://0.0.0.0:".toList := by decide
  have hport : Tidy (Text.decimal port).toList := by
    rw [Text.decimal, String.toList_ofList]
    exact Text.tidy_of_not_blank Nat.toDigits_ne_nil hdigit
  exact hopening.append_text hport

def composedUrl (host user password vhost : Option String) : String :=
  "amqp://" ++ user.getD "rabbitmq" ++ ":" ++ password.getD "rabbitmq" ++ "@" ++ host.getD "rabbit" ++ "/" ++
    vhost.getD ""

theorem tidy_composedUrl (host user password : Option String) {vhost : Option String}
    (h : ∀ v ∈ vhost, Tidy v.toList) : Tidy (composedUrl host user password vhost).toList := by
  have hopening : Tidy "amqp://".toList := by decide
  have hpath : Tidy ("/" ++ vhost.getD "").toList := by
    have hslash : Tidy "/".toList := by decide
    cases vhost with
    | none => exact hslash
    | some v => exact hslash.append_text (h v rfl)
  have hsplit : composedUrl host user password vhost = "amqp://" ++ (user.getD "rabbitmq" ++ ":" ++
      password.getD "rabbitmq" ++ "@" ++ host.getD "rabbit") ++ ("/" ++ vhost.getD "") := by
    simp only [composedUrl, String.append_assoc]
  rw [hsplit, String.toList_append, String.toList_append]
  exact hopening.append hpath _

def brokerHost? : Option String := ((env "RABBITMQ_HOST").or (env "RABBIT_MQ_HOST")).bind Text.nonBlank?

/-- The composed address of the broker if its host were this one. -/
def brokerUrlAt? (host : Option String) : Option String :=
  if host.isNone && (env.get? "RABBITMQ_USER").isNone && (env.get? "RABBITMQ_PASS").isNone &&
      (env.get? "RABBITMQ_VHOST").isNone then none
  else some (composedUrl host (env.get? "RABBITMQ_USER") (env.get? "RABBITMQ_PASS") (env.get? "RABBITMQ_VHOST"))

theorem brokerUrl?_eq : env.brokerUrl? = env.brokerUrlAt? env.brokerHost? := rfl

theorem tidy_brokerUrlAt? (host : Option String) : ∀ u ∈ env.brokerUrlAt? host, Tidy u.toList := by
  intro u hu
  obtain ⟨-, hurl⟩ := Option.ite_none_left_eq_some.mp hu
  rw [← Option.some.inj hurl]
  exact tidy_composedUrl _ _ _ env.tidy_get?

theorem sound_offer : env.offer.Sound where
  bind := Option.forall_mem_or env.tidy_get? env.tidy_bindAtPort?
  metricsBind := env.tidy_get?
  healthBind := env.tidy_get?
  authHeader := Option.forall_mem_map.mpr fun name hname =>
    Settings.isFieldName_lowerAscii (env.tidy_get? name hname)
  livenessPeriod := Settings.one_le_positive?
  handshakeTimeout := Settings.one_le_positive?
  brokerUrl := Option.forall_mem_or env.tidy_get? (env.tidy_brokerUrlAt? env.brokerHost?)
  exchange := env.tidy_get?
  databaseUrl := Option.forall_mem_or env.tidy_get? env.tidy_get?

end Environment

namespace Settings

/-- Whatever the file and the environment say, the settings are well formed, and a second run of the overrides
changes nothing. -/
theorem loaded_well_formed {content : FileContent} {held : Settings} (h : ofFile content = .ok held)
    (env : Environment) :
    ∃ s, load content env = .ok s ∧ s.WellFormed ∧ s.override env = s := by
  have hheld : held.WellFormed := by
    obtain ⟨w, rfl⟩ := ofFile_eq_ok h
    exact wellFormed_ofWritten w
  refine ⟨held.override env, ?_, ?_, ?_⟩
  · rw [load, h]
    rfl
  · exact hheld.taking env.sound_offer
  · exact taking_taking held env.offer

namespace Sample

def text : String :=
  "[server]\nbind = \" \"\nauth_header = \" X-Token \"\nmax_missed_probes = 3\n[broker]\nexchange = \"relay\"\n"

def environment : Environment := fun name =>
  ([("WS_GATEWAY_PORT", " 8080 "), ("WAYPOINT_MAX_MISSED_PROBES", "0"), ("WAYPOINT_LIVENESS_PERIOD_SECS", "0"),
    ("RABBITMQ_VHOST", " relay\t"), ("PG_URL", "\n")] : List (String × String)).lookup name

end Sample

/-- What would not do is written in the file and in the environment. -/
theorem loaded_well_formed_lax :
    ∃ held, ofFile (.bytes (Text.encode Sample.text)) = .ok held ∧
      ∃ s, load (.bytes (Text.encode Sample.text)) Sample.environment = .ok s ∧ s.WellFormed ∧
        s.override Sample.environment = s := by
  have hsome : ((Toml.read? Sample.text).bind WrittenSettings.ofEntries?).isSome = true := by decide +kernel
  obtain ⟨w, hw⟩ := Option.isSome_iff_exists.mp hsome
  exact ⟨ofWritten w, ofFile_encode hw, loaded_well_formed (ofFile_encode hw) Sample.environment⟩

end Settings

end LocationRelay
