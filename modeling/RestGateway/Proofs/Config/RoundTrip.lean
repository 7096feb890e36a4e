import Mathlib
import RestGateway.Proofs.Config.Readable
import RestGateway.Proofs.Json.RoundTrip

/-! A configuration that is written as JSON reads back as the configuration, from the value and from
its text. What is read from the text has its members in another order, which makes no difference
since settings commute. -/
namespace RestGateway

/-! ### Values as documents -/

namespace Document

lemma ofMembers_eq_map (members : List (String × Json)) :
    ofMembers members = members.map fun m => (m.1, ofJson m.2) := by
  induction members with
  | nil => rfl
  | cons m members ih => rw [ofMembers, ih, List.map_cons]

@[simp]
lemma ofJson_object (members : List (String × Json)) :
    ofJson (.object members) = table (members.map fun m => (m.1, ofJson m.2)) := by
  rw [ofJson, ofMembers_eq_map]

@[simp]
lemma ofJson_string (s : String) : ofJson (.string s) = string s := by
  rw [ofJson]

@[simp]
lemma ofJson_bool (b : Bool) : ofJson (.bool b) = bool b := by
  rw [ofJson]

@[simp]
lemma ofJson_ofNat (n : Nat) : ofJson (.ofNat n) = integer n := by
  rw [Json.ofNat, ofJson]

lemma readTexts_table {texts : Dict String} (h : texts.Ascending) :
    readTexts (table (texts.map fun entry => (entry.1, string entry.2))) = .ok texts := by
  induction texts with
  | nil => rfl
  | cons entry texts ih =>
    obtain ⟨key, text⟩ := entry
    have htexts := (Dict.ascending_cons.mp h).2
    have hnew : Dict.insertNew key text (Dict.ofList texts) = (key, text) :: texts :=
      Dict.ofList_of_ascending h
    rw [Dict.ofList_of_ascending htexts] at hnew
    change (readTexts (table _) >>= fun rest => .ok (Dict.insertNew key text rest)) = _
    rw [ih htexts, ok_bind, hnew]

end Document

namespace Config
open Document (Dialect Setting)

/-! ### Sections -/

section
variable {dialect : Dialect} {called : String}

lemma Listener.readSection_json (l : Listener) :
    Document.readSection called settings {} dialect (.ofJson l.json) = .ok l := by
  simp [json, settings, Document.readSection, Document.readSettings]

lemma Service.readSection_json (s : Service) :
    Document.readSection called settings {} dialect (.ofJson s.json) = .ok s := by
  simp [json, settings, Document.readSection, Document.readSettings]

lemma HealthCheck.readSection_json (h : HealthCheck) :
    Document.readSection called settings {} dialect (.ofJson h.json) = .ok h := by
  simp [json, settings, Document.readSection, Document.readSettings]

lemma Routing.readSection_json {r : Routing} (h : r.routes.Ascending) :
    Document.readSection called settings {} dialect (.ofJson r.json) = .ok r := by
  simp [json, settings, Document.readSection, Document.readSettings, Function.comp_def,
    Document.readTexts_table h]

lemma Observability.readSection_json (o : Observability) :
    Document.readSection called settings {} dialect (.ofJson o.json) = .ok o := by
  simp [json, settings, Document.readSection, Document.readSettings, LogFormat.readChoice_name]

/-- A document that has every section. -/
lemma ofDocument_sections {c : Config}
    {listener service healthCheck routing observability : Document}
    (hlistener : Document.readSection "ListenerConfig" Listener.settings {} dialect listener =
      .ok c.listener)
    (hservice : Document.readSection "DownstreamConfig" Service.settings {} dialect service =
      .ok c.service)
    (hhealth : Document.readSection "HealthCheckConfig" HealthCheck.settings {} dialect
      healthCheck = .ok c.healthCheck)
    (hrouting : Document.readSection "RoutingConfig" Routing.settings {} dialect routing =
      .ok c.routing)
    (hobservability : Document.readSection "ObservabilityConfig" Observability.settings {} dialect
      observability = .ok c.observability) :
    ofDocument dialect (.table [("listener", listener), ("downstream", service),
      ("health_check", healthCheck), ("routing", routing), ("observability", observability)]) =
      .ok c := by
  change Document.readSettings dialect settings {} _ = _
  simp [settings, Document.readSettings, hlistener, hservice, hhealth, hrouting, hobservability]

/-- The value of a configuration says what the configuration is. -/
theorem ofDocument_json {c : Config} (h : c.routing.routes.Ascending) :
    ofDocument dialect (.ofJson c.json) = .ok c := by
  rw [json, Document.ofJson_object]
  exact ofDocument_sections c.listener.readSection_json c.service.readSection_json
    c.healthCheck.readSection_json (Routing.readSection_json h) c.observability.readSection_json

/-! ### Texts -/

lemma Listener.settings_commute : settings.Pairwise Setting.Commutes := by
  simp [settings, Setting.commutes_of]

lemma Service.settings_commute : settings.Pairwise Setting.Commutes := by
  simp [settings, Setting.commutes_of]

lemma HealthCheck.settings_commute : settings.Pairwise Setting.Commutes := by
  simp [settings, Setting.commutes_of]

lemma Routing.settings_commute : settings.Pairwise Setting.Commutes := by
  simp [settings, Setting.commutes_of]

lemma Observability.settings_commute : settings.Pairwise Setting.Commutes := by
  simp [settings, Setting.commutes_of]

lemma settings_commute : settings.Pairwise Setting.Commutes := by
  simp [settings, Setting.commutes_of]

/-- The value with the members of an object in order. -/
def sorted : Json → Json
  | .object members => .object (Dict.ofList members)
  | v => v

lemma readSection_sorted {σ : Type} {settings : List (Setting σ)} {usual x : σ}
    (hcomm : settings.Pairwise Setting.Commutes) {members : List (String × Json)}
    (hnames : (members.map Prod.fst).Nodup)
    (h : Document.readSection called settings usual dialect (.ofJson (.object members)) = .ok x) :
    Document.readSection called settings usual dialect (.ofJson (sorted (.object members))) =
      .ok x := by
  rw [Document.ofJson_object] at h
  rw [sorted, Document.ofJson_object]
  refine Document.readSettings_perm hcomm ((Dict.ofList_perm hnames).symm.map _) ?_ h
  rwa [List.map_map]

/-- The numbers of a configuration are words of 64 bits. -/
structure IsSized (c : Config) : Prop where
  maxConcurrency : (c.listener.maxConcurrency : Int) ≤ Json.greatestInteger
  maxBodyBytes : (c.listener.maxBodyBytes : Int) ≤ Json.greatestInteger
  requestTimeout : (c.service.requestTimeoutSeconds : Int) ≤ Json.greatestInteger
  maxRequestTimeout : (c.service.maxRequestTimeoutSeconds : Int) ≤ Json.greatestInteger
  connectTimeout : (c.service.connectTimeoutSeconds : Int) ≤ Json.greatestInteger
  healthTimeout : (c.healthCheck.timeoutSeconds : Int) ≤ Json.greatestInteger

lemma isExact_ofNat {n : Nat} (h : (n : Int) ≤ Json.greatestInteger) : (Json.ofNat n).IsExact :=
  .integer (by rw [Json.leastInteger]; omega) h

lemma isExact_texts {texts : Dict String} (h : texts.Ascending) :
    (Json.object (texts.map fun (key, text) => (key, .string text))).IsExact := by
  refine .object ?_ fun m hm => ?_
  · simpa [Dict.Ascending, Dict.keys, Function.comp_def] using h
  · obtain ⟨entry, -, rfl⟩ := List.mem_map.mp hm
    exact .string entry.2

lemma depth_texts (texts : Dict String) :
    (Json.object (texts.map fun (key, text) => (key, .string text))).depth ≤ 1 := by
  induction texts with
  | nil => simp [Json.depth, Json.depthOfMembers]
  | cons entry texts ih => simpa [Json.depth, Json.depthOfMembers] using ih

lemma depth_ofNat (n : Nat) : (Json.ofNat n).depth = 0 := rfl

section
variable {c : Config} (hsize : c.IsSized) (d : Nat)
include hsize

lemma readsBack_listener : Json.ReadsBack (Json.readValue (d + 2)) c.listener.json.text
    (sorted c.listener.json) := by
  refine Json.readsBack_members ?_ ?_
  · simp [Json.IsExact.string, isExact_ofNat hsize.maxConcurrency, isExact_ofNat hsize.maxBodyBytes]
  · simp [Json.depthOfMembers, Json.depth, depth_ofNat]

lemma readsBack_service : Json.ReadsBack (Json.readValue (d + 2)) c.service.json.text
    (sorted c.service.json) := by
  refine Json.readsBack_members ?_ ?_
  · simp [Json.IsExact.string, isExact_ofNat hsize.requestTimeout,
      isExact_ofNat hsize.maxRequestTimeout, isExact_ofNat hsize.connectTimeout]
  · simp [Json.depthOfMembers, Json.depth, depth_ofNat]

lemma readsBack_healthCheck : Json.ReadsBack (Json.readValue (d + 2)) c.healthCheck.json.text
    (sorted c.healthCheck.json) := by
  refine Json.readsBack_members ?_ ?_
  · simp [Json.IsExact.string, isExact_ofNat hsize.healthTimeout]
  · simp [Json.depthOfMembers, Json.depth, depth_ofNat]

end

lemma readsBack_routing {r : Routing} (h : r.routes.Ascending) (d : Nat) :
    Json.ReadsBack (Json.readValue (d + 2)) r.json.text (sorted r.json) := by
  have hdepth := depth_texts r.routes
  refine Json.readsBack_members ?_ ?_
  · simpa [Json.IsExact.string, Json.IsExact.bool] using isExact_texts h
  · simp [Json.depthOfMembers, Json.depth] at hdepth ⊢
    omega

lemma readsBack_observability (o : Observability) (d : Nat) :
    Json.ReadsBack (Json.readValue (d + 2)) o.json.text (sorted o.json) := by
  refine Json.readsBack_members ?_ ?_
  · simp [Json.IsExact.string, Json.IsExact.bool]
  · simp [Json.depthOfMembers, Json.depth]

/-- What the text of a configuration is read as. -/
def sortedJson (c : Config) : Json :=
  sorted (.object [("listener", sorted c.listener.json), ("downstream", sorted c.service.json),
    ("health_check", sorted c.healthCheck.json), ("routing", sorted c.routing.json),
    ("observability", sorted c.observability.json)])

lemma parse_json {c : Config} (h : c.routing.routes.Ascending) (hsize : c.IsSized) :
    Json.parse c.json.compact = .ok c.sortedJson := by
  rw [Json.parse, Json.compact, String.toList_ofList]
  refine Json.decodeWith_of_readsBack (Json.readsBack_object ?_)
  exact .cons ⟨rfl, readsBack_listener hsize 124⟩ <| .cons ⟨rfl, readsBack_service hsize 124⟩ <|
    .cons ⟨rfl, readsBack_healthCheck hsize 124⟩ <| .cons ⟨rfl, readsBack_routing h 124⟩ <|
    .cons ⟨rfl, readsBack_observability c.observability 124⟩ .nil

/-- The order of the members makes no difference. -/
theorem ofDocument_sortedJson {c : Config} (h : c.routing.routes.Ascending) :
    ofDocument dialect (.ofJson c.sortedJson) = .ok c := by
  refine readSection_sorted settings_commute (by simp) ?_
  rw [Document.ofJson_object]
  exact ofDocument_sections
    (readSection_sorted Listener.settings_commute (by simp) c.listener.readSection_json)
    (readSection_sorted Service.settings_commute (by simp) c.service.readSection_json)
    (readSection_sorted HealthCheck.settings_commute (by simp) c.healthCheck.readSection_json)
    (readSection_sorted Routing.settings_commute (by simp) (Routing.readSection_json h))
    (readSection_sorted Observability.settings_commute (by simp) c.observability.readSection_json)

end

end Config

end RestGateway
