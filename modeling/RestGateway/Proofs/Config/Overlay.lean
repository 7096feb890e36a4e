import Mathlib
import RestGateway.Config.Loader
import RestGateway.Proofs.Config.RoundTrip

/-! A document is an overlay on the usual configuration: field by field, and the table of routes as
a whole. Entries with unknown names do not count, and a configuration that is written out reads back
as it was. -/
namespace RestGateway.Config
open Document (Dialect Settled)

/-! ### Documents and configurations -/

structure Listener.Overlays (d : Document) (l : Listener) : Prop where
  bindAddress : Settled Document.IsText ({} : Listener).bindAddress
    (d.part? "bind_address" 0) l.bindAddress
  maxConcurrency : Settled Document.IsCount ({} : Listener).maxConcurrency
    (d.part? "max_concurrency" 1) l.maxConcurrency
  maxBodyBytes : Settled Document.IsCount ({} : Listener).maxBodyBytes
    (d.part? "max_body_bytes" 2) l.maxBodyBytes

structure Service.Overlays (d : Document) (s : Service) : Prop where
  baseUrl : Settled Document.IsText ({} : Service).baseUrl (d.part? "base_url" 0) s.baseUrl
  requestTimeoutSeconds : Settled Document.IsCount ({} : Service).requestTimeoutSeconds
    (d.part? "request_timeout_secs" 1) s.requestTimeoutSeconds
  maxRequestTimeoutSeconds : Settled Document.IsCount ({} : Service).maxRequestTimeoutSeconds
    (d.part? "max_request_timeout_secs" 2) s.maxRequestTimeoutSeconds
  connectTimeoutSeconds : Settled Document.IsCount ({} : Service).connectTimeoutSeconds
    (d.part? "connect_timeout_secs" 3) s.connectTimeoutSeconds
  userAgent : Settled Document.IsText ({} : Service).userAgent (d.part? "user_agent" 4) s.userAgent

structure HealthCheck.Overlays (d : Document) (h : HealthCheck) : Prop where
  path : Settled Document.IsText ({} : HealthCheck).path (d.part? "path" 0) h.path
  timeoutSeconds : Settled Document.IsCount ({} : HealthCheck).timeoutSeconds
    (d.part? "timeout_secs" 1) h.timeoutSeconds

/-- Routes are settled by their table as a whole: there is none that is not in it. -/
structure Routing.Overlays (d : Document) (r : Routing) : Prop where
  routes : Settled Document.IsTexts ({} : Routing).routes (d.part? "routes" 0) r.routes
  fallbackStart : Settled Document.IsText ({} : Routing).fallbackStart
    (d.part? "fallback_prefix" 1) r.fallbackStart
  stripBoundParams : Settled Document.IsSwitch ({} : Routing).stripBoundParams
    (d.part? "strip_bound_params" 2) r.stripBoundParams

structure Observability.Overlays (dialect : Dialect) (d : Document) (o : Observability) : Prop where
  logLevel : Settled Document.IsText ({} : Observability).logLevel
    (d.part? "log_level" 0) o.logLevel
  logFormat : Settled (LogFormat.IsNamed dialect) ({} : Observability).logFormat
    (d.part? "log_format" 1) o.logFormat
  metricsEnabled : Settled Document.IsSwitch ({} : Observability).metricsEnabled
    (d.part? "metrics_enabled" 2) o.metricsEnabled
  metricsAddress : Settled Document.IsText ({} : Observability).metricsAddress
    (d.part? "metrics_address" 3) o.metricsAddress

/-- The configuration has what the document says, and for the rest the usual values. -/
structure Overlays (dialect : Dialect) (d : Document) (c : Config) : Prop where
  listener : Settled Listener.Overlays {} (d.part? "listener" 0) c.listener
  service : Settled Service.Overlays {} (d.part? "downstream" 1) c.service
  healthCheck : Settled HealthCheck.Overlays {} (d.part? "health_check" 2) c.healthCheck
  routing : Settled Routing.Overlays {} (d.part? "routing" 3) c.routing
  observability : Settled (Observability.Overlays dialect) {} (d.part? "observability" 4)
    c.observability

/-- The settings of each section, by their names in documents. -/
def settingNames : List (String × List String) := [
  ("listener", ["bind_address", "max_concurrency", "max_body_bytes"]),
  ("downstream", ["base_url", "request_timeout_secs", "max_request_timeout_secs",
    "connect_timeout_secs", "user_agent"]),
  ("health_check", ["path", "timeout_secs"]),
  ("routing", ["routes", "fallback_prefix", "strip_bound_params"]),
  ("observability", ["log_level", "log_format", "metrics_enabled", "metrics_address"])]

/-- An entry that names a section, without what names no setting of it. -/
def knownEntry (entry : String × Document) : Option (String × Document) :=
  (settingNames.lookup entry.1).map fun names => (entry.1, entry.2.only names)

/-- The document without the entries that name no section or no setting. -/
def known : Document → Document
  | .table entries => .table (entries.filterMap knownEntry)
  | d => d

/-! ### What is read -/

section
variable {dialect : Dialect} {called : String} {d : Document}

lemma LogFormat.eq_name_of_readChoiceName {name : String} {format : LogFormat}
    (h : Document.readChoiceName (all.map fun format => (format.name, format)) name = .ok format) :
    name = format.name := by
  unfold Document.readChoiceName at h
  split at h
  · next x hx =>
    obtain rfl := Except.ok.inj h
    obtain ⟨before, after, hall, -⟩ := List.lookup_eq_some_iff.mp hx
    have hmem : (name, x) ∈ all.map fun format => (format.name, format) := by simp [hall]
    obtain ⟨format, -, heq⟩ := List.mem_map.mp hmem
    obtain ⟨rfl, rfl⟩ := Prod.mk.inj heq
    rfl
  · simp at h

lemma LogFormat.isNamed_of_readChoice {format : LogFormat}
    (h : Document.readChoice dialect (all.map fun format => (format.name, format)) d =
      .ok format) : format.IsNamed dialect d := by
  unfold Document.readChoice at h
  split at h
  · exact Or.inl (congrArg Document.string (eq_name_of_readChoiceName h))
  · next name content =>
    obtain ⟨x, hx, h⟩ := Json.bind_eq_ok_iff.mp h
    cases hc : dialect.contentProblem content with
    | some problem => simp [hc, throw, throwThe, MonadExceptOf.throw] at h
    | none =>
      rw [hc] at h
      obtain rfl := Except.ok.inj h
      exact Or.inr ⟨content, by rw [eq_name_of_readChoiceName hx], hc⟩
  · simp at h

theorem Listener.overlays_of_readSection {l : Listener}
    (h : Document.readSection called settings {} dialect d = .ok l) : l.Overlays d := by
  constructor
  all_goals
    refine Document.settled_of_readSection (by decide) rfl ?_ h
    simp +contextual [settings]

theorem Service.overlays_of_readSection {s : Service}
    (h : Document.readSection called settings {} dialect d = .ok s) : s.Overlays d := by
  constructor
  all_goals
    refine Document.settled_of_readSection (by decide) rfl ?_ h
    simp +contextual [settings]

theorem HealthCheck.overlays_of_readSection {c : HealthCheck}
    (h : Document.readSection called settings {} dialect d = .ok c) : c.Overlays d := by
  constructor
  all_goals
    refine Document.settled_of_readSection (by decide) rfl ?_ h
    simp +contextual [settings]

theorem Routing.overlays_of_readSection {r : Routing}
    (h : Document.readSection called settings {} dialect d = .ok r) : r.Overlays d := by
  constructor
  all_goals
    refine Document.settled_of_readSection (by decide) rfl ?_ h
    simp +contextual [settings, Document.isTexts_of_readTexts]

theorem Observability.overlays_of_readSection {o : Observability}
    (h : Document.readSection called settings {} dialect d = .ok o) : o.Overlays dialect d := by
  constructor
  all_goals
    refine Document.settled_of_readSection (by decide) rfl ?_ h
    simp +contextual [settings, LogFormat.isNamed_of_readChoice]

/-- A configuration that is read is the document laid over the usual one. -/
theorem overlays_of_ofDocument {c : Config} (h : ofDocument dialect d = .ok c) :
    c.Overlays dialect d where
  listener := Document.settled_of_readSection (by decide) rfl
    (by simpa [settings] using fun _ _ hl _ => Listener.overlays_of_readSection hl) h
  service := Document.settled_of_readSection (by decide) rfl
    (by simpa [settings] using fun _ _ hl _ => Service.overlays_of_readSection hl) h
  healthCheck := Document.settled_of_readSection (by decide) rfl
    (by simpa [settings] using fun _ _ hl _ => HealthCheck.overlays_of_readSection hl) h
  routing := Document.settled_of_readSection (by decide) rfl
    (by simpa [settings] using fun _ _ hl _ => Routing.overlays_of_readSection hl) h
  observability := Document.settled_of_readSection (by decide) rfl
    (by simpa [settings] using fun _ _ hl _ => Observability.overlays_of_readSection hl) h

end

/-! ### Unknown names -/

lemma exists_settingNames (dialect : Dialect) {s : Document.Setting Config} (hs : s ∈ settings) :
    ∃ names, settingNames.lookup s.name = some names ∧
      ∀ d : Document, s.read dialect (d.only names) = s.read dialect d := by
  simp only [settings, List.mem_cons, List.not_mem_nil, or_false] at hs
  -- the names of a section are those of its settings, so that the lookup is by computation
  rcases hs with rfl | rfl | rfl | rfl | rfl
  all_goals exact ⟨_, rfl, Document.Setting.read_ofSection_only _ _ _ _ _⟩

lemma notMem_of_knownEntry {entry : String × Document} (h : knownEntry entry = none) :
    entry.1 ∉ settings.map Document.Setting.name := by
  intro hmem
  obtain ⟨s, hs, hname⟩ := List.mem_map.mp hmem
  obtain ⟨names, hnames, -⟩ := exists_settingNames .json hs
  rw [knownEntry, ← hname, hnames] at h
  simp at h

lemma entryChange_knownEntry {dialect : Dialect} {entry other : String × Document}
    (h : knownEntry entry = some other) : Document.entryChange dialect settings other =
      Document.entryChange dialect settings entry := by
  obtain ⟨names, hnames, rfl⟩ := Option.map_eq_some_iff.mp h
  unfold Document.entryChange
  dsimp only
  split
  · rfl
  · next s hs =>
    obtain ⟨names', hnames', hread⟩ :=
      exists_settingNames dialect (List.mem_of_find?_eq_some hs)
    have hname : s.name = entry.1 := by simpa using List.find?_some hs
    rw [hname, hnames] at hnames'
    rw [Option.some.inj hnames', hread]

/-- What has an unknown name makes no difference. -/
theorem ofDocument_known (dialect : Dialect) (d : Document) :
    ofDocument dialect (known d) = ofDocument dialect d := by
  cases d with
  | table entries =>
    exact Document.readSettings_filterMap (fun _ => notMem_of_knownEntry)
      (fun _ _ => entryChange_knownEntry) _ entries
  | _ => rfl

/-! ### One configuration for a document -/

lemma LogFormat.name_injective : Function.Injective name := by
  intro f g h
  cases f <;> cases g <;> simp_all [name]

lemma LogFormat.rightUnique_isNamed (dialect : Dialect) :
    Relator.RightUnique (IsNamed dialect) := by
  rintro d f g (rfl | ⟨content, rfl, -⟩) hg
  · rcases hg with heq | ⟨content, heq, -⟩
    · exact name_injective (Document.string.inj heq)
    · simp at heq
  · rcases hg with heq | ⟨content', heq, -⟩
    · simp at heq
    · simp only [Document.table.injEq, List.cons.injEq, Prod.mk.injEq] at heq
      exact name_injective heq.1.1

lemma Listener.rightUnique_overlays : Relator.RightUnique Overlays := by
  rintro d ⟨_, _, _⟩ ⟨_, _, _⟩ h h'
  rw [mk.injEq]
  exact ⟨h.bindAddress.unique Document.rightUnique_isText h'.bindAddress,
    h.maxConcurrency.unique Document.rightUnique_isCount h'.maxConcurrency,
    h.maxBodyBytes.unique Document.rightUnique_isCount h'.maxBodyBytes⟩

lemma Service.rightUnique_overlays : Relator.RightUnique Overlays := by
  rintro d ⟨_, _, _, _, _⟩ ⟨_, _, _, _, _⟩ h h'
  rw [mk.injEq]
  exact ⟨h.baseUrl.unique Document.rightUnique_isText h'.baseUrl,
    h.requestTimeoutSeconds.unique Document.rightUnique_isCount h'.requestTimeoutSeconds,
    h.maxRequestTimeoutSeconds.unique Document.rightUnique_isCount h'.maxRequestTimeoutSeconds,
    h.connectTimeoutSeconds.unique Document.rightUnique_isCount h'.connectTimeoutSeconds,
    h.userAgent.unique Document.rightUnique_isText h'.userAgent⟩

lemma HealthCheck.rightUnique_overlays : Relator.RightUnique Overlays := by
  rintro d ⟨_, _⟩ ⟨_, _⟩ h h'
  rw [mk.injEq]
  exact ⟨h.path.unique Document.rightUnique_isText h'.path,
    h.timeoutSeconds.unique Document.rightUnique_isCount h'.timeoutSeconds⟩

lemma Routing.rightUnique_overlays : Relator.RightUnique Overlays := by
  rintro d ⟨_, _, _⟩ ⟨_, _, _⟩ h h'
  rw [mk.injEq]
  exact ⟨h.routes.unique Document.rightUnique_isTexts h'.routes,
    h.fallbackStart.unique Document.rightUnique_isText h'.fallbackStart,
    h.stripBoundParams.unique Document.rightUnique_isSwitch h'.stripBoundParams⟩

lemma Observability.rightUnique_overlays (dialect : Dialect) :
    Relator.RightUnique (Overlays dialect) := by
  rintro d ⟨_, _, _, _⟩ ⟨_, _, _, _⟩ h h'
  rw [mk.injEq]
  exact ⟨h.logLevel.unique Document.rightUnique_isText h'.logLevel,
    h.logFormat.unique (LogFormat.rightUnique_isNamed dialect) h'.logFormat,
    h.metricsEnabled.unique Document.rightUnique_isSwitch h'.metricsEnabled,
    h.metricsAddress.unique Document.rightUnique_isText h'.metricsAddress⟩

/-- A document can be laid over the usual configuration in one way only. -/
theorem rightUnique_overlays (dialect : Dialect) : Relator.RightUnique (Overlays dialect) := by
  rintro d ⟨_, _, _, _, _⟩ ⟨_, _, _, _, _⟩ h h'
  rw [mk.injEq]
  exact ⟨h.listener.unique Listener.rightUnique_overlays h'.listener,
    h.service.unique Service.rightUnique_overlays h'.service,
    h.healthCheck.unique HealthCheck.rightUnique_overlays h'.healthCheck,
    h.routing.unique Routing.rightUnique_overlays h'.routing,
    h.observability.unique (Observability.rightUnique_overlays dialect) h'.observability⟩

/-- Routes are in the order of their methods, the usual ones and those from a document. -/
lemma Overlays.ascending_routes {dialect : Dialect} {d : Document} {c : Config}
    (h : c.Overlays dialect d) : c.routing.routes.Ascending := by
  have husual : ({} : Routing).routes.Ascending := by
    unfold Dict.Ascending
    decide
  refine h.routing.holds (P := fun r => r.routes.Ascending) (fun d hr => ?_) husual
  exact hr.routes.holds (fun _ htexts => htexts.1) husual

/-- A document with any settings of the right kinds is read. A document that is read is laid over
the usual configuration, in the only way there is; what is read reads back, as a value in every
notation and as a text; and documents that differ in unknown names only are read alike. -/
theorem decoding_overlays (dialect : Dialect) (d : Document) :
    (IsReadable dialect d → ∃ c, ofDocument dialect d = .ok c) ∧
    (∀ c, ofDocument dialect d = .ok c →
      (∀ other : Config, other.Overlays dialect d ↔ other = c) ∧
      (∀ again : Dialect, ofDocument again (.ofJson c.json) = .ok c) ∧
      (c.IsSized → ∃ v, Json.parse c.json.compact = .ok v ∧ ofJson v = .ok c)) ∧
    ∀ other : Document, known other = known d →
      ofDocument dialect other = ofDocument dialect d := by
  refine ⟨exists_ofDocument, fun c hc => ?_, fun other hother => ?_⟩
  · have hover := overlays_of_ofDocument hc
    have hroutes := hover.ascending_routes
    refine ⟨fun other => ⟨fun h => rightUnique_overlays dialect h hover, fun h => h ▸ hover⟩,
      fun _ => ofDocument_json hroutes, fun hsize => ?_⟩
    exact ⟨c.sortedJson, parse_json hroutes hsize, ofDocument_sortedJson hroutes⟩
  · rw [← ofDocument_known, hother, ofDocument_known]

lemma checked_eq_ok_iff {c c' : Config} : checked c = .ok c' ↔ c = c' ∧ c.isValid = true := by
  rw [checked, isValid, List.isEmpty_iff]
  split
  next hnil => simp [hnil]
  next hne => exact iff_of_false (by simp) fun h => hne h.2

lemma parse_of_document {text : String} {d : Document} (ht : Toml.parse text = some d) {c : Config}
    (hd : ofDocument .tables d = .ok c) : parse text = checked c := by
  rw [parse, ht]
  dsimp only
  rw [hd]

/-- The same for a text: the configuration in it is the only one that its document lays over the
usual one, and keeps all rules. A document with settings of the right kinds is refused for the rules
only. -/
theorem parsing_overlays {text : String} {d : Document} (ht : Toml.parse text = some d) :
    (IsReadable .tables d → ∃ c : Config, c.Overlays .tables d ∧ parse text = checked c) ∧
    (∀ c : Config, parse text = .ok c →
      c.isValid = true ∧ ∀ other : Config, other.Overlays .tables d ↔ other = c) ∧
    ∀ text' d', Toml.parse text' = some d' → known d' = known d → parse text' = parse text := by
  refine ⟨fun hread => ?_, fun c hc => ?_, fun text' d' ht' hknown => ?_⟩
  · obtain ⟨c, hd⟩ := exists_ofDocument hread
    exact ⟨c, overlays_of_ofDocument hd, parse_of_document ht hd⟩
  · cases hd : ofDocument .tables d with
    | error reason => simp [parse, ht, hd] at hc
    | ok c' =>
      rw [parse_of_document ht hd, checked_eq_ok_iff] at hc
      obtain ⟨rfl, hvalid⟩ := hc
      have hover := overlays_of_ofDocument hd
      refine ⟨hvalid, fun other => ⟨fun h => rightUnique_overlays .tables h hover, fun h => ?_⟩⟩
      exact h ▸ hover
  · have halike : ofDocument .tables d' = ofDocument .tables d := by
      rw [← ofDocument_known, hknown, ofDocument_known]
    rw [parse, parse, ht, ht']
    dsimp only
    rw [halike]

def orderRouting : Document :=
  .table [("routes", .table [("GetOrder", .string "/v1/orders/\x7border_id\x7d")])]

/-- A table with one setting of the service, routes, and names that mean nothing. -/
def orderDocument : Document :=
  .table [("downstream", .table [("retries", .integer 3), ("request_timeout_secs", .integer 10)]),
    ("routing", orderRouting), ("plugins", .table [])]

def plainOrderDocument : Document :=
  .table [("downstream", .table [("request_timeout_secs", .integer 10)]),
    ("routing", orderRouting)]

def orderConfig : Config where
  service := { requestTimeoutSeconds := 10 }
  routing := { routes := [("GetOrder", "/v1/orders/\x7border_id\x7d")] }

lemma orderDocument_isReadable : IsReadable .tables orderDocument := by
  have hcount : ∃ n, (Document.integer 10).IsCount n := ⟨10, rfl⟩
  have hservice : Service.IsReadable
      (.table [("retries", .integer 3), ("request_timeout_secs", .integer 10)]) :=
    ⟨_, rfl, by simpa using hcount⟩
  have hrouting : Routing.IsReadable orderRouting :=
    ⟨_, rfl, by simp [Document.EachEntry, Document.entries?, Document.IsText]⟩
  exact ⟨_, rfl, by simp [hservice, hrouting]⟩

theorem order_document_overlays : IsReadable .tables orderDocument ∧
    ofDocument .tables orderDocument = .ok orderConfig ∧
    known plainOrderDocument = known orderDocument ∧ orderConfig.IsSized ∧
    (∃ c, ofDocument .tables orderDocument = .ok c) ∧
    (∀ other : Config, other.Overlays .tables orderDocument ↔ other = orderConfig) ∧
    (∀ again : Dialect, ofDocument again (.ofJson orderConfig.json) = .ok orderConfig) ∧
    (∃ v, Json.parse orderConfig.json.compact = .ok v ∧ ofJson v = .ok orderConfig) ∧
    ofDocument .tables plainOrderDocument = ofDocument .tables orderDocument := by
  have hread : ofDocument .tables orderDocument = .ok orderConfig := by rfl
  have hknown : known plainOrderDocument = known orderDocument := by rfl
  have hsize : orderConfig.IsSized := by constructor <;> decide
  obtain ⟨hreads, hdecoded, halike⟩ := decoding_overlays .tables orderDocument
  obtain ⟨hoverlay, hagain, htext⟩ := hdecoded orderConfig hread
  exact ⟨orderDocument_isReadable, hread, hknown, hsize, hreads orderDocument_isReadable,
    hoverlay, hagain, htext hsize, halike plainOrderDocument hknown⟩

end RestGateway.Config
