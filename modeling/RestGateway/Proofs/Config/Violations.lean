import Mathlib
import RestGateway.Config.Loader
import RestGateway.Proofs.Config

/-! The problems of a configuration are the rules that it breaks, in the order of the rules, and
each rule looks at one field or at two. So a change of some fields leaves the problems of all other
rules as they are. -/
namespace RestGateway.Config

/-! ### Fields and rules -/

inductive Quantity where
  | requestTimeout
  | maxRequestTimeout
  | connectTimeout
  | maxConcurrency
  | maxBodyBytes
  | healthTimeout
  deriving DecidableEq

namespace Quantity

def name : Quantity → String
  | requestTimeout => "downstream.request_timeout_secs"
  | maxRequestTimeout => "downstream.max_request_timeout_secs"
  | connectTimeout => "downstream.connect_timeout_secs"
  | maxConcurrency => "listener.max_concurrency"
  | maxBodyBytes => "listener.max_body_bytes"
  | healthTimeout => "health_check.timeout_secs"

def value (c : Config) : Quantity → Nat
  | requestTimeout => c.service.requestTimeoutSeconds
  | maxRequestTimeout => c.service.maxRequestTimeoutSeconds
  | connectTimeout => c.service.connectTimeoutSeconds
  | maxConcurrency => c.listener.maxConcurrency
  | maxBodyBytes => c.listener.maxBodyBytes
  | healthTimeout => c.healthCheck.timeoutSeconds

end Quantity

/-- A setting; of the routes, each one by its method. -/
inductive Field where
  | quantity (q : Quantity)
  | bindAddress
  | baseUrl
  | userAgent
  | healthPath
  | route (method : String)
  | fallbackStart
  | stripBoundParams
  | logLevel
  | logFormat
  | metricsEnabled
  | metricsAddress
  deriving DecidableEq

def Field.Agrees (c c' : Config) : Field → Prop
  | quantity q => q.value c = q.value c'
  | bindAddress => c.listener.bindAddress = c'.listener.bindAddress
  | baseUrl => c.service.baseUrl = c'.service.baseUrl
  | userAgent => c.service.userAgent = c'.service.userAgent
  | healthPath => c.healthCheck.path = c'.healthCheck.path
  | route method => c.routing.routes.find? method = c'.routing.routes.find? method
  | fallbackStart => c.routing.fallbackStart = c'.routing.fallbackStart
  | stripBoundParams => c.routing.stripBoundParams = c'.routing.stripBoundParams
  | logLevel => c.observability.logLevel = c'.observability.logLevel
  | logFormat => c.observability.logFormat = c'.observability.logFormat
  | metricsEnabled => c.observability.metricsEnabled = c'.observability.metricsEnabled
  | metricsAddress => c.observability.metricsAddress = c'.observability.metricsAddress

/-- What has to hold of a configuration. There is one rule for each route. -/
inductive Rule where
  | bindAddress
  | metricsAddress
  | baseUrl
  | positive (q : Quantity)
  | timeoutOrder
  | fallbackStart
  | route (method : String)
  | healthPath
  deriving DecidableEq

namespace Rule

/-- Where the problem of a rule is reported. -/
def place : Rule → Nat
  | bindAddress => 0
  | metricsAddress => 1
  | baseUrl => 2
  | positive .requestTimeout => 3
  | positive .maxRequestTimeout => 4
  | timeoutOrder => 5
  | positive .connectTimeout => 6
  | fallbackStart => 7
  | route _ => 8
  | positive .maxConcurrency => 9
  | positive .maxBodyBytes => 10
  | positive .healthTimeout => 11
  | healthPath => 12

def method : Rule → String
  | route method => method
  | _ => ""

/-- Routes come in the order of their methods. -/
def Before (r s : Rule) : Prop := r.place < s.place ∨ r.place = s.place ∧ r.method < s.method

/-- The fields that a rule looks at. -/
def fields : Rule → List Field
  | bindAddress => [.bindAddress]
  | metricsAddress => [.metricsEnabled, .metricsAddress]
  | baseUrl => [.baseUrl]
  | positive q => [.quantity q]
  | timeoutOrder => [.quantity .requestTimeout, .quantity .maxRequestTimeout]
  | fallbackStart => [.fallbackStart]
  | route method => [.route method]
  | healthPath => [.healthPath]

end Rule

/-- The configuration breaks the rule, and this is the problem. -/
inductive Breaks (c : Config) : Rule → Problem → Prop where
  | bindAddress : SocketAddress.isValid c.listener.bindAddress = false →
      Breaks c .bindAddress (.invalidAddress "listener.bind_address" c.listener.bindAddress)
  | metricsAddress : c.observability.metricsEnabled = true →
      SocketAddress.isValid c.observability.metricsAddress = false →
      Breaks c .metricsAddress
        (.invalidAddress "observability.metrics_address" c.observability.metricsAddress)
  | noUrl {reason : Url.Error} : Url.parse c.service.baseUrl = .error reason →
      Breaks c .baseUrl (.invalidBaseUrl c.service.baseUrl reason)
  | otherScheme {url : Url} : Url.parse c.service.baseUrl = .ok url →
      url.scheme ≠ "http".toList → url.scheme ≠ "https".toList →
      Breaks c .baseUrl (.unsupportedScheme c.service.baseUrl)
  | queryOrFragment {url : Url} : Url.parse c.service.baseUrl = .ok url →
      (url.scheme = "http".toList ∨ url.scheme = "https".toList) →
      (url.query ≠ none ∨ url.fragment ≠ none) →
      Breaks c .baseUrl (.baseUrlQueryOrFragment c.service.baseUrl)
  | zero {q : Quantity} : q.value c = 0 → Breaks c (.positive q) (.zero q.name)
  /-- A limit of zero is a problem of its own and is not compared. -/
  | timeoutOrder : c.service.maxRequestTimeoutSeconds ≠ 0 →
      c.service.maxRequestTimeoutSeconds < c.service.requestTimeoutSeconds →
      Breaks c .timeoutOrder (.defaultTimeoutAboveMax c.service.requestTimeoutSeconds
        c.service.maxRequestTimeoutSeconds)
  | fallbackStart : c.routing.fallbackStart.toList.head? ≠ some '/' →
      Breaks c .fallbackStart (.invalidFallbackStart c.routing.fallbackStart)
  | blankMethod {method template : String} : c.routing.routes.find? method = some template →
      Text.isBlank method = true → Breaks c (.route method) .emptyMethod
  | template {method template : String} {reason : Template.Problem} :
      c.routing.routes.find? method = some template → Text.isBlank method = false →
      Template.problem? template = some reason →
      Breaks c (.route method) (.invalidTemplate method template reason)
  | healthPath : c.healthCheck.path.toList.head? ≠ some '/' →
      Breaks c .healthPath (.invalidHealthPath c.healthCheck.path)

/-! ### One rule -/

def problemsOf (c : Config) : Rule → List Problem
  | .bindAddress => addressProblem "listener.bind_address" c.listener.bindAddress
  | .metricsAddress =>
    if c.observability.metricsEnabled then
      addressProblem "observability.metrics_address" c.observability.metricsAddress
    else []
  | .baseUrl => baseUrlProblems c.service.baseUrl
  | .positive q => report (q.value c == 0) (.zero q.name)
  | .timeoutOrder =>
    if c.service.maxRequestTimeoutSeconds = 0 then []
    else report (c.service.maxRequestTimeoutSeconds < c.service.requestTimeoutSeconds)
      (.defaultTimeoutAboveMax c.service.requestTimeoutSeconds c.service.maxRequestTimeoutSeconds)
  | .fallbackStart =>
    report (!startsWithSlash c.routing.fallbackStart)
      (.invalidFallbackStart c.routing.fallbackStart)
  | .route method =>
    match c.routing.routes.find? method with
    | some template => routeProblems method template
    | none => []
  | .healthPath =>
    report (!startsWithSlash c.healthCheck.path) (.invalidHealthPath c.healthCheck.path)

lemma mem_report_iff {broken : Bool} {problem p : Problem} :
    p ∈ report broken problem ↔ broken = true ∧ p = problem := by
  cases broken <;> simp [report]

/-- A rule whose check is one comparison. -/
lemma mem_report_iff_breaks {c : Config} {rule : Rule} {broken : Bool} {problem p : Problem}
    (hbreaks : broken = true → c.Breaks rule problem)
    (hbroken : ∀ q, c.Breaks rule q → broken = true ∧ q = problem) :
    p ∈ report broken problem ↔ c.Breaks rule p := by
  rw [mem_report_iff]
  constructor
  · rintro ⟨h, rfl⟩
    exact hbreaks h
  · exact hbroken p

lemma not_startsWithSlash_iff {s : String} :
    (!startsWithSlash s) = true ↔ s.toList.head? ≠ some '/' := by
  simp [startsWithSlash]

lemma isHttp_iff {scheme : List Char} :
    isHttp scheme = true ↔ scheme = "http".toList ∨ scheme = "https".toList := by
  rw [isHttp, Bool.or_eq_true, decide_eq_true_iff, decide_eq_true_iff]

lemma mem_baseUrlProblems_iff {c : Config} {p : Problem} :
    p ∈ baseUrlProblems c.service.baseUrl ↔ c.Breaks .baseUrl p := by
  unfold baseUrlProblems
  constructor
  · intro h
    split at h
    next reason hparse =>
      rw [List.mem_singleton.mp h]
      exact .noUrl hparse
    next url hparse =>
      split_ifs at h with hscheme
      · rw [List.mem_singleton.mp h]
        rw [Bool.not_eq_true', ← Bool.not_eq_true, isHttp_iff, not_or] at hscheme
        exact .otherScheme hparse hscheme.1 hscheme.2
      · obtain ⟨hparts, rfl⟩ := mem_report_iff.mp h
        rw [Bool.not_eq_true', Bool.not_eq_false, isHttp_iff] at hscheme
        exact .queryOrFragment hparse hscheme (by simpa [Option.isSome_iff_ne_none] using hparts)
  · intro h
    cases h with
    | noUrl hparse => simp [hparse]
    | otherScheme hparse hhttp hhttps =>
      have hscheme := isHttp_iff.not.mpr (not_or.mpr ⟨hhttp, hhttps⟩)
      simp [hparse, hscheme]
    | queryOrFragment hparse hscheme hparts =>
      rw [hparse]
      dsimp only
      rw [isHttp_iff.mpr hscheme, Bool.not_true, if_neg Bool.false_ne_true, mem_report_iff]
      exact ⟨by simpa [Option.isSome_iff_ne_none] using hparts, rfl⟩

lemma mem_routeProblems_iff {c : Config} {method template : String}
    (hroute : c.routing.routes.find? method = some template) {p : Problem} :
    p ∈ routeProblems method template ↔ c.Breaks (.route method) p := by
  unfold routeProblems
  constructor
  · intro h
    split_ifs at h with hblank
    · rw [List.mem_singleton.mp h]
      exact .blankMethod hroute hblank
    · split at h
      next reason hreason =>
        rw [List.mem_singleton.mp h]
        exact .template hroute (Bool.eq_false_iff.mpr hblank) hreason
      next => simp at h
  · intro h
    cases h with
    | blankMethod _ hblank => simp [hblank]
    | template hroute' hblank hreason =>
      obtain rfl := Option.some.inj (hroute.symm.trans hroute')
      simp [hblank, hreason]

theorem mem_problemsOf_iff {c : Config} {rule : Rule} {p : Problem} :
    p ∈ c.problemsOf rule ↔ c.Breaks rule p := by
  cases rule with
  | bindAddress =>
    apply mem_report_iff_breaks
    · exact fun h => .bindAddress (by simpa using h)
    · intro q hq
      cases hq with
      | bindAddress h => simp [h]
  | metricsAddress =>
    rw [problemsOf]
    split_ifs with hon
    · apply mem_report_iff_breaks
      · exact fun h => .metricsAddress hon (by simpa using h)
      · intro q hq
        cases hq with
        | metricsAddress _ h => simp [h]
    · refine iff_of_false List.not_mem_nil fun hq => ?_
      cases hq with
      | metricsAddress h => exact hon h
  | baseUrl => exact mem_baseUrlProblems_iff
  | positive q =>
    apply mem_report_iff_breaks
    · exact fun h => .zero (by simpa using h)
    · intro q hq
      cases hq with
      | zero h => simp [h]
  | timeoutOrder =>
    rw [problemsOf]
    split_ifs with hzero
    · refine iff_of_false List.not_mem_nil fun hq => ?_
      cases hq with
      | timeoutOrder h => exact h hzero
    · apply mem_report_iff_breaks
      · exact fun h => .timeoutOrder hzero (by simpa using h)
      · intro q hq
        cases hq with
        | timeoutOrder _ h => simp [h]
  | fallbackStart =>
    apply mem_report_iff_breaks
    · exact fun h => .fallbackStart (not_startsWithSlash_iff.mp h)
    · intro q hq
      cases hq with
      | fallbackStart h => exact ⟨not_startsWithSlash_iff.mpr h, rfl⟩
  | route method =>
    rw [problemsOf]
    cases hroute : c.routing.routes.find? method with
    | some template => exact mem_routeProblems_iff hroute
    | none =>
      refine iff_of_false List.not_mem_nil fun hq => ?_
      cases hq with
      | blankMethod h => simp [hroute] at h
      | template h => simp [hroute] at h
  | healthPath =>
    apply mem_report_iff_breaks
    · exact fun h => .healthPath (not_startsWithSlash_iff.mp h)
    · intro q hq
      cases hq with
      | healthPath h => exact ⟨not_startsWithSlash_iff.mpr h, rfl⟩

lemma length_report_le (broken : Bool) (problem : Problem) :
    (report broken problem).length ≤ 1 := by
  cases broken <;> simp [report]

lemma length_problemsOf_le (c : Config) (rule : Rule) : (c.problemsOf rule).length ≤ 1 := by
  cases rule with
  | bindAddress => exact length_report_le _ _
  | metricsAddress =>
    rw [problemsOf]
    split_ifs
    · exact length_report_le _ _
    · simp
  | baseUrl =>
    rw [problemsOf, baseUrlProblems]
    split
    · simp
    · split_ifs
      · simp
      · exact length_report_le _ _
  | positive q => exact length_report_le _ _
  | timeoutOrder =>
    rw [problemsOf]
    split_ifs
    · simp
    · exact length_report_le _ _
  | fallbackStart => exact length_report_le _ _
  | route method =>
    rw [problemsOf]
    split
    · rw [routeProblems]
      split_ifs
      · simp
      · split <;> simp
    · simp
  | healthPath => exact length_report_le _ _

/-! ### All rules -/

def rulesBeforeRoutes : List Rule :=
  [.bindAddress, .metricsAddress, .baseUrl, .positive .requestTimeout,
    .positive .maxRequestTimeout, .timeoutOrder, .positive .connectTimeout, .fallbackStart]

def rulesBehindRoutes : List Rule :=
  [.positive .maxConcurrency, .positive .maxBodyBytes, .positive .healthTimeout, .healthPath]

def rules (c : Config) : List Rule :=
  rulesBeforeRoutes ++ c.routing.routes.keys.map .route ++ rulesBehindRoutes

/-- The broken rules with their problems. -/
def violations (c : Config) : List (Rule × Problem) :=
  c.rules.flatMap fun rule => (c.problemsOf rule).map (rule, ·)

lemma mem_rules_of_breaks {c : Config} {rule : Rule} {p : Problem} (h : c.Breaks rule p) :
    rule ∈ c.rules := by
  have hroute : ∀ method template, c.routing.routes.find? method = some template →
      Rule.route method ∈ c.rules := by
    intro method template hfind
    have hmem : method ∈ c.routing.routes.keys := List.mem_map_of_mem (Dict.mem_of_find? hfind)
    simp [rules, hmem]
  cases h with
  | @zero q _ => cases q <;> simp [rules, rulesBeforeRoutes, rulesBehindRoutes]
  | blankMethod h => exact hroute _ _ h
  | template h => exact hroute _ _ h
  | _ => simp [rules, rulesBeforeRoutes, rulesBehindRoutes]

theorem mem_violations_iff {c : Config} {rule : Rule} {p : Problem} :
    (rule, p) ∈ c.violations ↔ c.Breaks rule p := by
  have hmem : (rule, p) ∈ c.violations ↔ rule ∈ c.rules ∧ p ∈ c.problemsOf rule := by
    simp [violations]
  rw [hmem, mem_problemsOf_iff]
  exact ⟨And.right, fun h => ⟨mem_rules_of_breaks h, h⟩⟩

section
variable {c : Config} (hc : c.routing.routes.Ascending)
include hc

lemma rules_pairwise : c.rules.Pairwise Rule.Before := by
  have hroutes : (c.routing.routes.keys.map Rule.route).Pairwise Rule.Before := by
    rw [List.pairwise_map]
    exact hc.imp fun h => Or.inr ⟨rfl, h⟩
  rw [rules, List.pairwise_append, List.pairwise_append]
  refine ⟨⟨?_, hroutes, ?_⟩, ?_, ?_⟩
  · simp [rulesBeforeRoutes, Rule.Before, Rule.place]
  · simp [rulesBeforeRoutes, Rule.Before, Rule.place]
  · simp [rulesBehindRoutes, Rule.Before, Rule.place]
  · simp [rulesBeforeRoutes, rulesBehindRoutes, Rule.Before, Rule.place]

lemma violations_pairwise : c.violations.Pairwise fun x y => x.1.Before y.1 := by
  rw [violations, List.flatMap_def, List.pairwise_flatten, List.pairwise_map]
  constructor
  · intro group hgroup
    obtain ⟨rule, -, rfl⟩ := List.mem_map.mp hgroup
    rw [List.pairwise_map]
    match c.problemsOf rule, c.length_problemsOf_le rule with
    | [], _ => simp
    | [p], _ => simp
  · refine (rules_pairwise hc).imp fun {r s} h x hx y hy => ?_
    obtain ⟨p, -, rfl⟩ := List.mem_map.mp hx
    obtain ⟨q, -, rfl⟩ := List.mem_map.mp hy
    exact h

lemma problemsOf_routes :
    (c.routing.routes.keys.flatMap fun method => c.problemsOf (.route method)) =
      c.routing.routes.flatMap fun (method, template) => routeProblems method template := by
  rw [Dict.keys, List.flatMap_map]
  refine List.flatMap_congr fun entry hentry => ?_
  simp only [problemsOf, Dict.find?_of_mem hc hentry]

theorem problems_eq : c.problems = c.violations.map Prod.snd := by
  have hsnd : c.violations.map Prod.snd = c.rules.flatMap c.problemsOf := by
    simp [violations, List.map_flatMap]
  have htimeouts : timeoutProblems c.service = c.problemsOf (.positive .requestTimeout) ++
      c.problemsOf (.positive .maxRequestTimeout) ++ c.problemsOf .timeoutOrder ++
      c.problemsOf (.positive .connectTimeout) := by
    by_cases hzero : c.service.maxRequestTimeoutSeconds = 0
    · simp [timeoutProblems, problemsOf, Quantity.value, Quantity.name, hzero, report]
    · simp [timeoutProblems, problemsOf, Quantity.value, Quantity.name, hzero, report]
  rw [hsnd, rules, List.flatMap_append, List.flatMap_append, List.flatMap_map,
    problemsOf_routes hc, problems, htimeouts, addressProblems, routingProblems]
  simp only [rulesBeforeRoutes, rulesBehindRoutes, problemsOf, Quantity.value, Quantity.name,
    List.flatMap_cons, List.flatMap_nil, List.append_nil, List.append_assoc]

end

/-! ### Changed fields -/

lemma Rule.not_before_of_before {r s : Rule} (h : r.Before s) : ¬s.Before r := by
  rintro (hs | ⟨hs, hmethod⟩)
  · rcases h with h | ⟨h, -⟩ <;> omega
  · rcases h with h | ⟨-, h⟩
    · omega
    · exact lt_asymm h hmethod

instance : Std.Asymm fun x y : Rule × Problem => x.1.Before y.1 where
  asymm _ _ := Rule.not_before_of_before

/-- A rule says the same of configurations that agree on its fields. -/
lemma problemsOf_congr {c c' : Config} {rule : Rule} (h : ∀ f ∈ rule.fields, f.Agrees c c') :
    c.problemsOf rule = c'.problemsOf rule := by
  cases rule with
  | timeoutOrder =>
    simp only [Rule.fields, List.forall_mem_cons, Field.Agrees, Quantity.value] at h
    simp only [problemsOf, h.1, h.2.1]
  | metricsAddress =>
    simp only [Rule.fields, List.forall_mem_cons, Field.Agrees] at h
    simp only [problemsOf, h.1, h.2.1]
  | _ =>
    simp only [Rule.fields, List.forall_mem_singleton, Field.Agrees] at h
    simp only [problemsOf, h]

/-- Rules whose fields are the same are broken in the same way, and reported in the same order. -/
theorem filter_violations_congr {c c' : Config} (hc : c.routing.routes.Ascending)
    (hc' : c'.routing.routes.Ascending) (keep : Rule → Bool)
    (h : ∀ rule, keep rule = true → ∀ f ∈ rule.fields, f.Agrees c c') :
    c.violations.filter (keep ·.1) = c'.violations.filter (keep ·.1) := by
  refine ((violations_pairwise hc).filter _).eq_of_mem_iff ((violations_pairwise hc').filter _) ?_
  rintro ⟨rule, p⟩
  simp only [List.mem_filter, mem_violations_iff, ← mem_problemsOf_iff]
  refine and_congr_left fun hkeep => ?_
  rw [problemsOf_congr (h rule hkeep)]

lemma violations_eq_nil_iff {c : Config} : c.violations = [] ↔ ∀ rule p, ¬c.Breaks rule p := by
  simp only [List.eq_nil_iff_forall_not_mem, Prod.forall, mem_violations_iff]

lemma checked_eq {c : Config} (hc : c.routing.routes.Ascending) :
    checked c = if c.violations = [] then .ok c
      else .error (.invalid (c.violations.map Prod.snd)) := by
  rw [checked, problems_eq hc]
  cases hv : c.violations with
  | nil => simp
  | cons v vs => simp

/-- The problems of a configuration are the rules that it breaks, each once and all in their order.
A change of some fields leaves the problems of the rules that look at none of them as they are, and
only two rules look at two fields. -/
theorem problems_are_violations {c : Config} (hc : c.routing.routes.Ascending) :
    (checked c = .ok c ↔ ∀ rule p, ¬c.Breaks rule p) ∧
      (∀ rule p, c.Breaks rule p → checked c = .error (.invalid (c.violations.map Prod.snd))) ∧
      (∀ rule p, (rule, p) ∈ c.violations ↔ c.Breaks rule p) ∧
      c.violations.Pairwise (fun v w => v.1.Before w.1) ∧
      (∀ c' : Config, c'.routing.routes.Ascending → ∀ changed : Field → Bool,
        (∀ f, changed f = false → f.Agrees c c') →
        c.violations.filter (fun v => v.1.fields.all fun f => !changed f) =
          c'.violations.filter (fun v => v.1.fields.all fun f => !changed f)) ∧
      ∀ (rule : Rule) (f g : Field), f ∈ rule.fields → g ∈ rule.fields → f ≠ g →
        rule.fields = [.metricsEnabled, .metricsAddress] ∨
          rule.fields = [.quantity .requestTimeout, .quantity .maxRequestTimeout] := by
  refine ⟨?_, ?_, fun rule p => mem_violations_iff, violations_pairwise hc, ?_, ?_⟩
  · rw [checked_eq hc, ← violations_eq_nil_iff]
    split_ifs with h <;> simp [h]
  · intro rule p hp
    have hne : c.violations ≠ [] := List.ne_nil_of_mem (mem_violations_iff.mpr hp)
    rw [checked_eq hc, if_neg hne]
  · intro c' hc' changed h
    refine filter_violations_congr hc hc' (fun r => r.fields.all fun f => !changed f) ?_
    intro rule hkeep f hf
    exact h f (by simpa using List.all_eq_true.mp hkeep f hf)
  · intro rule f g hf hg hne
    cases rule with
    | metricsAddress => exact Or.inl rfl
    | timeoutOrder => exact Or.inr rfl
    | _ =>
      rw [Rule.fields, List.mem_singleton] at hf hg
      exact absurd (hf.trans hg.symm) hne

/-- A configuration with something wrong in every section. -/
def brokenConfig : Config where
  listener := { bindAddress := "nowhere" }
  service := { baseUrl := "urn:a", requestTimeoutSeconds := 200, maxRequestTimeoutSeconds := 60 }
  healthCheck := { path := "health", timeoutSeconds := 0 }
  routing := { routes := [(" ", "x"), ("GetFile", "/\x7b")], fallbackStart := "" }
  observability := { metricsEnabled := true, metricsAddress := "nowhere" }

/-- The same with more time for a request. -/
def raisedConfig : Config :=
  { brokenConfig with service := { brokenConfig.service with maxRequestTimeoutSeconds := 300 } }

theorem broken_config_violations : brokenConfig.routing.routes.Ascending ∧
    raisedConfig.routing.routes.Ascending ∧
    checked brokenConfig = .error (.invalid [
      .invalidAddress "listener.bind_address" "nowhere",
      .invalidAddress "observability.metrics_address" "nowhere",
      .unsupportedScheme "urn:a", .defaultTimeoutAboveMax 200 60, .invalidFallbackStart "",
      .emptyMethod, .invalidTemplate "GetFile" "/\x7b" .unterminated,
      .zero "health_check.timeout_secs", .invalidHealthPath "health"]) ∧
    ∃ kept, kept.length = 8 ∧
      brokenConfig.violations.filter (fun v => v.1.fields.all fun f =>
        !(f == .quantity .maxRequestTimeout)) = kept ∧
      raisedConfig.violations.filter (fun v => v.1.fields.all fun f =>
        !(f == .quantity .maxRequestTimeout)) = kept := by
  have hbroken : brokenConfig.routing.routes.Ascending := by unfold Dict.Ascending; decide
  have hraised : raisedConfig.routing.routes.Ascending := hbroken
  obtain ⟨-, hchecked, -, -, hlocal, -⟩ := problems_are_violations hbroken
  have hpath : brokenConfig.Breaks .healthPath (.invalidHealthPath "health") :=
    .healthPath (by decide)
  refine ⟨hbroken, hraised, ?_, _, ?_, rfl, (hlocal raisedConfig hraised _ ?_).symm⟩
  · rw [hchecked _ _ hpath]
    decide +kernel
  · decide +kernel
  · intro f hf
    cases f with
    | quantity q =>
      cases q with
      | maxRequestTimeout => exact absurd hf (by decide)
      | _ => rfl
    | _ => rfl

end RestGateway.Config
