import Mathlib
import RestGateway.Proofs.Dict
import RestGateway.Config.Rules
import RestGateway.Proofs.Template
import RestGateway.Proofs.Url.Host
import RestGateway.Proofs.Url.Joining

/-! What a valid configuration promises: its base URL is one that paths can be put behind, and every
path and every template in it starts with a slash. -/
namespace RestGateway

namespace Config

lemma report_eq_nil_iff {broken : Bool} {problem : Problem} :
    report broken problem = [] ↔ broken = false := by
  cases broken <;> simp [report]

lemma toList_of_startsWithSlash {s : String} (h : startsWithSlash s = true) :
    ∃ rest, s.toList = '/' :: rest := by
  unfold startsWithSlash at h
  cases hs : s.toList with
  | nil => simp [hs] at h
  | cons c rest =>
    rw [hs, List.head?_cons, beq_iff_eq, Option.some.injEq] at h
    exact ⟨rest, by rw [h]⟩

theorem isBase_of_baseUrlProblems {url : String} (h : baseUrlProblems url = []) :
    ∃ base, Url.parse url = .ok base ∧ base.IsBase := by
  unfold baseUrlProblems at h
  split at h
  · simp at h
  · next base hp =>
    split_ifs at h with hs
    rw [report_eq_nil_iff, Bool.or_eq_false_iff] at h
    rw [Bool.not_eq_true', Bool.not_eq_false] at hs
    exact ⟨base, hp, Url.isWeb_of_parse hp hs, by simpa using h.1, by simpa using h.2⟩

lemma problem?_of_routeProblems {method template : String}
    (h : routeProblems method template = []) : Template.problem? template = none := by
  unfold routeProblems at h
  split_ifs at h
  split at h
  · simp at h
  · next hn => exact hn

lemma isValid_iff {c : Config} : c.isValid = true ↔ c.addressProblems = [] ∧
    baseUrlProblems c.service.baseUrl = [] ∧ timeoutProblems c.service = [] ∧
    routingProblems c.routing = [] ∧ c.listener.maxConcurrency ≠ 0 ∧
    c.listener.maxBodyBytes ≠ 0 ∧ c.healthCheck.timeoutSeconds ≠ 0 ∧
    startsWithSlash c.healthCheck.path = true := by
  simp [isValid, problems, report_eq_nil_iff]

section
variable {c : Config} (hc : c.isValid = true)
include hc

theorem exists_base : ∃ base, Url.parse c.service.baseUrl = .ok base ∧ base.IsBase := by
  obtain ⟨-, hbase, -⟩ := isValid_iff.mp hc
  exact isBase_of_baseUrlProblems hbase

lemma routingProblems_eq_nil : routingProblems c.routing = [] := by
  obtain ⟨-, -, -, hrouting, -⟩ := isValid_iff.mp hc
  exact hrouting

lemma healthPath_slash : ∃ rest, c.healthCheck.path.toList = '/' :: rest := by
  obtain ⟨-, -, -, -, -, -, -, hpath⟩ := isValid_iff.mp hc
  exact toList_of_startsWithSlash hpath

lemma fallbackStart_slash : ∃ rest, c.routing.fallbackStart.toList = '/' :: rest := by
  have h := routingProblems_eq_nil hc
  simp only [routingProblems, List.append_eq_nil_iff, report_eq_nil_iff] at h
  exact toList_of_startsWithSlash (by simpa using h.1)

lemma problem?_route {method template : String}
    (h : c.routing.routes.find? method = some template) : Template.problem? template = none := by
  have hr := routingProblems_eq_nil hc
  simp only [routingProblems, List.append_eq_nil_iff, List.flatMap_eq_nil_iff] at hr
  exact problem?_of_routeProblems (hr.2 _ (Dict.mem_of_find? h))

lemma route_slash {method template : String} (h : c.routing.routes.find? method = some template) :
    ∃ rest, template.toList = '/' :: rest :=
  (Template.problem?_eq_none_iff.mp (problem?_route hc h)).1

/-- Whatever the method, the template of its route starts with a slash. -/
theorem resolve_slash (method : String) :
    ∃ rest, (c.routing.toRoutes.resolve method).template.toList = '/' :: rest := by
  change ∃ rest, ((c.routing.routes.find? method).getD _).toList = '/' :: rest
  cases hf : c.routing.routes.find? method with
  | some template => exact route_slash hc hf
  | none =>
    obtain ⟨rest, hr⟩ := fallbackStart_slash hc
    refine ⟨rest ++ (Text.lowercase method).toList, ?_⟩
    change (c.routing.fallbackStart ++ Text.lowercase method).toList = _
    rw [String.toList_append, hr, List.cons_append]

lemma isValid_routing {r : Routing} (hr : routingProblems r = []) :
    ({ c with routing := r } : Config).isValid = true := by
  obtain ⟨haddress, hbase, htimeout, -, hrest⟩ := isValid_iff.mp hc
  exact isValid_iff.mpr ⟨haddress, hbase, htimeout, hr, hrest⟩

lemma isValid_maxBodyBytes {n : Nat} (hn : n ≠ 0) :
    ({ c with listener := { c.listener with maxBodyBytes := n } } : Config).isValid = true := by
  obtain ⟨haddress, hbase, htimeout, hrouting, hconcurrency, -, hrest⟩ := isValid_iff.mp hc
  exact isValid_iff.mpr ⟨haddress, hbase, htimeout, hrouting, hconcurrency, hn, hrest⟩

end

def usualAuthority : Url.Authority := ⟨[], [], "localhost".toList, some 8000⟩

def usualBase : Url := ⟨"http".toList, some usualAuthority, .segments [[]], none, none⟩

lemma usualAuthority_isStable : Url.isStable "http".toList usualAuthority = true := by
  have hplain : "localhost".toList.all Url.isPlain = true := by decide
  have hhost : Url.webHost "localhost".toList = .ok "localhost".toList :=
    Url.webHost_of_isPlain (List.all_eq_true.mp hplain) (by decide) (by decide)
  have hparts : Url.splitHost false usualAuthority.text = ("localhost".toList, ":8000".toList) := by
    decide
  refine Url.isStable_of_interpretAuthority (by decide) ?_
  exact Url.interpretAuthority_of_host (by decide) (by decide) hparts
    (by decide) hhost (by decide) true

lemma parse_usual : Url.parse ({} : Config).service.baseUrl = .ok usualBase := by
  have htext : ({} : Config).service.baseUrl =
      String.ofList ("http".toList ++ ':' :: '/' :: '/' :: usualAuthority.text) := by
    decide
  rw [htext]
  exact Url.parse_authority usualAuthority_isStable (by decide)

/-- The values that settings have when nothing is said about them break no rule. -/
theorem default_isValid : ({} : Config).isValid = true := by
  have haddress : ({} : Config).addressProblems = [] := by decide
  have hbase : baseUrlProblems ({} : Config).service.baseUrl = [] := by
    rw [baseUrlProblems, parse_usual]
    decide
  exact isValid_iff.mpr ⟨haddress, hbase, by decide +kernel⟩

lemma usualBase_isBase : usualBase.IsBase := by
  obtain ⟨base, hp, hb⟩ := exists_base default_isValid
  obtain rfl := Except.ok.inj (parse_usual.symm.trans hp)
  exact hb

end Config

end RestGateway
