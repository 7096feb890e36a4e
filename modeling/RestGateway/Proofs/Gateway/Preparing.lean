import Mathlib
import RestGateway.Gateway
import RestGateway.Proofs.Config

/-! The steps that make a request of a call, and what is known of a gateway that is made from a
valid configuration: paths can be put behind its base URL, and every path it binds starts with a
slash. -/
namespace RestGateway.Gateway

/-- What becomes of the template of a call when its payload has the given entries. -/
def bound (g : Gateway) (c : Call) (payload : Dict Json) : Template.Bound :=
  Template.bind (g.routes.resolve c.method).template payload

/-- The request of a call to a URL. -/
def request (g : Gateway) (c : Call) (payload : Dict Json) (url : Url) (headers : Headers) :
    Outbound :=
  let verb := (g.routes.resolve c.method).verb
  let sent := place verb (if g.stripBoundParams then (g.bound c payload).remaining else payload)
  { verb
    url
    body := sent.1
    query := sent.2
    headers
    deadline := Deadline.resolve c.timeoutMillis g.usualDeadline g.latestDeadline }

/-! ### Steps of a preparation -/

section
variable {g : Gateway} {c : Call}

lemma prepare_of_entries_error {reason : String} (h : c.entries = .error reason) :
    g.prepare c = .error (.refused (.invalidPayload reason)) := by
  simp only [prepare, h, Except.mapError, bind, Except.bind]

variable {payload : Dict Json} (he : c.entries = .ok payload)
include he

lemma prepare_of_rejected (hr : (g.bound c payload).rejected ≠ []) :
    g.prepare c = .error (.refused (dotSegments (g.bound c payload).rejected)) := by
  simp only [bound] at hr
  simp only [prepare, he, Except.mapError, bind, Except.bind, if_pos hr]
  rfl

variable (hr : (g.bound c payload).rejected = [])
include hr

lemma prepare_of_join_error {e : CallError}
    (hj : g.base.join (g.bound c payload).path = .error e) :
    g.prepare c = .error (.refused e) := by
  simp only [bound] at hr hj
  simp only [prepare, he, Except.mapError, bind, Except.bind, if_neg (not_not_intro hr), hj]

lemma prepare_of_join {url : Url} (hj : g.base.join (g.bound c payload).path = .ok url) :
    g.prepare c = match c.forwardedHeaders? with
      | none => .error .tooManyHeaders
      | some headers => .ok (g.request c payload url headers) := by
  simp only [bound] at hr hj
  simp only [prepare, he, Except.mapError, bind, Except.bind, if_neg (not_not_intro hr), hj]
  cases c.forwardedHeaders? <;> rfl

end

/-- A call becomes a request when all of the steps succeed. -/
theorem exists_of_prepare_eq_ok {g : Gateway} {c : Call} {o : Outbound} (h : g.prepare c = .ok o) :
    ∃ payload url headers, c.entries = .ok payload ∧ (g.bound c payload).rejected = [] ∧
      g.base.join (g.bound c payload).path = .ok url ∧ c.forwardedHeaders? = some headers ∧
      o = g.request c payload url headers := by
  rcases he : c.entries with reason | payload
  · rw [prepare_of_entries_error he] at h
    simp at h
  by_cases hr : (g.bound c payload).rejected = []
  · rcases hj : g.base.join (g.bound c payload).path with e | url
    · rw [prepare_of_join_error he hr hj] at h
      simp at h
    · rw [prepare_of_join he hr hj] at h
      rcases hf : c.forwardedHeaders? with _ | headers
      · simp [hf] at h
      · rw [hf] at h
        exact ⟨payload, url, headers, rfl, hr, hj, rfl, (Except.ok.inj h).symm⟩
  · rw [prepare_of_rejected he hr] at h
    simp at h

lemma prepare_ne_tooManyHeaders {g : Gateway} {c : Call} {headers : Headers}
    (hh : c.forwardedHeaders? = some headers) : g.prepare c ≠ .error .tooManyHeaders := by
  rcases he : c.entries with reason | payload
  · simp [prepare_of_entries_error he]
  by_cases hr : (g.bound c payload).rejected = []
  · rcases hj : g.base.join (g.bound c payload).path with e | url
    · simp [prepare_of_join_error he hr hj]
    · simp [prepare_of_join he hr hj, hh]
  · simp [prepare_of_rejected he hr]

/-! ### Sound gateways -/

/-- Every path of a call can be put behind the base URL. -/
structure IsSound (g : Gateway) : Prop where
  base : g.base.IsBase
  slash : ∀ method, ∃ rest, (g.routes.resolve method).template.toList = '/' :: rest

namespace IsSound
variable {g : Gateway} (hg : g.IsSound)
include hg

theorem exists_join (c : Call) (payload : Dict Json) :
    ∃ url, g.base.join (g.bound c payload).path = .ok url ∧ url.SameServer g.base := by
  obtain ⟨rest, hr⟩ := hg.slash c.method
  exact hg.base.exists_join (Template.bind_path_of_slash hr payload)

theorem exists_prepare {c : Call} {payload : Dict Json} (he : c.entries = .ok payload)
    (hr : (g.bound c payload).rejected = []) {headers : Headers}
    (hh : c.forwardedHeaders? = some headers) : ∃ o, g.prepare c = .ok o := by
  obtain ⟨url, hj, -⟩ := hg.exists_join c payload
  exact ⟨_, by rw [prepare_of_join he hr hj, hh]⟩

end IsSound

lemma eq_of_ofConfig {cfg : Config} {plan : Call → Call} {g : Gateway}
    (h : ofConfig cfg plan = .ok g) :
    ∃ base probe, base? cfg.service = .ok base ∧ probe? base cfg.healthCheck = .ok probe ∧
      g = { base
            userAgent := cfg.service.userAgent
            routes := cfg.routing.toRoutes
            usualDeadline := cfg.service.requestTimeout
            latestDeadline := cfg.service.maxRequestTimeout
            stripBoundParams := cfg.routing.stripBoundParams
            probe
            plan } := by
  simp only [ofConfig, bind, Except.bind] at h
  split at h
  · simp at h
  next base hb =>
    split at h
    · simp at h
    next probe hp => exact ⟨base, probe, hb, hp, (Except.ok.inj h).symm⟩

lemma routes_of_ofConfig {cfg : Config} {plan : Call → Call} {g : Gateway}
    (h : ofConfig cfg plan = .ok g) : g.routes = cfg.routing.toRoutes := by
  obtain ⟨base, probe, -, -, rfl⟩ := eq_of_ofConfig h
  rfl

lemma parse_of_base? {service : Config.Service} {base : Url} (h : base? service = .ok base) :
    Url.parse service.baseUrl = .ok base := by
  unfold base? at h
  split at h
  · simp at h
  · next hp =>
    split_ifs at h
    rw [hp, Except.ok.inj h]

theorem sound_of_ofConfig {cfg : Config} (hc : cfg.isValid = true) {plan : Call → Call}
    {g : Gateway} (h : ofConfig cfg plan = .ok g) : g.IsSound := by
  obtain ⟨base, probe, hb, -, rfl⟩ := eq_of_ofConfig h
  obtain ⟨base', hp, hbase⟩ := Config.exists_base hc
  rw [parse_of_base? hb, Except.ok.injEq] at hp
  subst hp
  exact ⟨hbase, Config.resolve_slash hc⟩

end RestGateway.Gateway
