import Mathlib
import RestGateway.Proofs.Gateway.Preparing

/-! Whatever a caller sends, the request goes to the server that the configuration names: its URL
agrees with the base URL on the scheme, the user, the host and the port. -/
namespace RestGateway.Gateway

/-! ### Calls -/

namespace IsSound
variable {g : Gateway} (hg : g.IsSound)
include hg

lemma prepare_ne_invalidUrl (c : Call) (url : String) (reason : Url.Error) :
    g.prepare c ≠ .error (.refused (.invalidUrl url reason)) := by
  rcases he : c.entries with e | payload
  · simp [prepare_of_entries_error he]
  by_cases hr : (g.bound c payload).rejected = []
  · obtain ⟨u, hj, -⟩ := hg.exists_join c payload
    rw [prepare_of_join he hr hj]
    cases c.forwardedHeaders? <;> simp
  · simp [prepare_of_rejected he hr, dotSegments]

lemma sameServer_of_prepare {c : Call} {o : Outbound} (h : g.prepare c = .ok o) :
    o.url.SameServer g.base := by
  obtain ⟨payload, url, headers, -, -, hj, -, rfl⟩ := exists_of_prepare_eq_ok h
  obtain ⟨u, hu, hs⟩ := hg.exists_join c payload
  rw [hj, Except.ok.injEq] at hu
  rwa [← hu] at hs

end IsSound

/-! ### The parts of a gateway -/

lemma base?_ne_invalidUrl {service : Config.Service} {base : Url}
    (h : Url.parse service.baseUrl = .ok base) (url : String) (reason : Url.Error) :
    base? service ≠ .error (.invalidUrl url reason) := by
  unfold base?
  rw [h]
  dsimp only
  split_ifs <;> simp

lemma exists_probe {base : Url} (hb : base.IsBase) {health : Config.HealthCheck}
    {behind : List Char} (hp : health.path.toList = '/' :: behind) :
    ∃ probe, probe? base health = .ok probe ∧ probe.url.SameServer base := by
  obtain ⟨url, hj, hs⟩ := hb.exists_join hp
  refine ⟨⟨url, health.timeout⟩, ?_, hs⟩
  unfold probe?
  dsimp only
  rw [Url.join_eq_ok_iff.mp hj]

/-- From a valid configuration a gateway is made unless its name cannot be sent. -/
theorem exists_ofConfig {cfg : Config} (hc : cfg.isValid = true)
    (hu : Headers.isValue cfg.service.userAgent = true) (plan : Call → Call) :
    ∃ g, ofConfig cfg plan = .ok g := by
  obtain ⟨base, hp, hb⟩ := Config.exists_base hc
  obtain ⟨behind, hh⟩ := Config.healthPath_slash hc
  obtain ⟨probe, hprobe, -⟩ := exists_probe hb hh
  have hbase : base? cfg.service = .ok base := by
    unfold base?
    rw [hp]
    exact if_pos hu
  simp only [ofConfig, hbase, hprobe, bind, Except.bind, pure, Except.pure]
  exact ⟨_, rfl⟩

lemma exists_usual (plan : Call → Call) : ∃ g, ofConfig {} plan = .ok g :=
  exists_ofConfig Config.default_isValid (by decide) plan

/-- A call without refused values becomes a request. -/
theorem exists_request {cfg : Config} (hc : cfg.isValid = true)
    (hu : Headers.isValue cfg.service.userAgent = true) (plan : Call → Call) {c : Call}
    {payload : Dict Json} (he : c.entries = .ok payload)
    (hr : (Template.bind (cfg.routing.toRoutes.resolve c.method).template payload).rejected = [])
    {headers : Headers} (hh : c.forwardedHeaders? = some headers) :
    ∃ g o, ofConfig cfg plan = .ok g ∧ g.prepare c = .ok o := by
  obtain ⟨g, hg⟩ := exists_ofConfig hc hu plan
  have hb : (g.bound c payload).rejected = [] := by rwa [bound, routes_of_ofConfig hg]
  obtain ⟨o, ho⟩ := (sound_of_ofConfig hc hg).exists_prepare he hb hh
  exact ⟨g, o, hg, ho⟩

/-- With a valid configuration every request goes to the configured server, whatever the call is,
and no call is stopped for its URL. -/
theorem requests_stay_on_server {cfg : Config} (hc : cfg.isValid = true) :
    ∃ base, Url.parse cfg.service.baseUrl = .ok base ∧
      (∀ url reason, base? cfg.service ≠ .error (.invalidUrl url reason)) ∧
      (∃ probe, probe? base cfg.healthCheck = .ok probe ∧ probe.url.SameServer base) ∧
      ∀ plan g, ofConfig cfg plan = .ok g → g.probe.url.SameServer base ∧
        ∀ c : Call, (∀ url reason, g.prepare c ≠ .error (.refused (.invalidUrl url reason))) ∧
          ∀ o, g.prepare c = .ok o → o.url.SameServer base := by
  obtain ⟨base, hp, hb⟩ := Config.exists_base hc
  obtain ⟨behind, hh⟩ := Config.healthPath_slash hc
  obtain ⟨probe, hprobe, hs⟩ := exists_probe hb hh
  refine ⟨base, hp, base?_ne_invalidUrl hp, ⟨probe, hprobe, hs⟩, ?_⟩
  intro plan g hg
  have hsound := sound_of_ofConfig hc hg
  obtain ⟨base', probe', hb', hprobe', rfl⟩ := eq_of_ofConfig hg
  have he : base = base' := Except.ok.inj (hp.symm.trans (parse_of_base? hb'))
  subst he
  have hpe : probe = probe' := Except.ok.inj (hprobe.symm.trans hprobe')
  subst hpe
  exact ⟨hs, fun c => ⟨hsound.prepare_ne_invalidUrl c, fun o => hsound.sameServer_of_prepare⟩⟩

/-- The usual configuration, and a method that looks like another server. -/
theorem default_requests_stay_on_server :
    ({} : Config).isValid = true ∧ ∃ base g o, Url.parse "http://localhost:8000" = .ok base ∧
      ofConfig {} id = .ok g ∧ g.prepare (.ofMethod "//other.example/..") = .ok o ∧
      g.probe.url.SameServer base ∧ o.url.SameServer base := by
  have hc := Config.default_isValid
  obtain ⟨base, hp, -, -, hall⟩ := requests_stay_on_server hc
  obtain ⟨g, o, hg, ho⟩ := exists_request hc (by decide +kernel) id
    (c := .ofMethod "//other.example/..") rfl (by decide +kernel) rfl
  obtain ⟨hprobe, hcalls⟩ := hall id g hg
  exact ⟨hc, base, g, o, hp, hg, ho, hprobe, (hcalls _).2 o ho⟩

end RestGateway.Gateway
