import Mathlib
import RestGateway.Proofs.Duration
import RestGateway.Proofs.Gateway.Message
import RestGateway.Proofs.Gateway.Outcome

/-! Every call has the deadline that is configured for its time limit, and a call whose answer is
never complete fails and names the milliseconds of this deadline. -/
namespace RestGateway

namespace Duration

lemma ofSeconds_eq (n : Nat) : ofSeconds n = ofMillis (1000 * n) := by
  simp only [ofSeconds, ofMillis, mk.injEq]
  omega

lemma nanos_ofMillis_le_iff {m n : Nat} : (ofMillis m).nanos ≤ (ofMillis n).nanos ↔ m ≤ n := by
  simp only [ofMillis]
  omega

lemma min_ofMillis (m n : Nat) : (ofMillis m).min (ofMillis n) = ofMillis (Min.min m n) := by
  rw [Duration.min]
  by_cases h : m ≤ n
  · rw [if_pos (nanos_ofMillis_le_iff.mpr h), min_eq_left h]
  · rw [if_neg (nanos_ofMillis_le_iff.not.mpr h), min_eq_right (by omega)]

lemma millis_ofMillis (n : Nat) : (ofMillis n).millis = n := by
  simp [ofMillis, millis]

end Duration

lemma Config.timeouts_of_isValid {c : Config} (hc : c.isValid = true) :
    0 < c.service.requestTimeoutSeconds ∧
      c.service.requestTimeoutSeconds ≤ c.service.maxRequestTimeoutSeconds := by
  obtain ⟨-, -, htimeouts, -⟩ := isValid_iff.mp hc
  simp only [timeoutProblems, List.append_eq_nil_iff, report_eq_nil_iff, beq_eq_false_iff_ne]
    at htimeouts
  obtain ⟨⟨husual, hlatest⟩, -⟩ := htimeouts
  split_ifs at hlatest with hzero
  rw [report_eq_nil_iff, decide_eq_false_iff_not] at hlatest
  omega

namespace Deadline

/-- The deadline that is configured for a time limit. -/
structure IsConfigured (service : Config.Service) (requestedMillis : Option Nat)
    (deadline : Duration) : Prop where
  pos : 0 < deadline.nanos
  le_latest : deadline.nanos ≤ service.maxRequestTimeout.nanos
  usual : requestedMillis = none ∨ requestedMillis = some 0 → deadline = service.requestTimeout
  requested : ∀ n, requestedMillis = some n → 0 < n →
    n ≤ 1000 * service.maxRequestTimeoutSeconds → deadline = .ofMillis n
  capped : ∀ n, requestedMillis = some n → 1000 * service.maxRequestTimeoutSeconds < n →
    deadline = service.maxRequestTimeout
  le_requested : ∀ n, requestedMillis = some n → 0 < n →
    deadline.nanos ≤ (Duration.ofMillis n).nanos
  /-- No part of a millisecond is left over. -/
  whole : deadline = .ofMillis deadline.millis

/-- The milliseconds up to the deadline. -/
def millisFor (service : Config.Service) : Option Nat → Nat
  | none => 1000 * service.requestTimeoutSeconds
  | some 0 => 1000 * service.requestTimeoutSeconds
  | some (n + 1) => min (n + 1) (1000 * service.maxRequestTimeoutSeconds)

lemma millisFor_of_pos (service : Config.Service) {n : Nat} (hn : 0 < n) :
    millisFor service (some n) = min n (1000 * service.maxRequestTimeoutSeconds) := by
  obtain ⟨m, rfl⟩ := Nat.exists_eq_add_one_of_ne_zero hn.ne'
  rfl

section
variable {service : Config.Service}
  (hle : service.requestTimeoutSeconds ≤ service.maxRequestTimeoutSeconds)
include hle

lemma resolve_eq (requestedMillis : Option Nat) :
    resolve requestedMillis service.requestTimeout service.maxRequestTimeout =
      .ofMillis (millisFor service requestedMillis) := by
  simp only [resolve, Config.Service.requestTimeout, Config.Service.maxRequestTimeout,
    Duration.ofSeconds_eq]
  cases requestedMillis with
  | none => rw [Duration.min_ofMillis, min_eq_left (by omega), millisFor]
  | some n =>
    cases n with
    | zero => simp [Duration.min_ofMillis, millisFor, hle]
    | succ n => simp [Duration.min_ofMillis, millisFor]

lemma isConfigured_resolve (hpos : 0 < service.requestTimeoutSeconds)
    (requestedMillis : Option Nat) : IsConfigured service requestedMillis
      (resolve requestedMillis service.requestTimeout service.maxRequestTimeout) := by
  have hlatest : service.maxRequestTimeout = .ofMillis (1000 * service.maxRequestTimeoutSeconds) :=
    Duration.ofSeconds_eq _
  rw [resolve_eq hle]
  constructor
  · rcases requestedMillis with _ | _ | n <;> simp only [millisFor, Duration.ofMillis] <;> omega
  · rw [hlatest, Duration.nanos_ofMillis_le_iff]
    rcases requestedMillis with _ | _ | n <;> simp only [millisFor] <;> omega
  · intro h
    have husual : service.requestTimeout = .ofMillis (1000 * service.requestTimeoutSeconds) :=
      Duration.ofSeconds_eq _
    rw [husual]
    rcases h with h | h <;> rw [h, millisFor]
  · intro n h hn hmax
    rw [h, millisFor_of_pos service hn, min_eq_left hmax]
  · intro n h hmax
    rw [h, millisFor_of_pos service (by omega), min_eq_right hmax.le, hlatest]
  · intro n h hn
    rw [h, millisFor_of_pos service hn, Duration.nanos_ofMillis_le_iff]
    exact min_le_left _ _
  · rw [Duration.millis_ofMillis]

/-- A longer time limit makes no earlier deadline. -/
lemma resolve_mono {m n : Nat} (hm : 0 < m) (hmn : m ≤ n) :
    (resolve (some m) service.requestTimeout service.maxRequestTimeout).nanos ≤
      (resolve (some n) service.requestTimeout service.maxRequestTimeout).nanos := by
  rw [resolve_eq hle, resolve_eq hle, millisFor_of_pos service hm,
    millisFor_of_pos service (by omega), Duration.nanos_ofMillis_le_iff]
  exact min_le_min_right _ hmn

end

end Deadline

namespace Gateway

/-- There is a connection to the URL, and the answer to the message is never complete. -/
def Downstream.NeverEnds (d : Downstream) (url : Url) (m : Message) : Prop :=
  ∃ answer, d url = .made answer ∧ (answer m = .silent ∨ ∃ status, answer m = .endless status)

lemma deadline_of_prepare {cfg : Config} {plan : Call → Call} {g : Gateway}
    (hg : ofConfig cfg plan = .ok g) {c : Call} {o : Outbound} (ho : g.prepare c = .ok o) :
    o.deadline = Deadline.resolve c.timeoutMillis cfg.service.requestTimeout
      cfg.service.maxRequestTimeout := by
  obtain ⟨payload, url, headers, -, -, -, -, rfl⟩ := exists_of_prepare_eq_ok ho
  obtain ⟨base, probe, -, -, rfl⟩ := eq_of_ofConfig hg
  rfl

lemma run?_of_neverEnds {g : Gateway} {d : Downstream} {c : Call} {o : Outbound}
    (ho : g.prepare c = .ok o) (hsend : canSend o.target = true) {m : Message}
    (hm : o.message? g.userAgent = some m) (hd : d.NeverEnds o.target m) :
    ∃ outcome, g.run? d c = some (outcome, [m]) ∧ outcome.success = false ∧
      outcome.error = "request to " ++ o.url.text ++ " timed out after " ++
        toString o.deadline.millis ++ "ms" := by
  obtain ⟨answer, hanswer, hnever⟩ := hd
  have hlate : replyInTime o (.ok (answer m)) = .error (.timeout o.url.text o.deadline) := by
    rcases hnever with hm | ⟨status, hm⟩ <;> rw [hm] <;> rfl
  refine ⟨_, run?_of_message? ho hm hsend hanswer, ?_⟩
  rw [hlate]
  exact ⟨rfl, Outcome.failure_error (.timeout o.url.text o.deadline)⟩

/-- Every request has a deadline, the one that is configured for the time limit of the call, and a
call that is not answered by then fails and says so. In words of 64 bits nothing wraps around. -/
theorem calls_are_bounded {cfg : Config} (hc : cfg.isValid = true) {plan : Call → Call}
    {g : Gateway} (hg : ofConfig cfg plan = .ok g) :
    (∀ c o, g.prepare c = .ok o →
      Deadline.IsConfigured cfg.service c.timeoutMillis o.deadline ∧
        ∀ (requestedMillis : Option UInt64) (usual latest : UInt64),
          c.timeoutMillis = requestedMillis.map UInt64.toNat →
          cfg.service.requestTimeoutSeconds = usual.toNat →
          cfg.service.maxRequestTimeoutSeconds = latest.toNat →
          (Duration.Words.resolve requestedMillis usual latest).toDuration = o.deadline ∧
            (Duration.Words.resolve requestedMillis usual latest).millis.toNat =
              o.deadline.millis) ∧
      (∀ c c' o o' m n, g.prepare c = .ok o → g.prepare c' = .ok o' → c.timeoutMillis = some m →
        c'.timeoutMillis = some n → 0 < m → m ≤ n → o.deadline.nanos ≤ o'.deadline.nanos) ∧
      ∀ (d : Downstream) c o m, g.prepare c = .ok o → canSend o.target = true →
        o.message? g.userAgent = some m → d.NeverEnds o.target m →
        ∃ outcome, g.execute? d c = some (outcome, [m]) ∧
          (∀ undone, g.plan undone = c → g.compensate? d undone = some (outcome, [m])) ∧
          outcome.success = false ∧
          outcome.error = "request to " ++ o.url.text ++ " timed out after " ++
            toString o.deadline.millis ++ "ms" := by
  obtain ⟨hpos, hle⟩ := Config.timeouts_of_isValid hc
  refine ⟨fun c o ho => ⟨?_, ?_⟩, ?_, ?_⟩
  · rw [deadline_of_prepare hg ho]
    exact Deadline.isConfigured_resolve hle hpos c.timeoutMillis
  · intro requestedMillis usual latest hrequested husual hlatest
    have hwords :
        (Duration.Words.resolve requestedMillis usual latest).toDuration = o.deadline := by
      rw [deadline_of_prepare hg ho, Duration.Words.toDuration_resolve, hrequested,
        Config.Service.requestTimeout, Config.Service.maxRequestTimeout, husual, hlatest]
    exact ⟨hwords, by rw [Duration.Words.toNat_millis, hwords]⟩
  · intro c c' o o' m n ho ho' hm hn hpos hmn
    rw [deadline_of_prepare hg ho, deadline_of_prepare hg ho', hm, hn]
    exact Deadline.resolve_mono hle hpos hmn
  · intro d c o m ho hsend hm hd
    obtain ⟨outcome, hrun, hfailure⟩ := run?_of_neverEnds ho hsend hm hd
    refine ⟨outcome, hrun, ?_, hfailure⟩
    rintro undone rfl
    exact hrun

/-- A call that gives itself the longest time that a caller can ask for. -/
def patientCall : Call := { ordersCall with timeoutMillis := some 0xFFFFFFFFFFFFFFFF }

/-- A service that begins an answer and never ends it gets two minutes. -/
theorem patient_call_is_bounded : ({} : Config).isValid = true ∧ ∃ g o m outcome,
    ofConfig {} id = .ok g ∧ g.prepare patientCall = .ok o ∧ o.deadline = .ofSeconds 120 ∧
      g.execute? (.answering fun _ => .endless 200) patientCall = some (outcome, [m]) ∧
      outcome.success = false ∧ outcome.error =
        "request to http://localhost:8000/api/listorders timed out after 120000ms" := by
  have hc := Config.default_isValid
  obtain ⟨g, hg⟩ := exists_usual id
  have hj : g.base.join "/api/listorders" = .ok ordersRequest.url := by
    rw [base_of_ofConfig hg, join_listOrders]
  have hentries : patientCall.entries = .ok [] := rfl
  have ho := prepare_listOrders (routes_of_ofConfig hg) rfl hentries hj rfl
  obtain ⟨hconfigured, -, hfails⟩ := calls_are_bounded hc hg
  have hdeadline := (hconfigured _ _ ho).1.capped _ rfl (by decide)
  have hsend : canSend ordersRequest.target = true := by decide +kernel
  have hurl : ordersRequest.url.text = "http://localhost:8000/api/listorders" := by decide +kernel
  obtain ⟨m, hm⟩ := exists_message?_of_fits ho (by decide +kernel)
  obtain ⟨outcome, hrun, -, hfailed, herror⟩ := hfails (.answering fun _ => .endless 200) _ _ m ho
    hsend hm ⟨_, rfl, Or.inr ⟨200, rfl⟩⟩
  refine ⟨hc, g, _, m, outcome, hg, ho, hdeadline, hrun, hfailed, ?_⟩
  rw [herror, hdeadline]
  dsimp only
  rw [hurl]
  decide +kernel

end Gateway

end RestGateway
