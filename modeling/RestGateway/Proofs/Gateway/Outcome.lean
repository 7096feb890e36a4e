import Mathlib
import RestGateway.Proofs.Gateway.Message
import RestGateway.Proofs.Gateway.Server
import RestGateway.Proofs.Reply

/-! The outcome of a call says what became of it, whatever the service does: whether there are data
and which, the words of a refusal, and what is known about the request that was made. -/
namespace RestGateway

namespace CallError

lemma append_ne_empty {s t : String} (h : s ≠ "") : s ++ t ≠ "" :=
  fun he => h (String.append_eq_empty_iff.mp he).1

lemma message_ne_empty (e : CallError) : e.message ≠ "" := by
  cases e with
  | timeout url limit =>
    exact append_ne_empty (append_ne_empty (append_ne_empty (append_ne_empty (by decide))))
  | request url reason =>
    exact append_ne_empty (append_ne_empty (append_ne_empty (by decide)))
  | invalidUrl url reason =>
    exact append_ne_empty (append_ne_empty (append_ne_empty (by decide)))
  | application status body =>
    change (if body.isEmpty then "HTTP " ++ toString status else body) ≠ ""
    split_ifs with hb
    · exact append_ne_empty (by decide)
    · exact fun h => hb (String.isEmpty_iff.mpr h)
  | unreadableBody reason => exact append_ne_empty (by decide)
  | invalidPayload reason => exact append_ne_empty (by decide)

lemma message_application (status : Nat) (body : String) : (application status body).message =
    if body = "" then "HTTP " ++ toString status else body := by
  change (if body.isEmpty then "HTTP " ++ toString status else body) = _
  simp only [String.isEmpty_iff]

end CallError

namespace Outcome

/-- There is an error exactly when there is no success, and then there are no data. -/
structure IsWellFormed (o : Outcome) : Prop where
  error_eq_empty_iff : o.error = "" ↔ o.success = true
  data_eq_nil : o.success = false → o.data = []

lemma ok_isWellFormed (data : Dict Json) : (ok data).IsWellFormed := ⟨by simp [ok], by simp [ok]⟩

lemma failure_error (e : CallError) : (failure e.message).error = e.message := by
  simp [failure, e.message_ne_empty]

lemma failure_isWellFormed (e : CallError) : (failure e.message).IsWellFormed := by
  refine ⟨?_, fun _ => rfl⟩
  rw [failure_error]
  exact iff_of_false e.message_ne_empty (by simp [failure])

lemma ofResult_isWellFormed (result : Except CallError (Dict Json)) :
    (ofResult result).IsWellFormed := by
  cases result with
  | ok data => exact ok_isWellFormed data
  | error e => exact failure_isWellFormed e

lemma success_ofResult_iff {result : Except CallError (Dict Json)} :
    (ofResult result).success = true ↔ ∃ data, result = .ok data := by
  cases result <;> simp [ofResult, ok, failure]

lemma IsWellFormed.withMetadata {o : Outcome} (h : o.IsWellFormed) (metadata : Dict String) :
    (o.withMetadata metadata).IsWellFormed := ⟨h.error_eq_empty_iff, h.data_eq_nil⟩

end Outcome

namespace Gateway

/-- The reply that arrives whole and in time, if the request can be sent and reaches a service. -/
def received? (g : Gateway) (d : Downstream) (o : Outbound) : Option Reply :=
  match o.message? g.userAgent, d o.target with
  | some m, .made answer =>
    if canSend o.target then
      match answer m with
      | .reply r => some r
      | _ => none
    else none
  | _, _ => none

/-- What is known in the end about the request of a call. -/
def known (g : Gateway) (d : Downstream) (c : Call) : Dict String :=
  match g.prepare c with
  | .error _ => []
  | .ok o =>
    match g.received? d o with
    | none => [("http_method", o.verb.name), ("path", o.url.pathText)]
    | some r => [("http_method", o.verb.name), ("http_status", toString r.status),
        ("path", o.url.pathText)]

/-- The outcome says what became of the call. -/
structure Reports (g : Gateway) (d : Downstream) (c : Call) (outcome : Outcome) : Prop where
  wellFormed : outcome.IsWellFormed
  success_iff : outcome.success = true ↔ ∃ o r, g.prepare c = .ok o ∧ g.received? d o = some r ∧
    r.status < 400 ∧ (Text.isBlank r.body = true ∨ ∃ v, Json.parse r.body = .ok v)
  data : outcome.success = true → ∀ o r, g.prepare c = .ok o → g.received? d o = some r →
    Reply.IsDataOf r.body outcome.data
  refusal : ∀ o r, g.prepare c = .ok o → g.received? d o = some r → 400 ≤ r.status →
    outcome.error = if r.body = "" then "HTTP " ++ toString r.status else r.body
  metadata : outcome.metadata = g.known d c

/-! ### Runs -/

/-- What comes of sending a request is a reply exactly when one is received. -/
theorem received?_eq_some_iff {g : Gateway} {d : Downstream} {o : Outbound}
    {result : Except String Exchange} {sent : List Message}
    (h : g.send? d o = some (result, sent)) (r : Reply) :
    g.received? d o = some r ↔ result = .ok (.reply r) := by
  rcases send?_cases h with ⟨answer, m, hsend, hd, hm, rfl, -⟩ | ⟨-, hnot, hnone⟩
  · simp only [received?, hm, hd, if_pos hsend, Except.ok.injEq]
    cases answer m <;> simp
  · refine iff_of_false (fun hr => ?_) (hnot r)
    unfold received? at hr
    split at hr
    next m answer hm hd =>
      split_ifs at hr with hsend
      have hc : d.connects o.target = true := by rw [Downstream.connects, hd]
      simp [hnone hsend hc] at hm
    · simp at hr

lemma insert_status (o : Outbound) (status : String) :
    (requestMetadata o).insert "http_status" status =
      [("http_method", o.verb.name), ("http_status", status), ("path", o.url.pathText)] := by
  -- entries ascend by their keys, so the status goes between the two that are there
  have hmethod : ¬"http_status" < "http_method" := by decide +kernel
  have hpath : "http_status" < "path" := by decide +kernel
  rw [requestMetadata, Dict.insert, if_neg hmethod, if_neg (by decide), Dict.insert, if_pos hpath]

lemma outcomeOf_ok (o : Outbound) (r : Reply) : outcomeOf o (.ok r) =
    (Outcome.ofResult r.data).withMetadata [("http_method", o.verb.name),
      ("http_status", toString r.status), ("path", o.url.pathText)] :=
  congrArg _ (insert_status o _)

lemma exists_replyInTime_of_not_reply {o : Outbound} {result : Except String Exchange}
    (h : ∀ r, result ≠ .ok (.reply r)) : ∃ e, replyInTime o result = .error e := by
  rcases result with reason | r | _ | status | _ | status
  · exact ⟨_, rfl⟩
  · exact absurd rfl (h r)
  all_goals exact ⟨_, rfl⟩

section
variable {g : Gateway} {d : Downstream} {c : Call}

lemma reports_of_refused {e : CallError} (h : g.prepare c = .error (.refused e)) :
    g.Reports d c (Outcome.failure e.message) where
  wellFormed := Outcome.failure_isWellFormed e
  success_iff := iff_of_false (by simp [Outcome.failure]) (by simp [h])
  data := by simp [h]
  refusal := by simp [h]
  metadata := by rw [known, h]; rfl

variable {o : Outbound} (ho : g.prepare c = .ok o)
include ho

lemma reports_of_received {r : Reply} (hr : g.received? d o = some r) :
    g.Reports d c (outcomeOf o (.ok r)) := by
  -- the fields speak of any reply to the request of the call, and there is only this one
  have heq : ∀ {o' r'}, g.prepare c = .ok o' → g.received? d o' = some r' → r' = r := by
    intro o' r' ho' hr'
    rw [ho, Except.ok.injEq] at ho'
    rw [← ho', hr, Option.some.injEq] at hr'
    exact hr'.symm
  rw [outcomeOf_ok]
  constructor
  · exact (Outcome.ofResult_isWellFormed r.data).withMetadata _
  · constructor
    · intro hs
      obtain ⟨data, hd⟩ := Outcome.success_ofResult_iff.mp hs
      obtain ⟨hlt, hdata⟩ := Reply.data_eq_ok_iff.mp hd
      exact ⟨o, r, ho, hr, hlt, Reply.exists_isDataOf_iff.mp ⟨data, hdata⟩⟩
    · rintro ⟨o', r', ho', hr', hlt, hbody⟩
      obtain rfl := heq ho' hr'
      obtain ⟨data, hdata⟩ := Reply.exists_isDataOf_iff.mpr hbody
      exact Outcome.success_ofResult_iff.mpr ⟨data, Reply.data_eq_ok_iff.mpr ⟨hlt, hdata⟩⟩
  · intro hs o' r' ho' hr'
    obtain rfl := heq ho' hr'
    obtain ⟨data, hd⟩ := Outcome.success_ofResult_iff.mp hs
    rw [hd]
    exact (Reply.data_eq_ok_iff.mp hd).2
  · intro o' r' ho' hr' hge
    obtain rfl := heq ho' hr'
    rw [Reply.data_of_refusal hge]
    exact (Outcome.failure_error _).trans (CallError.message_application _ _)
  · simp only [known, ho, hr]
    rfl

lemma reports_of_not_received (hr : g.received? d o = none) (e : CallError) :
    g.Reports d c (outcomeOf o (.error e)) := by
  have hnone : ∀ o' r, g.prepare c = .ok o' → g.received? d o' ≠ some r := by
    intro o' r ho' hr'
    rw [ho, Except.ok.injEq] at ho'
    rw [← ho', hr] at hr'
    simp at hr'
  constructor
  · exact (Outcome.failure_isWellFormed e).withMetadata _
  · refine iff_of_false (by simp [outcomeOf, Outcome.failure, Outcome.withMetadata]) ?_
    rintro ⟨o', r, ho', hr', -⟩
    exact hnone o' r ho' hr'
  · exact fun _ o' r ho' hr' => absurd hr' (hnone o' r ho')
  · exact fun o' r ho' hr' => absurd hr' (hnone o' r ho')
  · simp only [known, ho, hr]
    rfl

lemma reports_of_send? {result : Except String Exchange} {sent : List Message}
    (hs : g.send? d o = some (result, sent)) :
    g.Reports d c (outcomeOf o (replyInTime o result)) := by
  cases hr : g.received? d o with
  | some r =>
    obtain rfl := (received?_eq_some_iff hs r).mp hr
    exact reports_of_received ho hr
  | none =>
    obtain ⟨e, he⟩ := exists_replyInTime_of_not_reply (o := o) fun r hreply => by
      simp [(received?_eq_some_iff hs r).mpr hreply] at hr
    rw [he]
    exact reports_of_not_received ho hr e

end

/-- Every call whose headers there is room for, beside those of the client, has an outcome, and
every outcome says what became of the call, whatever the service does. -/
theorem outcome_reports (g : Gateway) (d : Downstream) (c : Call) :
    (c.Fits → ∃ outcome sent, g.execute? d c = some (outcome, sent)) ∧
      ∀ outcome sent, g.execute? d c = some (outcome, sent) → g.Reports d c outcome := by
  refine ⟨g.exists_run? d, fun outcome sent h => ?_⟩
  cases ho : g.prepare c with
  | error stop =>
    cases stop with
    | refused e =>
      rw [execute?, run?, ho] at h
      obtain ⟨rfl, -⟩ := Prod.mk.inj (Option.some.inj h)
      exact reports_of_refused ho
    | tooManyHeaders => simp [execute?, run?, ho] at h
  | ok o =>
    rw [execute?, run?_of_prepare ho] at h
    obtain ⟨⟨result, messages⟩, hs, he⟩ := Option.map_eq_some_iff.mp h
    obtain ⟨rfl, -⟩ := Prod.mk.inj he
    exact reports_of_send? ho hs

/-! ### A call with the usual routes -/

lemma prepare_listOrders {g : Gateway} (hg : g.routes = ({} : Config.Routing).toRoutes) {c : Call}
    (hm : c.method = "ListOrders") {payload : Dict Json} (he : c.entries = .ok payload) {url : Url}
    (hj : g.base.join "/api/listorders" = .ok url) {headers : Headers}
    (hh : c.forwardedHeaders? = some headers) :
    g.prepare c = .ok
      { verb := .get
        url
        body := none
        query := queryPairs payload
        headers
        deadline := Deadline.resolve c.timeoutMillis g.usualDeadline g.latestDeadline } := by
  have hroute : g.routes.resolve c.method = ⟨"/api/listorders", .get⟩ := by
    rw [hg, hm]
    decide +kernel
  -- there is no placeholder in the template
  have hbound : g.bound c payload = ⟨"/api/listorders", payload.without [], [], []⟩ := by
    rw [bound, hroute]
    rfl
  have hall : payload.without [] = payload := by simp [Dict.without]
  rw [prepare_of_join he (by rw [hbound]) (by rw [hbound]; exact hj), hh]
  simp [request, hroute, hbound, hall, place, Verb.placement]

def ordersCall : Call := .ofMethod "ListOrders"

def ordersSegments : List (List Char) := ["api".toList, "listorders".toList]

def ordersRequest : Outbound where
  verb := .get
  url := { Config.usualBase with path := .segments ordersSegments }
  body := none
  query := []
  headers := []
  deadline := .ofSeconds 30

lemma join_listOrders : Config.usualBase.join "/api/listorders" = .ok ordersRequest.url := by
  have hchars : ∀ s ∈ ordersSegments, ∀ c ∈ s, Url.isPathChar c = true ∧ Url.isSlash c = false := by
    have hall : ordersSegments.all (·.all fun c => Url.isPathChar c && !Url.isSlash c) = true := by
      decide +kernel
    simpa using hall
  rw [Config.usualBase_isBase.join_inert (List.cons_ne_nil _ _) hchars (by decide +kernel)]
  decide +kernel

lemma base_of_ofConfig {plan : Call → Call} {g : Gateway} (hg : ofConfig {} plan = .ok g) :
    g.base = Config.usualBase := by
  obtain ⟨base, probe, hb, -, rfl⟩ := eq_of_ofConfig hg
  exact Except.ok.inj ((parse_of_base? hb).symm.trans Config.parse_usual)

lemma prepare_usual {plan : Call → Call} {g : Gateway} (hg : ofConfig {} plan = .ok g) {c : Call}
    (hm : c.method = "ListOrders") (payload : Dict Json) (he : c.entries = .ok payload)
    (ht : c.timeoutMillis = none) {headers : Headers} (hh : c.forwardedHeaders? = some headers) :
    g.prepare c = .ok { ordersRequest with query := queryPairs payload, headers } := by
  have hj : g.base.join "/api/listorders" = .ok ordersRequest.url := by
    rw [base_of_ofConfig hg, join_listOrders]
  have hdeadline : Deadline.resolve none g.usualDeadline g.latestDeadline = .ofSeconds 30 := by
    obtain ⟨base, probe, -, -, rfl⟩ := eq_of_ofConfig hg
    rfl
  rw [prepare_listOrders (routes_of_ofConfig hg) hm he hj hh, ht, hdeadline]
  rfl

/-- The words of a refusal are those of the service. -/
theorem refused_orders_reported : ∃ g outcome sent, ofConfig {} id = .ok g ∧
    g.execute? (.answering fun _ => .reply ⟨404, "no orders"⟩) ordersCall =
      some (outcome, sent) ∧
    outcome.success = false ∧ outcome.data = [] ∧ outcome.error = "no orders" ∧
    outcome.metadata =
      [("http_method", "GET"), ("http_status", "404"), ("path", "/api/listorders")] := by
  obtain ⟨g, hg⟩ := exists_ofConfig Config.default_isValid (by decide +kernel) id
  have ho : g.prepare ordersCall = .ok ordersRequest := prepare_usual hg rfl [] rfl rfl rfl
  have hfits : ordersCall.Fits := by decide +kernel
  obtain ⟨m, hm⟩ := exists_message?_of_fits ho hfits
  have hr : g.received? (.answering fun _ => .reply ⟨404, "no orders"⟩) ordersRequest =
      some ⟨404, "no orders"⟩ := by
    have hsend : canSend ordersRequest.target = true := by decide +kernel
    simp only [received?, hm, Downstream.answering, if_pos hsend]
  obtain ⟨hroom, hall⟩ :=
    outcome_reports g (.answering fun _ => .reply ⟨404, "no orders"⟩) ordersCall
  obtain ⟨outcome, sent, hrun⟩ := hroom hfits
  have hreports := hall outcome sent hrun
  have herror := hreports.refusal _ _ ho hr (by decide)
  have hsuccess : outcome.success = false := by
    rw [← Bool.not_eq_true, ← hreports.wellFormed.error_eq_empty_iff, herror]
    decide
  have hdata := hreports.wellFormed.data_eq_nil hsuccess
  refine ⟨g, outcome, sent, hg, hrun, hsuccess, hdata, herror, ?_⟩
  rw [hreports.metadata]
  simp only [known, ho, hr]
  decide +kernel

end Gateway

end RestGateway
