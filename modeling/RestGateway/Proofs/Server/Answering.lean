import Mathlib
import RestGateway.Proofs.Gateway.Message
import RestGateway.Proofs.Server.Calls

/-! Every call that can be read is answered with its outcome, after at most one request to the
service; everything else is refused before anything is sent. -/
namespace RestGateway

namespace Gateway

/-- What is sent for a call: nothing if there is no request, and the request at most once. -/
def SendsFor (g : Gateway) (d : Downstream) (c : Call) (sent : List Message) : Prop :=
  (∀ stop, g.prepare c = .error stop → sent = []) ∧
    ∀ o, g.prepare c = .ok o → (∃ m, sent = [m] ∧ m.Carries o g.userAgent) ∨
      sent = [] ∧ (canSend o.target = false ∨ d.connects o.target = false)

lemma sendsFor_of_run? {g : Gateway} {d : Downstream} {c : Call} (hfits : c.Fits)
    {outcome : Outcome} {sent : List Message} (h : g.run? d c = some (outcome, sent)) :
    g.SendsFor d c sent := by
  cases ho : g.prepare c with
  | error stop =>
    have hsent : sent = [] := by cases stop <;> simp_all [run?]
    exact ⟨fun _ _ => hsent, fun o ho' => by simp [ho] at ho'⟩
  | ok o =>
    refine ⟨fun stop hstop => by simp [ho] at hstop, fun o' ho' => ?_⟩
    obtain rfl : o = o' := Except.ok.inj (ho.symm.trans ho')
    rw [run?_of_prepare ho] at h
    obtain ⟨⟨result, messages⟩, hsend, he⟩ := Option.map_eq_some_iff.mp h
    obtain ⟨-, rfl⟩ := Prod.mk.inj he
    rcases send?_cases hsend with ⟨answer, m, -, -, hm, -, rfl⟩ | ⟨rfl, -, hnone⟩
    · exact Or.inl ⟨m, rfl, Outbound.carries_of_message? (isClean_of_prepare ho) hm⟩
    · refine Or.inr ⟨rfl, ?_⟩
      obtain ⟨m, hm⟩ := exists_message?_of_fits ho hfits
      by_contra hcan
      simp only [not_or, Bool.not_eq_false] at hcan
      rw [hnone hcan.1 hcan.2] at hm
      exact absurd hm (by simp)

end Gateway

namespace Server

section
variable {s : Server} {i : Inbound} {operation : Operation}
  (ho : operation? i.path = some operation) (hcall : operation ≠ .health)
  (d : Gateway.Downstream) (nowMillis : Nat) (fresh : String)
include ho hcall

theorem handle_of_accepts {c : Call} (h : s.Accepts i c) : s.handle d nowMillis fresh i =
    (s.gateway.run? d (s.asked (requestId fresh i) c operation)).map fun (outcome, sent) =>
      (⟨200, some "application/json", none, some (requestId fresh i), outcome.text⟩, sent) := by
  have hlen : i.body.length ≤ s.maxBodyBytes := h.length.trans (min_le_left _ _)
  have hhead : i.method ≠ "HEAD" := by rw [h.method]; decide
  rw [handle_of_not_tooLong (by simp [isTooLong, hlen]), route_of_post ho hcall h.method,
    readCall_of_accepts h]
  dsimp only
  rw [serveCall_eq hcall, Option.map_map]
  congr 1
  funext ⟨outcome, sent⟩
  simp [finished, success, hhead]

lemma exists_handle_of_message? {c : Call} (h : s.Accepts i c) {o : Outbound}
    (hp : s.gateway.prepare (s.asked (requestId fresh i) c operation) = .ok o) {m : Message}
    (hm : o.message? s.gateway.userAgent = some m) (hsend : Gateway.canSend o.target = true)
    {answer : Message → Gateway.Exchange} (hd : d o.target = .made answer) : ∃ a,
      s.handle d nowMillis fresh i = some (a, [m]) ∧ a.requestId = some (requestId fresh i) := by
  have hrun := Gateway.run?_of_message? hp hm hsend hd
  rw [handle_of_accepts ho hcall d nowMillis fresh h, hrun]
  exact ⟨_, rfl, rfl⟩

theorem handle_of_not_accepts (h : ∀ c, ¬s.Accepts i c) :
    ∃ answer, s.handle d nowMillis fresh i = some (answer, []) ∧ IsRefusal answer := by
  by_cases ht : s.isTooLong i = true
  · exact ⟨_, handle_of_tooLong ht, (refusal_isRefusal (by decide) _).finished i _⟩
  rw [handle_of_not_tooLong ht]
  by_cases hm : i.method = "POST"
  · cases hr : s.readCall i with
    | error answer =>
      rw [route_of_post ho hcall hm, hr]
      exact ⟨_, rfl, (isRefusal_of_readCall hr).finished i _⟩
    | ok c => exact absurd (accepts_of_readCall hm hr) (h c)
  · rw [route_of_not_post ho hcall hm]
    exact ⟨_, rfl, (bare_isRefusal (by decide) _).finished i _⟩

omit ho hcall in
lemma asked_of_replay (hplan : s.gateway.plan = id) (requestId : String) (c : Call)
    (operation : Operation) :
    s.asked requestId c operation = RequestId.attach (RequestId.ofValues [requestId]) c := by
  cases operation <;> simp [asked, hplan]

theorem handle_of_replay (hplan : s.gateway.plan = id) {path : String} {other : Operation}
    (hp : operation? path = some other) (hother : other ≠ .health) :
    s.handle d nowMillis fresh { i with path } = s.handle d nowMillis fresh i := by
  by_cases ht : s.isTooLong i = true
  · rw [handle_of_tooLong ht]
    exact handle_of_tooLong (i := { i with path }) ht
  -- apart from the operation nothing depends on the path
  have hroute : ∀ id, s.route d nowMillis id { i with path } = s.route d nowMillis id i := by
    intro id
    by_cases hm : i.method = "POST"
    · have hread : s.readCall { i with path } = s.readCall i := rfl
      rw [route_of_post ho hcall hm, route_of_post (i := { i with path }) hp hother hm, hread]
      cases s.readCall i with
      | error answer => rfl
      | ok c => simp only [serveCall_eq hcall, serveCall_eq hother, asked_of_replay hplan]
    · rw [route_of_not_post ho hcall hm]
      exact route_of_not_post (i := { i with path }) hp hother hm id
  rw [handle_of_not_tooLong ht, ← hroute]
  exact handle_of_not_tooLong (i := { i with path }) ht

end

/-- A call that can be read, and whose headers there is room for beside those of the client, is
answered with its outcome, and the service receives nothing if the call becomes no request, and
otherwise the request at most once. Whatever else is asked is refused, and the service receives
nothing. If calls are undone by being made again, it does not matter which of the two operations is
asked for. -/
theorem calls_are_answered (s : Server) (d : Gateway.Downstream) (nowMillis : Nat) (fresh : String)
    {i : Inbound} {operation : Operation} (ho : operation? i.path = some operation)
    (hcall : operation ≠ .health) :
    (∀ c, s.Accepts i c → ∀ call, call = s.asked (requestId fresh i) c operation →
        call.Fits → ∃ outcome sent, s.gateway.run? d call = some (outcome, sent) ∧
          s.handle d nowMillis fresh i = some (⟨200, some "application/json", none,
            some (requestId fresh i), outcome.text⟩, sent) ∧
          s.gateway.SendsFor d call sent) ∧
      ((∀ c, ¬s.Accepts i c) →
        ∃ answer, s.handle d nowMillis fresh i = some (answer, []) ∧ IsRefusal answer) ∧
      (s.gateway.plan = id → ∀ path other, operation? path = some other → other ≠ .health →
        s.handle d nowMillis fresh { i with path } = s.handle d nowMillis fresh i) := by
  refine ⟨?_, handle_of_not_accepts ho hcall d nowMillis fresh, ?_⟩
  · rintro c hc call rfl hfits
    obtain ⟨outcome, sent, hrun⟩ := s.gateway.exists_run? d hfits
    refine ⟨outcome, sent, hrun, ?_, Gateway.sendsFor_of_run? hfits hrun⟩
    rw [handle_of_accepts ho hcall d nowMillis fresh hc, hrun]
    rfl
  · intro hplan path other hp hother
    exact handle_of_replay ho hcall d nowMillis fresh hplan hp hother

/-! ### Orders -/

open Gateway (ordersCall ordersRequest)

def ordersText : String := "\x7b\"method\":\"ListOrders\"\x7d"

def ordersInbound : Inbound where
  method := "POST"
  path := "/rpc/execute"
  headers := [("content-type", "application/json")]
  body := Percent.utf8 ordersText.toList
  announcesLength := true

lemma ordersInbound_path : operation? ordersInbound.path = some .execute := by decide +kernel

lemma ordersInbound_posts : Posts ordersInbound ordersCall where
  method := rfl
  isJson := by decide +kernel
  holds := holds_of_decode rfl rfl

lemma ordersInbound_accepted {s : Server} (h : 100 ≤ s.maxBodyBytes) :
    s.Accepts ordersInbound ordersCall where
  toPosts := ordersInbound_posts
  length := by
    have hlen : ordersInbound.body.length ≤ 100 := by decide +kernel
    have hgreatest : 100 ≤ greatestBody := by decide
    omega

def tracedCall : Call := { ordersCall with headers := [("x-request-id", "1")] }

def tracedRequest : Outbound := { ordersRequest with headers := [("x-request-id", "1")] }

/-- Orders are asked for, and there is no answer. -/
theorem orders_are_answered : ∃ g s m, ∃ outcome : Outcome, Gateway.ofConfig {} id = .ok g ∧
    ofConfig? {} g = some s ∧ s.Accepts ordersInbound ordersCall ∧
    s.handle (.answering fun _ => .unreachable) 0 "1" ordersInbound =
      some (⟨200, some "application/json", none, some "1", outcome.text⟩, [m]) ∧
    m.Carries tracedRequest g.userAgent := by
  obtain ⟨g, hg⟩ := Gateway.exists_ofConfig Config.default_isValid (by decide +kernel) id
  have hlimit : 100 ≤ ({} : Config).listener.maxBodyBytes := by decide +kernel
  let s : Server := ⟨g, ({} : Config).listener.maxBodyBytes⟩
  have haccepted : s.Accepts ordersInbound ordersCall := ordersInbound_accepted hlimit
  obtain ⟨hanswered, -, -⟩ := calls_are_answered s (.answering fun _ => .unreachable) 0 "1"
    ordersInbound_path (by decide)
  obtain ⟨outcome, sent, -, hhandle, -, hsent⟩ := hanswered ordersCall haccepted tracedCall rfl
    (by decide +kernel)
  have htraced : g.prepare tracedCall = .ok tracedRequest :=
    Gateway.prepare_usual hg rfl [] rfl rfl (by decide +kernel)
  rcases hsent tracedRequest htraced with ⟨m, rfl, hm⟩ | ⟨-, hsend | hconnects⟩
  · exact ⟨g, s, m, outcome, hg, rfl, haccepted, hhandle, hm⟩
  · have hcan : Gateway.canSend tracedRequest.target = true := by decide +kernel
    simp [hcan] at hsend
  · exact absurd hconnects (by simp [Gateway.Downstream.connects, Gateway.Downstream.answering])

/-! ### A base URL with a user -/

def userConfig : Config := { service := { baseUrl := "http://user:secret@[::1]:8000" } }

def userBase : Url :=
  ⟨"http".toList, some ⟨"user".toList, "secret".toList, "[::1]".toList, some 8000⟩, .segments [[]],
    none, none⟩

def userRequest : Outbound :=
  { tracedRequest with url := { userBase with path := tracedRequest.url.path } }

lemma prepare_with_user {g : Gateway} (hg : Gateway.ofConfig userConfig id = .ok g) :
    g.prepare tracedCall = .ok userRequest := by
  have hj : userBase.join "/api/listorders" = .ok userRequest.url := by decide +kernel
  have hp : Url.parse userConfig.service.baseUrl = .ok userBase := by decide +kernel
  obtain ⟨base, probe, hb, -, hparts⟩ := Gateway.eq_of_ofConfig hg
  have hbase : g.base = userBase := by
    rw [hparts]
    exact Except.ok.inj ((Gateway.parse_of_base? hb).symm.trans hp)
  have hdeadline : Deadline.resolve tracedCall.timeoutMillis g.usualDeadline g.latestDeadline =
      .ofSeconds 30 := by
    rw [hparts]
    rfl
  have hheaders : tracedCall.forwardedHeaders? = some [("x-request-id", "1")] := by decide +kernel
  rw [← hbase] at hj
  rw [Gateway.prepare_listOrders (Gateway.routes_of_ofConfig hg) rfl rfl hj hheaders, hdeadline]
  rfl

/-- The service is told the user of the base URL in a header that the request does not have. -/
theorem user_is_told : userConfig.isValid = true ∧ ∃ g s o answer m,
    Gateway.ofConfig userConfig id = .ok g ∧ ofConfig? userConfig g = some s ∧
    s.Accepts ordersInbound ordersCall ∧ g.prepare (s.asked "1" ordersCall .execute) = .ok o ∧
    s.handle (.answering fun _ => .unreachable) 0 "1" ordersInbound = some (answer, [m]) ∧
    o.headers.find? "authorization" = none ∧
    m.headers.find? "authorization" = some "Basic dXNlcjpzZWNyZXQ=" := by
  have hvalid : userConfig.isValid = true := by decide +kernel
  obtain ⟨g, hg⟩ := Gateway.exists_ofConfig hvalid (by decide +kernel) id
  have ho := prepare_with_user hg
  have hlimit : 100 ≤ userConfig.listener.maxBodyBytes := by decide +kernel
  let s : Server := ⟨g, userConfig.listener.maxBodyBytes⟩
  have haccepted : s.Accepts ordersInbound ordersCall := ordersInbound_accepted hlimit
  obtain ⟨m, hm⟩ := Gateway.exists_message?_of_fits ho (by decide +kernel)
  obtain ⟨answer, hhandle, -⟩ := exists_handle_of_message? ordersInbound_path (by decide)
    (.answering fun _ => .unreachable) 0 "1" haccepted ho hm (by decide +kernel) rfl
  have hnone : userRequest.headers.find? "authorization" = none := by decide +kernel
  refine ⟨hvalid, g, s, userRequest, answer, m, hg, rfl, haccepted, ho, hhandle, hnone, ?_⟩
  have huser : userRequest.userHeaders = [("authorization", "Basic dXNlcjpzZWNyZXQ=")] := by
    decide +kernel
  rw [(Outbound.carries_of_message? (Gateway.isClean_of_prepare ho) hm).headers, hnone,
    Option.none_or, Outbound.clientHeaders, huser]
  rfl

end Server

end RestGateway
