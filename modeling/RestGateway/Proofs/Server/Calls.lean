import Mathlib
import RestGateway.Proofs.Gateway.Outcome
import RestGateway.Proofs.Json.Bytes
import RestGateway.Server

/-! Requests that make a call: what is read of them, and how the answer of the server comes from
what is read. -/
namespace RestGateway

/-- The bytes of a text are read as the text. -/
theorem Call.decodeBytes_utf8 (text : List Char) :
    Call.decodeBytes (Percent.utf8 text) = Call.decode (String.ofList text) := by
  rw [Call.decodeBytes, Call.decode, Json.readBytes_utf8, String.toList_ofList]
  rfl

-- a byte that is no text does no harm where nothing is kept
example : Call.decodeBytes (Percent.utf8 "\x7b\"method\":\"ListOrders\",\"x\":\"".toList ++
    0xFF :: Percent.utf8 "\"\x7d".toList) = .ok Gateway.ordersCall := by rfl

namespace Server

/-- The body is read as a call. -/
def Holds (i : Inbound) (c : Call) : Prop := Call.decodeBytes i.body = .ok c

/-- A call is posted as JSON. -/
structure Posts (i : Inbound) (c : Call) : Prop where
  method : i.method = "POST"
  isJson : (header? i "content-type").any MediaType.isJson = true
  holds : Holds i c

/-- A call is posted within the limits of the server. -/
structure Accepts (s : Server) (i : Inbound) (c : Call) : Prop extends Posts i c where
  length : i.body.length ≤ min s.maxBodyBytes greatestBody

/-- The call that is made in the end. -/
def asked (s : Server) (id : String) (c : Call) : Operation → Call
  | .compensate => s.gateway.plan (RequestId.attach (RequestId.ofValues [id]) c)
  | _ => RequestId.attach (RequestId.ofValues [id]) c

def IsRefusal (a : Answer) : Prop := 400 ≤ a.status ∧ a.status < 500

/-! ### Reading -/

section
variable {s : Server} {i : Inbound} {c : Call}

lemma holds_of_decode {text : List Char} (hb : i.body = Percent.utf8 text)
    (h : Call.decode (String.ofList text) = .ok c) : Holds i c := by
  rw [Holds, hb, Call.decodeBytes_utf8, h]

lemma refusal_isRefusal {status : Nat} (h : 400 ≤ status ∧ status < 500) (words : String) :
    IsRefusal (refusal status words) := h

lemma bare_isRefusal {status : Nat} (h : 400 ≤ status ∧ status < 500) (allow : Option String) :
    IsRefusal (bare status allow) := h

lemma unreadable_isRefusal (e : Json.Error) : IsRefusal (unreadable e) := by
  unfold unreadable
  split_ifs
  · exact refusal_isRefusal (by decide) _
  · exact refusal_isRefusal (by decide) _

lemma readCall_of_accepts (h : s.Accepts i c) : s.readCall i = .ok c := by
  rw [readCall, if_neg (by simp [h.isJson]), if_neg h.length.not_gt]
  exact congrArg (Except.mapError unreadable) h.holds

lemma eq_of_accepts {c' : Call} (h : s.Accepts i c) (h' : s.Accepts i c') : c = c' :=
  Except.ok.inj ((readCall_of_accepts h).symm.trans (readCall_of_accepts h'))

lemma accepts_of_readCall (hm : i.method = "POST") (h : s.readCall i = .ok c) : s.Accepts i c := by
  unfold readCall at h
  split_ifs at h with hj hl
  cases hd : Call.decodeBytes i.body with
  | error e => simp [hd, Except.mapError] at h
  | ok c' =>
    obtain rfl : c' = c := by simpa [hd, Except.mapError] using h
    exact ⟨⟨hm, by simpa using hj, hd⟩, not_lt.mp hl⟩

lemma isRefusal_of_readCall {answer : Answer} (h : s.readCall i = .error answer) :
    IsRefusal answer := by
  unfold readCall at h
  split_ifs at h
  · exact Except.error.inj h ▸ refusal_isRefusal (by decide) _
  · exact Except.error.inj h ▸ refusal_isRefusal (by decide) _
  cases hd : Call.decodeBytes i.body with
  | ok c => simp [hd, Except.mapError] at h
  | error e =>
    obtain rfl : unreadable e = answer := by simpa [hd, Except.mapError] using h
    exact unreadable_isRefusal e

end

/-! ### Answering -/

/-- What every answer is given before it leaves. -/
def finished (i : Inbound) (id : String) (answer : Answer) : Answer :=
  { answer with requestId := some id, body := if i.method = "HEAD" then "" else answer.body }

lemma IsRefusal.finished {answer : Answer} (h : IsRefusal answer) (i : Inbound) (id : String) :
    IsRefusal (finished i id answer) := h

section
variable {s : Server} {d : Gateway.Downstream} {nowMillis : Nat} {fresh : String} {i : Inbound}

lemma handle_of_tooLong (h : s.isTooLong i = true) : s.handle d nowMillis fresh i =
    some (finished i (requestId fresh i) (refusal 413 "length limit exceeded"), []) := by
  simp only [handle, if_pos h]
  rfl

lemma handle_of_not_tooLong (h : ¬s.isTooLong i = true) : s.handle d nowMillis fresh i =
    (s.route d nowMillis (requestId fresh i) i).map
      fun (answer, sent) => (finished i (requestId fresh i) answer, sent) := by
  simp only [handle, if_neg h]
  cases s.route d nowMillis (requestId fresh i) i <;> rfl

variable {operation : Operation} (ho : operation? i.path = some operation)
  (hcall : operation ≠ .health)
include ho hcall

lemma route_of_post (hm : i.method = "POST") (id : String) : s.route d nowMillis id i =
    match s.readCall i with
    | .error answer => some (answer, [])
    | .ok c => s.serveCall d operation (RequestId.ofValues [id]) c := by
  rw [route, ho]
  cases operation with
  | health => exact absurd rfl hcall
  | _ => exact if_pos hm

lemma route_of_not_post (hm : i.method ≠ "POST") (id : String) :
    s.route d nowMillis id i = some (bare 405 (some "POST"), []) := by
  rw [route, ho]
  cases operation with
  | health => exact absurd rfl hcall
  | _ => exact if_neg hm

omit ho in
lemma serveCall_eq (id : String) (c : Call) : s.serveCall d operation (RequestId.ofValues [id]) c =
    (s.gateway.run? d (s.asked id c operation)).map
      fun (outcome, sent) => (success outcome.text, sent) := by
  cases operation with
  | health => exact absurd rfl hcall
  | _ =>
    simp only [serveCall, asked, Gateway.execute?, Gateway.compensate?]
    cases s.gateway.run? d _ <;> rfl

end

end Server

end RestGateway
