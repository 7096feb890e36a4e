import Mathlib
import RestGateway.Proofs.ByteOrder
import RestGateway.Proofs.Gateway.Message
import RestGateway.Proofs.Gateway.Outcome

/-! The headers that are sent for a call: its identifiers, and of what the caller gives under a
name, in whatever case, the last that can be sent. The headers of the connection are never among
them. -/
namespace RestGateway

namespace Call

/-- The identifier of the call that a header is named after. -/
def identifierOf? (c : Call) (name : String) : Option String :=
  if name = "x-correlation-id" then c.correlationId
  else if name = "x-workflow-id" then c.workflowId
  else if name = "x-step-id" then c.stepId
  else none

/-- The call has the value for the header, and it can be sent. -/
def Identifies (c : Call) (name value : String) : Prop :=
  c.identifierOf? name = some value ∧ Headers.isValue value = true

/-- The caller gives the value under a key, and it can be sent under the name. -/
structure Offers (c : Call) (name key value : String) : Prop where
  mem : (key, value) ∈ c.headers
  isName : Headers.isName key = true
  lower : Headers.lower key = name
  isValue : Headers.isValue value = true

/-- The value is the last one that the caller offers for the name, in the order of the bytes of the
keys. -/
def OffersLast (c : Call) (name value : String) : Prop :=
  ∃ key, c.Offers name key value ∧ ∀ other v, c.Offers name other v →
    Percent.utf8 other.toList ≤ Percent.utf8 key.toList

/-! ### Identifiers -/

lemma find?_identifier (header name : String) (value : Option String) :
    Dict.find? (identifier header value) name =
      if name = header then value.filter Headers.isValue else none := by
  cases value with
  | none => simp [identifier, Dict.find?]
  | some value =>
    rw [identifier, Option.filter_some]
    split_ifs <;> simp_all [Dict.find?]

lemma reverse_identifier (header : String) (value : Option String) :
    (identifier header value).reverse = identifier header value := by
  unfold identifier
  split
  · split_ifs <;> rfl
  · rfl

lemma find?_identifiers (c : Call) (name : String) :
    Dict.find? c.identifiers.reverse name = (c.identifierOf? name).filter Headers.isValue := by
  simp only [identifiers, List.reverse_append, reverse_identifier, Dict.find?_append,
    find?_identifier, identifierOf?]
  by_cases hs : name = "x-step-id"
  · simp [hs]
  by_cases hw : name = "x-workflow-id"
  · simp [hw]
  by_cases hc : name = "x-correlation-id"
  · simp [hc]
  · simp [hs, hw, hc]

lemma find?_identifiers_iff {c : Call} {name value : String} :
    Dict.find? c.identifiers.reverse name = some value ↔ c.Identifies name value := by
  rw [find?_identifiers, Option.filter_eq_some_iff]
  rfl

lemma Identifies.not_reserved {c : Call} {name value : String} (h : c.Identifies name value) :
    name ∉ reservedHeaders := by
  intro hr
  have hnone : c.identifierOf? name = none := by
    simp only [reservedHeaders, List.mem_cons, List.not_mem_nil, or_false] at hr
    rcases hr with rfl | rfl | rfl | rfl | rfl <;> rfl
  exact absurd (hnone.symm.trans h.1) (by simp)

/-! ### Headers of the caller -/

lemma mem_forwarded_iff {c : Call} {name key value : String} :
    (key, value) ∈ c.headers.filter (fun (name, value) => isForwarded name value) ∧
        Headers.lower key = name ↔ name ∉ reservedHeaders ∧ c.Offers name key value := by
  rw [List.mem_filter]
  constructor
  · rintro ⟨⟨hm, hf⟩, rfl⟩
    obtain ⟨hreserved, hname, hvalue⟩ := isForwarded_iff.mp hf
    exact ⟨hreserved, hm, hname, rfl, hvalue⟩
  · rintro ⟨hreserved, ho⟩
    obtain rfl := ho.lower
    exact ⟨⟨ho.mem, isForwarded_iff.mpr ⟨hreserved, ho.isName, ho.isValue⟩⟩, rfl⟩

lemma find?_callerHeaders_iff {c : Call} (h : c.headers.Ascending) {name value : String} :
    Dict.find? c.callerHeaders.reverse name = some value ↔
      name ∉ reservedHeaders ∧ c.OffersLast name value := by
  have hascending := Dict.ascending_filter h fun (name, value) => isForwarded name value
  have hf : Dict.find? c.callerHeaders.reverse name = some value ↔ _ :=
    Dict.find?_reverse_map_iff hascending Headers.lower
  refine hf.trans ?_
  constructor
  · rintro ⟨key, hm, hname, hmax⟩
    obtain ⟨hreserved, ho⟩ := mem_forwarded_iff.mp ⟨hm, hname⟩
    refine ⟨hreserved, key, ho, fun other v hother => ?_⟩
    have hm' := mem_forwarded_iff.mpr ⟨hreserved, hother⟩
    exact Percent.utf8_le_utf8_iff.mpr (hmax _ hm'.1 hm'.2)
  · rintro ⟨hreserved, key, ho, hmax⟩
    have hm := mem_forwarded_iff.mpr ⟨hreserved, ho⟩
    refine ⟨key, hm.1, hm.2, fun other hother hname => ?_⟩
    obtain ⟨-, hoffer⟩ := mem_forwarded_iff.mp ⟨hother, hname⟩
    exact Percent.utf8_le_utf8_iff.mp (hmax _ _ hoffer)

/-! ### All of them -/

section
variable {c : Call} (hc : c.headers.Ascending) {headers : Headers}
  (h : c.forwardedHeaders? = some headers)
include hc h

theorem find?_forwardedHeaders_iff {name value : String} :
    headers.find? name = some value ↔ c.Identifies name value ∨
      (∀ v, ¬c.Identifies name v) ∧ name ∉ reservedHeaders ∧ c.OffersLast name value := by
  rw [Headers.find?_putAll? h, List.reverse_append, Dict.find?_append]
  have hids : ∀ v, Dict.find? c.identifiers.reverse name = some v ↔ c.Identifies name v :=
    fun v => find?_identifiers_iff
  cases hi : Dict.find? c.identifiers.reverse name with
  | some v =>
    have hv := (hids v).mp hi
    simp only [Option.some_or]
    rw [← hi, hids]
    exact ⟨Or.inl, fun ho => ho.resolve_right fun hn => hn.1 v hv⟩
  | none =>
    have hnone : ∀ v, ¬c.Identifies name v := fun v hv => by
      have hs := (hids v).mpr hv
      simp [hi] at hs
    rw [Option.none_or, show Dict.find? [] name = (none : Option String) from rfl, Option.or_none,
      find?_callerHeaders_iff hc]
    exact ⟨fun ho => Or.inr ⟨hnone, ho⟩, fun ho => (ho.resolve_left (hnone value)).2⟩

omit hc in
lemma exists_find?_of_offers {name key value : String} (ho : c.Offers name key value)
    (hreserved : name ∉ reservedHeaders) : ∃ v, headers.find? name = some v := by
  have hm : name ∈ Dict.keys (c.callerHeaders ++ c.identifiers).reverse := by
    have hf := (mem_forwarded_iff.mpr ⟨hreserved, ho⟩).1
    have hcaller : (Headers.lower key, value) ∈ c.callerHeaders :=
      List.mem_map.mpr ⟨(key, value), hf, rfl⟩
    refine List.mem_map.mpr ⟨_, List.mem_reverse.mpr (List.mem_append_left _ hcaller), ?_⟩
    exact ho.lower
  refine Option.ne_none_iff_exists'.mp fun hnone => ?_
  rw [Headers.find?_putAll? h, Option.or_eq_none_iff] at hnone
  exact Dict.find?_eq_none_iff.mp hnone.1 hm

lemma isValue_of_find? {name value : String} (hv : headers.find? name = some value) :
    name ∉ reservedHeaders ∧ Headers.isValue value = true := by
  rcases (find?_forwardedHeaders_iff hc h).mp hv with hi | ⟨-, hreserved, key, ho, -⟩
  · exact ⟨hi.not_reserved, hi.2⟩
  · exact ⟨hreserved, ho.isValue⟩

end

end Call

lemma Headers.control_notMem {value : String} (h : isValue value = true) :
    ∀ control ∈ ['\r', '\n', '\x00'], control ∉ value.toList := by
  intro control hcontrol hm
  have hchar := List.all_eq_true.mp h control hm
  simp only [List.mem_cons, List.not_mem_nil, or_false] at hcontrol
  rcases hcontrol with rfl | rfl | rfl
  all_goals exact absurd hchar (by decide)

/-! ### What the service receives -/

/-- The message has the headers, and the client adds what a request needs to be understood. -/
structure Message.Adds (m : Message) (headers : Headers) (o : Outbound) (userAgent : String) :
    Prop where
  forwarded : ∀ name value, headers.find? name = some value → m.headers.find? name = some value
  contentType : m.headers.find? "content-type" =
    if m.body.isSome then some "application/json" else none
  contentLength : m.headers.find? "content-length" =
    m.body.map fun text => toString text.utf8ByteSize
  host : m.headers.find? "host" = some o.hostText
  accept : m.headers.find? "accept" = (headers.find? "accept").or (some "*/*")
  userAgent : m.headers.find? "user-agent" = (headers.find? "user-agent").or (some userAgent)
  authorization : m.headers.find? "authorization" = (headers.find? "authorization").or
    ((Outbound.credentials? o.url).map fun (username, password) =>
      Outbound.authorization username password)
  other : ∀ name, name ∉ Outbound.clientNames → m.headers.find? name = headers.find? name

namespace Outbound

lemma find?_userHeaders (o : Outbound) (name : String) : Dict.find? o.userHeaders name =
    if name = "authorization" then
      (credentials? o.url).map fun (username, password) => authorization username password
    else none := by
  unfold userHeaders
  cases credentials? o.url <;> simp [Dict.find?]

lemma find?_clientHeaders (o : Outbound) (userAgent name : String) :
    (o.clientHeaders userAgent).find? name =
      ((Dict.find? o.userHeaders name).or
        (Dict.find? (if o.body.isSome then [("content-type", "application/json")] else []) name)).or
        ((Dict.find? [("accept", "*/*"), ("user-agent", userAgent), ("host", o.hostText)] name).or
          (Dict.find? (o.body.map fun body =>
            ("content-length", toString body.compact.utf8ByteSize)).toList name)) := by
  rw [clientHeaders, Dict.find?_append, Dict.find?_append, Dict.find?_append, Option.or_assoc]

end Outbound

namespace Gateway

lemma message_adds {g : Gateway} {c : Call} {o : Outbound} (ho : g.prepare c = .ok o)
    {m : Message} (hm : m.Carries o g.userAgent) : m.Adds o.headers o g.userAgent := by
  have hreserved : ∀ name ∈ Call.reservedHeaders, o.headers.find? name = none :=
    fun name hr => Dict.find?_eq_none_of_notMem ((isClean_of_prepare ho).reserved name hr)
  have hfind := fun name => (hm.headers name).trans
    (congrArg _ (Outbound.find?_clientHeaders o g.userAgent name))
  simp only [Outbound.find?_userHeaders] at hfind
  constructor
  · intro name value hv
    rw [hm.headers, hv, Option.some_or]
  · rw [hfind, hreserved _ (by decide), hm.body]
    cases o.body <;> simp [Dict.find?]
  · rw [hfind, hreserved _ (by decide), hm.body]
    cases o.body <;> simp [Dict.find?]
  · rw [hfind, hreserved _ (by decide)]
    cases o.body <;> simp [Dict.find?]
  · rw [hfind]
    cases o.body <;> simp [Dict.find?]
  · rw [hfind]
    cases o.body <;> simp [Dict.find?]
  · rw [hfind]
    cases o.body <;> simp [Dict.find?]
  · intro name hname
    simp only [Outbound.clientNames, List.mem_cons, List.not_mem_nil, or_false, not_or] at hname
    rw [hfind]
    cases o.body <;> simp [Dict.find?, hname]

/-- A call whose headers there is room for is sent with exactly its identifiers and what its caller
offers last for names that belong to no connection. No header of a connection and no value that
breaks a line is among them, no other header of the caller is lost, and what the client adds takes
the place of none. -/
theorem permitted_headers_forwarded {c : Call} (hc : c.headers.Ascending) :
    ((c.callerHeaders ++ c.identifiers).length ≤ Headers.room →
        ∃ headers, c.forwardedHeaders? = some headers) ∧
      ∀ headers, c.forwardedHeaders? = some headers →
        (∀ name value, headers.find? name = some value ↔ c.Identifies name value ∨
          (∀ v, ¬c.Identifies name v) ∧ name ∉ Call.reservedHeaders ∧ c.OffersLast name value) ∧
        (∀ name value, headers.find? name = some value → name ∉ Call.reservedHeaders ∧
          ∀ control ∈ ['\r', '\n', '\x00'], control ∉ value.toList) ∧
        (∀ name key value, c.Offers name key value → name ∉ Call.reservedHeaders →
          ∃ v, headers.find? name = some v) ∧
        ∀ (g : Gateway) (d : Downstream) outcome sent, g.run? d c = some (outcome, sent) →
          ∀ m ∈ sent, ∃ o, g.prepare c = .ok o ∧ m.Adds headers o g.userAgent := by
  refine ⟨fun hroom => ?_, fun headers h => ?_⟩
  · exact Headers.exists_putAll? hroom
  have hvalue : ∀ name value, headers.find? name = some value →
      name ∉ Call.reservedHeaders ∧ Headers.isValue value = true :=
    fun name value => Call.isValue_of_find? hc h
  refine ⟨fun name value => Call.find?_forwardedHeaders_iff hc h, fun name value hv => ?_,
    fun name key value ho hr => Call.exists_find?_of_offers h ho hr, ?_⟩
  · exact ⟨(hvalue name value hv).1, Headers.control_notMem (hvalue name value hv).2⟩
  · intro g d outcome sent hrun m hm
    obtain ⟨o, ho, -, hcarries⟩ := exists_of_mem_sent hrun hm
    have hheaders : o.headers = headers := by
      obtain ⟨payload, url, sentHeaders, -, -, -, hs, rfl⟩ := exists_of_prepare_eq_ok ho
      exact Option.some.inj (hs.symm.trans h)
    rw [← hheaders]
    exact ⟨o, ho, message_adds ho hcarries⟩

/-! ### Headers that are written in many ways -/

def noisyCall : Call := { Call.ofMethod "ListOrders" with
  headers := [("HOST", "elsewhere"), ("X-Step-Id", "0"), ("X-Trace", "1"), ("X-Workflow-Id", "2"),
    ("X-trace", "3"), ("content-Length", "4"), ("not a name", "5"), ("x-trace", "6\r\n7")]
  workflowId := some "8"
  stepId := some "9\x00" }

def noisyHeaders : Headers := [("x-step-id", "0"), ("x-trace", "3"), ("x-workflow-id", "8")]

/-- A value that cannot be sent does not take the place of one that can, and the service is told its
own host. -/
theorem noisy_headers_forwarded : noisyCall.headers.Ascending ∧
    (noisyCall.callerHeaders ++ noisyCall.identifiers).length ≤ Headers.room ∧
    noisyCall.forwardedHeaders? = some noisyHeaders ∧
    noisyCall.OffersLast "x-trace" "3" ∧ noisyCall.OffersLast "x-step-id" "0" ∧
    ∃ g outcome m, ofConfig {} id = .ok g ∧
      g.run? (.answering fun _ => .unreachable) noisyCall = some (outcome, [m]) ∧
      m.headers.find? "x-trace" = some "3" ∧ m.headers.find? "x-workflow-id" = some "8" ∧
      m.headers.find? "host" = some "localhost:8000" ∧ m.headers.find? "content-type" = none ∧
      m.headers.find? "accept" = some "*/*" ∧
      m.headers.find? "user-agent" = some g.userAgent := by
  have hascending : noisyCall.headers.Ascending := Dict.ascending_iff_bytes.mpr (by decide +kernel)
  obtain ⟨-, hall⟩ := permitted_headers_forwarded hascending
  have hh : noisyCall.forwardedHeaders? = some noisyHeaders := by decide +kernel
  obtain ⟨hiff, -, -, hsent⟩ := hall noisyHeaders hh
  have htrace : noisyCall.OffersLast "x-trace" "3" := by
    rcases (hiff "x-trace" "3").mp (by decide +kernel) with hi | ho
    · exact absurd hi.1 (by decide)
    · exact ho.2.2
  have hstep : noisyCall.OffersLast "x-step-id" "0" := by
    rcases (hiff "x-step-id" "0").mp (by decide +kernel) with hi | ho
    · exact absurd hi.1 (by decide)
    · exact ho.2.2
  obtain ⟨g, hg⟩ := exists_ofConfig Config.default_isValid (by decide +kernel) id
  have ho := prepare_usual hg (c := noisyCall) rfl [] rfl rfl hh
  obtain ⟨m, hm⟩ := exists_message?_of_fits ho (by decide +kernel)
  have hrun := run?_of_message? ho hm (by decide +kernel)
    (d := .answering fun _ => .unreachable) rfl
  obtain ⟨o, ho', hadds⟩ := hsent g _ _ _ hrun m List.mem_cons_self
  obtain rfl := Except.ok.inj (ho.symm.trans ho')
  have hnone : noisyHeaders.find? "user-agent" = none ∧ noisyHeaders.find? "accept" = none := by
    decide +kernel
  have hbody : m.body = none := (Outbound.carries_of_message? (isClean_of_prepare ho) hm).body
  have hforwarded (name value : String) (hv : noisyHeaders.find? name = some value) :
      m.headers.find? name = some value := hadds.forwarded name value hv
  refine ⟨hascending, by decide +kernel, hh, htrace, hstep, g, _, m, hg, hrun,
    hforwarded _ _ (by decide +kernel), hforwarded _ _ (by decide +kernel), ?_, ?_, ?_, ?_⟩
  · rw [hadds.host]
    decide +kernel
  · rw [hadds.contentType, hbody]
    rfl
  · rw [hadds.accept, hnone.2, Option.none_or]
  · rw [hadds.userAgent, hnone.1, Option.none_or]

end Gateway

end RestGateway
