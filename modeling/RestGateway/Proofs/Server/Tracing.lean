import Mathlib
import RestGateway.Proofs.Gateway.Headers
import RestGateway.Proofs.Json.Ordered
import RestGateway.Proofs.Server.Answering

/-! The identifier by which a call can be followed to the service: the service receives one that the
caller sets or the one of the answer, unless none of these can be passed on. -/
namespace RestGateway

namespace Headers

lemma isNameChar_of_toLower {c : Char} (h : isNameChar c.toLower = true) : isNameChar c = true := by
  by_cases hu : c.isUpper = true
  · simp [isNameChar, Char.isAlphanum, Char.isAlpha, hu]
  · rwa [Char.toLower_eq_of_not_isUpper hu] at h

lemma isName_of_lower {key : String} (h : isName (lower key) = true) : isName key = true := by
  have hlist : (lower key).toList = key.toList.map Char.toLower := String.toList_ofList
  simp only [isName, Bool.and_eq_true, Bool.not_eq_true', String.isEmpty_eq_false_iff,
    decide_eq_true_eq, ← String.length_toList, ← String.toList_eq_nil_iff, ne_eq, hlist,
    List.length_map, List.map_eq_nil_iff, List.all_map, List.all_eq_true] at h ⊢
  exact ⟨⟨h.1.1, fun c hc => isNameChar_of_toLower (h.1.2 c hc)⟩, h.2⟩

lemma isValue_of_isVisible {s : String} (h : isVisible s = true) : isValue s = true := by
  refine List.all_eq_true.mpr fun c hc => ?_
  have hchar := List.all_eq_true.mp h c hc
  simp only [isValueChar, Bool.or_eq_true, Bool.and_eq_true, decide_eq_true_eq] at hchar ⊢
  exact hchar.imp_left fun hrange => ⟨hrange.1, by omega⟩

end Headers

namespace RequestId

/-- The caller sets the identifier, in whatever case its name is written. -/
def Sets (c : Call) (id : String) : Prop :=
  ∃ key, (key, id) ∈ c.headers ∧ Headers.lower key = headerName

/-- The caller sets the identifier, or sets none and it is the given one. -/
def IsChosen (c : Call) (given id : String) : Prop :=
  ((∃ own, Sets c own) → Sets c id) ∧ ((¬∃ own, Sets c own) → id = given)

/-- The caller sets an identifier that can be sent, or sets none and the given one can be shown. -/
def IsPassed (c : Call) (given : String) : Prop :=
  ((∃ own, Sets c own) → ∃ own, Sets c own ∧ Headers.isValue own = true) ∧
    ((¬∃ own, Sets c own) → Headers.isVisible given = true)

lemma isSet_iff {c : Call} : isSet c = true ↔ ∃ id, Sets c id := by
  simp only [isSet, List.any_eq_true, beq_iff_eq, Sets]
  constructor
  · rintro ⟨⟨key, id⟩, hm, hl⟩
    exact ⟨id, key, hm, hl⟩
  · rintro ⟨id, key, hm, hl⟩
    exact ⟨(key, id), hm, hl⟩

/-! ### Fresh identifiers -/

lemma isVisible_hexPair (b : UInt8) : Headers.isVisible (String.ofList (hexPair b)) = true := by
  have hdigit : ∀ n < 16, Headers.isVisible (String.singleton (Nat.digitChar n)) = true := by
    decide +kernel
  have hhigh := hdigit (b.toNat / 16) (by have := b.toNat_lt; omega)
  have hlow := hdigit (b.toNat % 16) (Nat.mod_lt _ (by decide))
  simp only [Headers.isVisible, String.toList_singleton, List.all_cons, List.all_nil,
    Bool.and_true] at hhigh hlow
  simp only [Headers.isVisible, hexPair, String.toList_ofList, List.all_cons, List.all_nil, hhigh,
    hlow, Bool.and_true]

lemma isVisible_ofBytes (bytes : List UInt8) : Headers.isVisible (ofBytes bytes) = true := by
  rw [ofBytes, Headers.isVisible, String.toList_ofList]
  refine List.all_eq_true.mpr fun c hc => ?_
  obtain ⟨⟨b, i⟩, -, hc⟩ := List.mem_flatMap.mp hc
  rcases List.mem_append.mp hc with hdash | hpair
  · split_ifs at hdash
    · rw [List.mem_singleton.mp hdash]
      decide
    · simp at hdash
  · have hb := isVisible_hexPair b
    rw [Headers.isVisible, String.toList_ofList] at hb
    exact List.all_eq_true.mp hb c hpair

/-! ### Attaching -/

section
variable {c : Call} {id : String}

lemma attach_of_sets (h : ∃ own, Sets c own) (id : Option String) : attach id c = c := by
  cases id with
  | none => rfl
  | some id => exact if_pos (isSet_iff.mpr h)

lemma attach_of_visible (h : ¬∃ own, Sets c own) (hv : Headers.isVisible id = true) :
    attach (ofValues [id]) c = { c with headers := c.headers.insert headerName id } := by
  rw [ofValues, if_pos hv]
  exact if_neg (mt isSet_iff.mp h)

lemma attach_of_not_visible (hv : ¬Headers.isVisible id = true) :
    attach (ofValues [id]) c = c := by
  rw [ofValues, if_neg hv]
  rfl

lemma ascending_attach (hc : c.headers.Ascending) (id : Option String) :
    (attach id c).headers.Ascending := by
  unfold attach
  split
  · split_ifs
    · exact hc
    · exact Dict.ascending_insert hc _ _
  · exact hc

lemma isChosen_of_sets_attach {v : String} (h : Sets (attach (ofValues [id]) c) v) :
    IsChosen c id v := by
  by_cases hs : ∃ own, Sets c own
  · rw [attach_of_sets hs] at h
    exact ⟨fun _ => h, fun hn => absurd hs hn⟩
  refine ⟨fun hn => absurd hn hs, fun _ => ?_⟩
  by_cases hv : Headers.isVisible id = true
  · rw [attach_of_visible hs hv] at h
    obtain ⟨key, hm, hl⟩ := h
    rcases Dict.mem_insert hm with he | hm
    · exact (Prod.mk.inj he).2
    · exact absurd ⟨v, key, hm, hl⟩ hs
  · rw [attach_of_not_visible hv] at h
    exact absurd ⟨v, h⟩ hs

lemma exists_sets_attach_iff :
    (∃ v, Sets (attach (ofValues [id]) c) v ∧ Headers.isValue v = true) ↔ IsPassed c id := by
  by_cases hs : ∃ own, Sets c own
  · rw [attach_of_sets hs]
    exact ⟨fun h => ⟨fun _ => h, fun hn => absurd hs hn⟩, fun h => h.1 hs⟩
  refine ⟨fun h => ⟨fun hn => absurd hn hs, fun _ => ?_⟩, fun h => ?_⟩
  · by_contra hv
    rw [attach_of_not_visible hv] at h
    obtain ⟨v, hset, -⟩ := h
    exact hs ⟨v, hset⟩
  · have hv := h.2 hs
    rw [attach_of_visible hs hv]
    have hfind : (c.headers.insert headerName id).find? headerName = some id := by
      rw [Dict.find?_insert, if_pos rfl]
    exact ⟨id, ⟨headerName, Dict.mem_of_find? hfind, by decide⟩, Headers.isValue_of_isVisible hv⟩

end

/-! ### Sending -/

section
variable {c : Call} (hc : c.headers.Ascending) {headers : Headers}
  (h : c.forwardedHeaders? = some headers)
include hc h

lemma sets_of_find? {v : String} (hv : headers.find? headerName = some v) :
    Sets c v ∧ Headers.isValue v = true := by
  rcases (Call.find?_forwardedHeaders_iff hc h).mp hv with hi | ⟨-, -, key, ho, -⟩
  · exact absurd hi.1 (by simp [Call.identifierOf?, headerName])
  · exact ⟨⟨key, ho.mem, ho.lower⟩, ho.isValue⟩

lemma exists_find?_headerName_iff :
    (∃ v, headers.find? headerName = some v) ↔ ∃ v, Sets c v ∧ Headers.isValue v = true := by
  constructor
  · rintro ⟨v, hv⟩
    exact ⟨v, sets_of_find? hc h hv⟩
  · rintro ⟨v, ⟨key, hm, hl⟩, hv⟩
    have hname : Headers.isName key = true := Headers.isName_of_lower (by rw [hl]; decide)
    exact Call.exists_find?_of_offers h ⟨hm, hname, hl, hv⟩ (by decide)

omit h in
/-- A call with the headers of the attached one sends the identifier that is chosen, if one of those
that may be chosen can be passed on. -/
theorem find?_of_headers_attached {call : Call} {id : String}
    (hcall : call.headers = (attach (ofValues [id]) c).headers)
    (hsent : call.forwardedHeaders? = some headers) :
    (∀ v, headers.find? headerName = some v → IsChosen c id v) ∧
      ((∃ v, headers.find? headerName = some v) ↔ IsPassed c id) := by
  have hascending : call.headers.Ascending := hcall ▸ ascending_attach hc _
  have hsets : ∀ v, Sets call v ↔ Sets (attach (ofValues [id]) c) v := fun v => by
    rw [Sets, Sets, hcall]
  constructor
  · intro v hv
    exact isChosen_of_sets_attach ((hsets v).mp (sets_of_find? hascending hsent hv).1)
  · rw [exists_find?_headerName_iff hascending hsent, ← exists_sets_attach_iff]
    simp only [hsets]

end

end RequestId

namespace Server

/-- The message carries the identifier by which the call is followed: one that the caller sets, and
if there is none the one of the answer. -/
def IsTraced (c : Call) (answer : Answer) (m : Message) : Prop :=
  ∃ id, m.headers.find? RequestId.headerName = some id ∧
    ((∃ own, RequestId.Sets c own) → RequestId.Sets c id) ∧
      ((¬∃ own, RequestId.Sets c own) → answer.requestId = some id)

/-- The identifier can be passed on: one of those that the caller sets can be sent, and if there is
none, then the one of the request, if it has one, can be shown. -/
def IsTraceable (i : Inbound) (c : Call) : Prop :=
  ((∃ own, RequestId.Sets c own) →
      ∃ own, RequestId.Sets c own ∧ Headers.isValue own = true) ∧
    ((¬∃ own, RequestId.Sets c own) →
      ∀ id, header? i RequestId.headerName = some id → Headers.isVisible id = true)

lemma isPassed_requestId_iff {i : Inbound} {c : Call} (bytes : List UInt8) :
    RequestId.IsPassed c (requestId (RequestId.ofBytes bytes) i) ↔ IsTraceable i c := by
  refine and_congr_right fun _ => imp_congr_right fun _ => ?_
  rw [requestId]
  cases header? i RequestId.headerName with
  | none => simp [RequestId.isVisible_ofBytes]
  | some id => simp

lemma headers_asked {s : Server} {operation : Operation}
    (hplan : operation = .compensate → ∀ c, (s.gateway.plan c).headers = c.headers) (id : String)
    (c : Call) : (s.asked id c operation).headers =
      (RequestId.attach (RequestId.ofValues [id]) c).headers := by
  cases operation with
  | compensate => exact hplan rfl _
  | _ => rfl

lemma find?_headerName_of_carries {g : Gateway} {c : Call} {o : Outbound}
    (ho : g.prepare c = .ok o) {m : Message} (hm : m.Carries o g.userAgent) :
    ∃ headers, c.forwardedHeaders? = some headers ∧
      m.headers.find? RequestId.headerName = headers.find? RequestId.headerName := by
  have hfind := (Gateway.message_adds ho hm).other RequestId.headerName (by decide)
  obtain ⟨payload, url, headers, -, -, -, hh, rfl⟩ := Gateway.exists_of_prepare_eq_ok ho
  exact ⟨headers, hh, hfind⟩

/-- When calls are undone with the headers they were made with, a request that is sent for a call is
traced exactly when an identifier can be passed on, and otherwise it has no identifier at all. -/
theorem traced_iff_traceable {s : Server} {d : Gateway.Downstream} {nowMillis : Nat}
    {bytes : List UInt8} {i : Inbound} {operation : Operation}
    (ho : operation? i.path = some operation) (hcall : operation ≠ .health)
    (hplan : operation = .compensate → ∀ c, (s.gateway.plan c).headers = c.headers)
    {answer : Answer} {sent : List Message}
    (h : s.handle d nowMillis (RequestId.ofBytes bytes) i = some (answer, sent)) {m : Message}
    (hm : m ∈ sent) :
    ∃ c, s.Accepts i c ∧ (IsTraced c answer m ↔ IsTraceable i c) ∧
      (¬IsTraceable i c → m.headers.find? RequestId.headerName = none) := by
  obtain ⟨c, hc⟩ : ∃ c, s.Accepts i c := by
    by_contra hnone
    obtain ⟨refused, hh, -⟩ := handle_of_not_accepts ho hcall d nowMillis
      (RequestId.ofBytes bytes) (not_exists.mp hnone)
    obtain ⟨-, rfl⟩ := Prod.mk.inj (Option.some.inj (hh.symm.trans h))
    simp at hm
  have hordered : c.IsOrdered := Call.isOrdered_of_decodeBytes hc.holds
  rw [handle_of_accepts ho hcall d nowMillis _ hc] at h
  obtain ⟨⟨outcome, messages⟩, hrun, he⟩ := Option.map_eq_some_iff.mp h
  obtain ⟨rfl, rfl⟩ := Prod.mk.inj he
  obtain ⟨o, hprepare, -, hcarries⟩ := Gateway.exists_of_mem_sent hrun hm
  obtain ⟨headers, hh, hfind⟩ := find?_headerName_of_carries hprepare hcarries
  obtain ⟨hset, hexists⟩ := RequestId.find?_of_headers_attached hordered.headers
    (headers_asked hplan _ c) hh
  rw [isPassed_requestId_iff] at hexists
  refine ⟨c, hc, Iff.trans ⟨?_, ?_⟩ hexists, fun hn => ?_⟩
  · rintro ⟨id, hid, -⟩
    exact ⟨id, hfind ▸ hid⟩
  · rintro ⟨id, hid⟩
    obtain ⟨hown, hfresh⟩ := hset id hid
    exact ⟨id, hfind.trans hid, hown, fun hn => congrArg some (hfresh hn).symm⟩
  · rw [hfind, Option.eq_none_iff_forall_ne_some]
    exact fun v hv => hn (hexists.mp ⟨v, hv⟩)

/-! ### Identifiers that cannot be shown -/

def accentInbound : Inbound :=
  { ordersInbound with headers := (RequestId.headerName, "é") :: ordersInbound.headers }

def ownText : String := "\x7b\"method\":\"ListOrders\",\"headers\":\x7b\"X-Request-Id\":" ++
  "\"a\\nb\",\"x-request-ID\":\"7\"\x7d\x7d"

/-- The request with the accent, for a call that brings two identifiers of its own. -/
def ownInbound : Inbound := { accentInbound with body := Percent.utf8 ownText.toList }

def ownCall : Call :=
  { Gateway.ordersCall with headers := [("X-Request-Id", "a\nb"), ("x-request-ID", "7")] }

lemma ownInbound_accepted {s : Server} (h : 100 ≤ s.maxBodyBytes) :
    s.Accepts ownInbound ownCall where
  method := rfl
  isJson := by decide +kernel
  holds := holds_of_decode rfl rfl
  length := by
    have hlen : ownInbound.body.length ≤ 100 := by decide +kernel
    have hgreatest : 100 ≤ greatestBody := by decide
    omega

lemma accentInbound_accepted {s : Server} (h : 100 ≤ s.maxBodyBytes) :
    s.Accepts accentInbound Gateway.ordersCall where
  method := rfl
  isJson := by decide +kernel
  holds := ordersInbound_posts.holds
  length := (ordersInbound_accepted h).length

def freshId : String := RequestId.ofBytes (List.replicate 16 0)

/-- The identifier that the caller sets arrives, in place of one that cannot be shown. -/
theorem own_identifier_traced : ∃ g s answer m, Gateway.ofConfig {} id = .ok g ∧
    ofConfig? {} g = some s ∧ s.Accepts ownInbound ownCall ∧ IsTraceable ownInbound ownCall ∧
    s.handle (.answering fun _ => .unreachable) 0 freshId ownInbound = some (answer, [m]) ∧
    answer.requestId = some "é" ∧ IsTraced ownCall answer m := by
  obtain ⟨g, hg⟩ := Gateway.exists_ofConfig Config.default_isValid (by decide +kernel) id
  have hplan : g.plan = id := by
    obtain ⟨base, probe, -, -, rfl⟩ := Gateway.eq_of_ofConfig hg
    rfl
  have hlimit : 100 ≤ ({} : Config).listener.maxBodyBytes := by decide +kernel
  let s : Server := ⟨g, ({} : Config).listener.maxBodyBytes⟩
  have haccepted : s.Accepts ownInbound ownCall := ownInbound_accepted hlimit
  have hpath : operation? ownInbound.path = some .execute := ordersInbound_path
  have hheaders : ownCall.forwardedHeaders? = some [("x-request-id", "7")] := by decide +kernel
  have hp : s.gateway.prepare (s.asked (requestId freshId ownInbound) ownCall .execute) =
      .ok { Gateway.ordersRequest with headers := [("x-request-id", "7")] } :=
    Gateway.prepare_usual hg rfl [] rfl rfl hheaders
  have hfits : ownCall.Fits := by decide +kernel
  obtain ⟨m, hm⟩ := Gateway.exists_message?_of_fits hp hfits
  obtain ⟨answer, hhandle, hid⟩ := exists_handle_of_message? hpath (by decide)
    (.answering fun _ => .unreachable) 0 freshId haccepted hp hm (by decide +kernel) rfl
  have htraceable : IsTraceable ownInbound ownCall := by
    have hset : RequestId.Sets ownCall "7" := ⟨"x-request-ID", by decide, by decide⟩
    exact ⟨fun _ => ⟨"7", hset, by decide⟩, fun hn => absurd ⟨"7", hset⟩ hn⟩
  obtain ⟨c, hc, hiff, -⟩ := traced_iff_traceable hpath (by decide)
    (fun _ c => congrArg Call.headers (congrFun hplan c)) hhandle List.mem_cons_self
  obtain rfl := eq_of_accepts hc haccepted
  exact ⟨g, s, answer, m, hg, rfl, haccepted, htraceable, hhandle, hid, hiff.mpr htraceable⟩

/-- The answer has an identifier with an accent, and the service receives none at all. -/
theorem accent_is_not_traced : ∃ g s answer m, Gateway.ofConfig {} id = .ok g ∧
    ofConfig? {} g = some s ∧ s.Accepts accentInbound Gateway.ordersCall ∧
    s.handle (.answering fun _ => .unreachable) 0 freshId accentInbound = some (answer, [m]) ∧
    (¬∃ own, RequestId.Sets Gateway.ordersCall own) ∧ answer.requestId = some "é" ∧
    m.headers.find? RequestId.headerName = none ∧ ¬IsTraced Gateway.ordersCall answer m := by
  obtain ⟨g, hg⟩ := Gateway.exists_ofConfig Config.default_isValid (by decide +kernel) id
  have hlimit : 100 ≤ ({} : Config).listener.maxBodyBytes := by decide +kernel
  let s : Server := ⟨g, ({} : Config).listener.maxBodyBytes⟩
  have haccepted : s.Accepts accentInbound Gateway.ordersCall := accentInbound_accepted hlimit
  have hpath : operation? accentInbound.path = some .execute := ordersInbound_path
  have hheaders : Gateway.ordersCall.forwardedHeaders? = some [] := by decide +kernel
  have hp : s.gateway.prepare (s.asked (requestId freshId accentInbound) Gateway.ordersCall
      .execute) = .ok Gateway.ordersRequest := Gateway.prepare_usual hg rfl [] rfl rfl hheaders
  have hfits : Gateway.ordersCall.Fits := by decide +kernel
  obtain ⟨m, hm⟩ := Gateway.exists_message?_of_fits hp hfits
  obtain ⟨answer, hhandle, hid⟩ := exists_handle_of_message? hpath (by decide)
    (.answering fun _ => .unreachable) 0 freshId haccepted hp hm (by decide +kernel) rfl
  have hnone : ¬∃ own, RequestId.Sets Gateway.ordersCall own := by
    rintro ⟨own, key, hm, -⟩
    simp [Gateway.ordersCall, Call.ofMethod] at hm
  have hfind : m.headers.find? RequestId.headerName = none := by
    have hcarries := Outbound.carries_of_message? (Gateway.isClean_of_prepare hp) hm
    obtain ⟨headers, hh, hfind⟩ := find?_headerName_of_carries hp hcarries
    rw [hfind, Option.some.inj (hh.symm.trans hheaders)]
    rfl
  refine ⟨g, s, answer, m, hg, rfl, haccepted, hhandle, hnone, hid, hfind, ?_⟩
  rintro ⟨id, hfound, -⟩
  exact absurd (hfind.symm.trans hfound) (by simp)

end Server

end RestGateway
