import Mathlib
import RestGateway.Proofs.Gateway.Preparing
import RestGateway.Proofs.Headers

/-! The service receives a request as it was prepared. Its client puts headers of its own where the
call has none of the same name, and tells the user of the URL in one of them. -/
namespace RestGateway

/-! ### Names of a call -/

def Outbound.clientNames : List String :=
  ["authorization", "content-type", "accept", "user-agent", "host", "content-length"]

namespace Call

lemma isForwarded_iff {key value : String} : isForwarded key value = true ↔
    Headers.lower key ∉ reservedHeaders ∧ Headers.isName key = true ∧
      Headers.isValue value = true := by
  simp [isForwarded, and_assoc]

lemma isLegal_of_mem_identifier {name : String} {value : Option String}
    {header : String × String} (h : header ∈ identifier name value) :
    header.1 = name ∧ Headers.isValue header.2 = true := by
  unfold identifier at h
  split at h
  · split_ifs at h with hv
    · rw [List.mem_singleton.mp h]
      exact ⟨rfl, hv⟩
    · simp at h
  · simp at h

/-- The names of the headers that are put for a call, in their order. -/
def names (c : Call) : List String := (c.callerHeaders ++ c.identifiers).map Prod.fst

/-- There is room for the headers of the call together with those of the client. -/
def Fits (c : Call) : Prop := (c.names ++ Outbound.clientNames).toFinset.card ≤ Headers.room

instance (c : Call) : Decidable c.Fits := Nat.decLe _ _

lemma follows_forwardedHeaders? (c : Call) : Headers.Follows c.forwardedHeaders? c.names :=
  Headers.follows_putAll? _

lemma notMem_reserved_of_mem_names {c : Call} {name : String} (h : name ∈ c.names) :
    name ∉ reservedHeaders := by
  obtain ⟨header, hm, rfl⟩ := List.mem_map.mp h
  rcases List.mem_append.mp hm with hm | hm
  · obtain ⟨⟨key, value⟩, hk, rfl⟩ := List.mem_map.mp hm
    exact (isForwarded_iff.mp (List.mem_filter.mp hk).2).1
  · simp only [identifiers, List.mem_append] at hm
    rcases hm with (hm | hm) | hm
    all_goals
      rw [(isLegal_of_mem_identifier hm).1]
      decide

lemma Fits.card_lt {c : Call} (h : c.Fits) : c.names.toFinset.card < Headers.room := by
  -- the host is a header of the client and never one of the call
  have hhost : "host" ∉ c.names := fun hm => notMem_reserved_of_mem_names hm (by decide)
  have hsub : c.names.toFinset ⊂ (c.names ++ Outbound.clientNames).toFinset := by
    refine Finset.ssubset_iff_subset_ne.mpr ⟨?_, fun he => hhost ?_⟩
    · rw [List.toFinset_append]
      exact Finset.subset_union_left
    · rw [← List.mem_toFinset, he, List.mem_toFinset]
      exact List.mem_append_right _ (by decide)
  exact (Finset.card_lt_card hsub).trans_le h

lemma Fits.exists_forwardedHeaders {c : Call} (h : c.Fits) :
    ∃ headers, c.forwardedHeaders? = some headers := by
  refine Option.ne_none_iff_exists'.mp fun hnone => ?_
  have hover := c.follows_forwardedHeaders?.eq_none_iff.mp hnone
  exact Headers.not_isOverfull_of_card_lt h.card_lt hover

end Call

namespace Outbound

/-- The headers that the client has for a request. -/
def clientHeaders (o : Outbound) (userAgent : String) : Headers :=
  o.userHeaders ++ (if o.body.isSome then [("content-type", "application/json")] else []) ++
    [("accept", "*/*"), ("user-agent", userAgent), ("host", o.hostText)] ++
    (o.body.map fun body => ("content-length", toString body.compact.utf8ByteSize)).toList

/-- The URL that is asked: users are told in a header. -/
def asked (o : Outbound) : Url :=
  if (credentials? o.url).isSome then o.url.withoutUser else o.url

/-- No name has two values, and no header of the connection is there. -/
structure IsClean (o : Outbound) : Prop where
  nodup : o.headers.keys.Nodup
  reserved : ∀ name ∈ Call.reservedHeaders, name ∉ o.headers.keys

end Outbound

/-- The message is the request as it was prepared, with the headers of the client. -/
structure Message.Carries (m : Message) (o : Outbound) (userAgent : String) : Prop where
  verb : m.verb = o.verb
  url : m.url = o.asked.withPairs o.query
  body : m.body = o.body.map Json.compact
  headers : ∀ name, m.headers.find? name =
    (o.headers.find? name).or ((o.clientHeaders userAgent).find? name)

/-! ### From stage to stage -/

namespace Outbound

lemma keys_userHeaders (o : Outbound) :
    o.userHeaders = [] ∨ ∃ value, o.userHeaders = [("authorization", value)] := by
  unfold userHeaders
  cases credentials? o.url with
  | none => exact Or.inl rfl
  | some user => exact Or.inr ⟨_, rfl⟩

/-- The names of the headers when the body is known, in the order in which they are put. -/
def builtNames (o : Outbound) : List String :=
  o.userHeaders.keys ++ o.headers.keys ++ (if o.body.isSome then ["content-type"] else [])

def namedNames (o : Outbound) : List String := o.builtNames ++ ["accept", "user-agent"]

def connectedNames (o : Outbound) : List String := o.namedNames ++ ["host"]

section
variable {o : Outbound} (h : o.IsClean)
include h

lemma notMem_userAndCall {name : String} (hr : name ∈ Call.reservedHeaders) :
    name ∉ o.userHeaders.keys ++ o.headers.keys := by
  have hne : name ≠ "authorization" := by
    rintro rfl
    exact absurd hr (by decide)
  rw [List.mem_append, not_or]
  refine ⟨?_, h.reserved name hr⟩
  rcases o.keys_userHeaders with hu | ⟨value, hu⟩
  all_goals simp [hu, Dict.keys, hne]

omit h in
lemma follows_userAndCall (o : Outbound) : Headers.Follows
    (Headers.putAll? o.userHeaders o.headers) (o.userHeaders.keys ++ o.headers.keys) := by
  have huser : Headers.putAll? [] o.userHeaders = some o.userHeaders := by
    rcases o.keys_userHeaders with hu | ⟨value, hu⟩ <;> rw [hu] <;> rfl
  have hput := (Headers.follows_putAll? o.userHeaders).putAll? o.headers
  rwa [huser] at hput

lemma contains_contentType {headers : Headers}
    (hput : Headers.putAll? o.userHeaders o.headers = some headers) :
    headers.contains "content-type" = false := by
  have hm : "content-type" ∉ headers.keys := by
    rw [← List.mem_toFinset, o.follows_userAndCall.keys headers hput, List.mem_toFinset]
    exact notMem_userAndCall h (by decide)
  rw [Dict.contains, Dict.find?_eq_none_of_notMem hm]
  rfl

lemma builtHeaders?_eq : o.builtHeaders? = (Headers.putAll? o.userHeaders o.headers).bind
    fun headers => if o.body.isSome then headers.put? "content-type" "application/json"
      else some headers := by
  unfold builtHeaders?
  cases hput : Headers.putAll? o.userHeaders o.headers with
  | none => rfl
  | some headers => simp [contains_contentType h hput]

theorem follows_builtHeaders? : Headers.Follows o.builtHeaders? o.builtNames := by
  rw [builtHeaders?_eq h, builtNames]
  split_ifs
  · exact o.follows_userAndCall.put? "content-type" fun _ => "application/json"
  · simpa using o.follows_userAndCall

theorem follows_namedHeaders? (userAgent : String) :
    Headers.Follows (o.namedHeaders? userAgent) o.namedNames := by
  have hput := ((follows_builtHeaders? h).offer? "accept" "*/*").offer? "user-agent" userAgent
  rwa [Option.bind_assoc, List.append_assoc] at hput

theorem follows_connectedHeaders? (userAgent : String) :
    Headers.Follows (o.connectedHeaders? userAgent) o.connectedNames :=
  (follows_namedHeaders? h userAgent).offer? "host" o.hostText

/-! ### The message -/

lemma find?_builtHeaders? {headers : Headers} (hb : o.builtHeaders? = some headers)
    (name : String) : headers.find? name = (o.headers.find? name).or (Dict.find? (o.userHeaders ++
      if o.body.isSome then [("content-type", "application/json")] else []) name) := by
  rw [builtHeaders?_eq h] at hb
  obtain ⟨put, hput, hb⟩ := Option.bind_eq_some_iff.mp hb
  have hfind := Headers.find?_putAll? hput
  simp only [Dict.find?_reverse h.nodup] at hfind
  rw [Dict.find?_append, ← Option.or_assoc, ← hfind]
  split_ifs at hb ⊢
  · refine Headers.find?_put?_of_notMem hb (fun hm => ?_) name
    rw [← List.mem_toFinset, o.follows_userAndCall.keys put hput, List.mem_toFinset] at hm
    exact notMem_userAndCall h (by decide) hm
  · rw [Option.some.inj hb]
    exact Option.or_none.symm

lemma find?_connectedHeaders? {userAgent : String} {headers : Headers}
    (hc : o.connectedHeaders? userAgent = some headers) (name : String) :
    headers.find? name = (o.headers.find? name).or (Dict.find? (o.userHeaders ++
      (if o.body.isSome then [("content-type", "application/json")] else []) ++
        [("accept", "*/*"), ("user-agent", userAgent), ("host", o.hostText)]) name) := by
  obtain ⟨named, hn, hhost⟩ := Option.bind_eq_some_iff.mp hc
  obtain ⟨built, hb, hn⟩ := Option.bind_eq_some_iff.mp hn
  obtain ⟨accepting, haccept, hagent⟩ := Option.bind_eq_some_iff.mp hn
  have hthree : Dict.find? [("accept", "*/*"), ("user-agent", userAgent), ("host", o.hostText)]
      name = ((Dict.find? [("accept", "*/*")] name).or
        (Dict.find? [("user-agent", userAgent)] name)).or
          (Dict.find? [("host", o.hostText)] name) := by
    rw [← Dict.find?_append, ← Dict.find?_append]
    rfl
  rw [Headers.find?_offer? hhost, Headers.find?_offer? hagent, Headers.find?_offer? haccept,
    find?_builtHeaders? h hb, Dict.find?_append _ [_, _, _], hthree]
  simp only [Option.or_assoc]

lemma notMem_namedNames {name : String} (hr : name ∈ Call.reservedHeaders)
    (hne : name ≠ "content-type") : name ∉ o.namedNames := by
  have hagent : name ≠ "accept" ∧ name ≠ "user-agent" := by
    constructor <;> rintro rfl <;> exact absurd hr (by decide)
  have hcall := notMem_userAndCall h hr
  rw [namedNames, builtNames]
  split_ifs <;> simp_all

lemma notMem_connectedNames {name : String} (hr : name ∈ Call.reservedHeaders)
    (hne : name ≠ "content-type" ∧ name ≠ "host") : name ∉ o.connectedNames := by
  rw [connectedNames, List.mem_append, List.mem_singleton, not_or]
  exact ⟨notMem_namedNames h hr hne.1, hne.2⟩

theorem follows_sentHeaders? (userAgent : String) : Headers.Follows (o.sentHeaders? userAgent)
    (o.connectedNames ++ if o.body.isSome then ["content-length"] else []) := by
  have hconnected := follows_connectedHeaders? h userAgent
  unfold sentHeaders?
  cases o.body with
  | none => simpa using hconnected
  | some body => exact hconnected.put? "content-length" _

/-- There is a message when there is room for all headers of the call and of the client. -/
theorem exists_message? (hroom : (o.headers.keys ++ clientNames).toFinset.card ≤ Headers.room)
    (userAgent : String) : ∃ m, o.message? userAgent = some m := by
  have hsub : (o.connectedNames ++ if o.body.isSome then ["content-length"] else []).toFinset ⊆
      (o.headers.keys ++ clientNames).toFinset := by
    intro name hname
    rw [List.mem_toFinset] at hname ⊢
    have huser : name ∈ o.userHeaders.keys → name = "authorization" := by
      rcases o.keys_userHeaders with hu | ⟨value, hu⟩ <;> simp [hu, Dict.keys]
    rw [connectedNames, namedNames, builtNames] at hname
    split_ifs at hname <;> simp [clientNames] at hname ⊢ <;> tauto
  have hcard := (Finset.card_le_card hsub).trans hroom
  have hput : ¬Headers.IsOverfull
      (o.connectedNames ++ if o.body.isSome then ["content-length"] else []) := by
    split_ifs at hcard ⊢
    · exact Headers.not_isOverfull_concat (notMem_connectedNames h (by decide) (by decide)) hcard
    · rw [List.append_nil] at hcard ⊢
      exact Headers.not_isOverfull_concat (notMem_namedNames h (by decide) (by decide)) hcard
  obtain ⟨headers, hs⟩ := Option.ne_none_iff_exists'.mp
    ((follows_sentHeaders? h userAgent).eq_none_iff.not.mpr hput)
  exact ⟨_, Option.map_eq_some_iff.mpr ⟨headers, hs, rfl⟩⟩

theorem carries_of_message? {userAgent : String} {m : Message}
    (hm : o.message? userAgent = some m) : m.Carries o userAgent := by
  obtain ⟨headers, hs, rfl⟩ := Option.map_eq_some_iff.mp hm
  obtain ⟨connected, hc, hs⟩ := Option.bind_eq_some_iff.mp hs
  refine ⟨rfl, rfl, rfl, fun name => ?_⟩
  rw [clientHeaders, Dict.find?_append, ← Option.or_assoc, ← find?_connectedHeaders? h hc]
  cases hb : o.body with
  | none =>
    rw [hb] at hs
    rw [← Option.some.inj hs]
    exact Option.or_none.symm
  | some body =>
    rw [hb] at hs
    refine Headers.find?_put?_of_notMem hs (fun hn => ?_) name
    rw [← List.mem_toFinset, (follows_connectedHeaders? h userAgent).keys connected hc,
      List.mem_toFinset] at hn
    exact notMem_connectedNames h (by decide) (by decide) hn

end

end Outbound

/-! ### Sending -/

namespace Gateway

def Downstream.connects (d : Downstream) (url : Url) : Bool :=
  match d url with
  | .made _ => true
  | _ => false

section
variable {g : Gateway} {d : Downstream} {o : Outbound}

lemma isHttp_of_canSend {url : Url} (h : canSend url = true) : Config.isHttp url.scheme = true := by
  simp only [canSend, Bool.and_eq_true] at h
  exact h.1.1

/-- A message is sent to a service that is reached, or nothing is sent and there is no reply. -/
theorem send?_cases {result : Except String Exchange} {sent : List Message}
    (h : g.send? d o = some (result, sent)) :
    (∃ answer m, canSend o.target = true ∧ d o.target = .made answer ∧
      o.message? g.userAgent = some m ∧ result = .ok (answer m) ∧ sent = [m]) ∨
    (sent = [] ∧ (∀ r, result ≠ .ok (.reply r)) ∧
      (canSend o.target = true → d.connects o.target = true →
        o.message? g.userAgent = none)) := by
  obtain ⟨built, -, h⟩ := Option.bind_eq_some_iff.mp h
  split at h
  next hscheme =>
    obtain ⟨rfl, rfl⟩ := Prod.mk.inj (Option.some.inj h)
    refine Or.inr ⟨rfl, by simp, fun hsend => ?_⟩
    simp [isHttp_of_canSend hsend] at hscheme
  obtain ⟨named, -, h⟩ := Option.bind_eq_some_iff.mp h
  split at h
  next hsend =>
    obtain ⟨rfl, rfl⟩ := Prod.mk.inj (Option.some.inj h)
    refine Or.inr ⟨rfl, by simp, fun hcan => ?_⟩
    simp [hcan] at hsend
  next hsend =>
    have hcan : canSend o.target = true := by simpa using hsend
    split at h
    next hd =>
      obtain ⟨rfl, rfl⟩ := Prod.mk.inj (Option.some.inj h)
      exact Or.inr ⟨rfl, by simp, fun _ hc => by simp [Downstream.connects, hd] at hc⟩
    next hd =>
      obtain ⟨rfl, rfl⟩ := Prod.mk.inj (Option.some.inj h)
      exact Or.inr ⟨rfl, by simp, fun _ hc => by simp [Downstream.connects, hd] at hc⟩
    next answer hd =>
      obtain ⟨connected, -, h⟩ := Option.bind_eq_some_iff.mp h
      split at h
      next m hm =>
        obtain ⟨rfl, rfl⟩ := Prod.mk.inj (Option.some.inj h)
        exact Or.inl ⟨answer, m, hcan, hd, hm, rfl, rfl⟩
      next hm =>
        obtain ⟨rfl, rfl⟩ := Prod.mk.inj (Option.some.inj h)
        exact Or.inr ⟨rfl, by simp, fun _ _ => hm⟩

lemma exists_of_connectedHeaders? {connected : Headers}
    (h : o.connectedHeaders? g.userAgent = some connected) :
    ∃ built named, o.builtHeaders? = some built ∧ o.namedHeaders? g.userAgent = some named := by
  obtain ⟨named, hn, -⟩ := Option.bind_eq_some_iff.mp h
  obtain ⟨built, hb, -⟩ := Option.bind_eq_some_iff.mp hn
  exact ⟨built, named, hb, hn⟩

lemma exists_connected_of_message? {m : Message} (hm : o.message? g.userAgent = some m) :
    ∃ connected, o.connectedHeaders? g.userAgent = some connected := by
  obtain ⟨headers, hs, -⟩ := Option.map_eq_some_iff.mp hm
  obtain ⟨connected, hc, -⟩ := Option.bind_eq_some_iff.mp hs
  exact ⟨connected, hc⟩

lemma send?_of_message? {m : Message} (hm : o.message? g.userAgent = some m)
    (hsend : canSend o.target = true) {answer : Message → Exchange}
    (hd : d o.target = .made answer) : g.send? d o = some (.ok (answer m), [m]) := by
  obtain ⟨connected, hc⟩ := exists_connected_of_message? hm
  obtain ⟨built, named, hb, hn⟩ := exists_of_connectedHeaders? hc
  simp [send?, hb, isHttp_of_canSend hsend, hn, hsend, hd, hc, hm]

/-- Sending fails at one of three places, which are reached one after the other. -/
lemma send?_eq_none_iff_stages : g.send? d o = none ↔ o.builtHeaders? = none ∨
    Config.isHttp o.target.scheme = true ∧ (o.namedHeaders? g.userAgent = none ∨
      (canSend o.target && d.connects o.target) = true ∧
        o.connectedHeaders? g.userAgent = none) := by
  unfold send? Downstream.connects
  cases o.builtHeaders? with
  | none => simp
  | some built =>
    cases Config.isHttp o.target.scheme with
    | false => simp
    | true =>
      cases o.namedHeaders? g.userAgent with
      | none => simp
      | some named =>
        cases canSend o.target with
        | false => simp
        | true =>
          cases d o.target with
          | made answer =>
            cases o.connectedHeaders? g.userAgent <;> cases o.message? g.userAgent <;> simp
          | _ => simp

/-- The names of the headers in the order in which they are put, until the request is sent or
cannot be sent. -/
def putNames (d : Downstream) (o : Outbound) : List String :=
  if Config.isHttp o.target.scheme then
    if canSend o.target && d.connects o.target then o.connectedNames else o.namedNames
  else o.builtNames

/-- Sending fails for the headers alone, and exactly when there is no room for the last of them. -/
theorem send?_eq_none_iff (h : o.IsClean) :
    g.send? d o = none ↔ Headers.IsOverfull (putNames d o) := by
  have hnamed : o.builtHeaders? = none → o.namedHeaders? g.userAgent = none := fun hb => by
    rw [Outbound.namedHeaders?, hb]
    rfl
  have hconnected : o.namedHeaders? g.userAgent = none → o.connectedHeaders? g.userAgent = none :=
    fun hn => by
      rw [Outbound.connectedHeaders?, hn]
      rfl
  rw [send?_eq_none_iff_stages, putNames]
  split_ifs with hscheme hsend
  · rw [← (Outbound.follows_connectedHeaders? h g.userAgent).eq_none_iff]
    tauto
  · rw [← (Outbound.follows_namedHeaders? h g.userAgent).eq_none_iff]
    tauto
  · rw [← (Outbound.follows_builtHeaders? h).eq_none_iff]
    tauto

lemma exists_send?_of_message? {m : Message} (hm : o.message? g.userAgent = some m) :
    ∃ sending, g.send? d o = some sending := by
  obtain ⟨connected, hc⟩ := exists_connected_of_message? hm
  obtain ⟨built, named, hb, hn⟩ := exists_of_connectedHeaders? hc
  refine Option.ne_none_iff_exists'.mp fun hnone => ?_
  simpa [hb, hn, hc] using send?_eq_none_iff_stages.mp hnone

end

/-! ### Runs -/

lemma isClean_of_prepare {g : Gateway} {c : Call} {o : Outbound} (h : g.prepare c = .ok o) :
    o.IsClean := by
  obtain ⟨payload, url, headers, -, -, -, hh, rfl⟩ := exists_of_prepare_eq_ok h
  have hf := c.follows_forwardedHeaders?
  refine ⟨hf.nodup headers hh, fun name hr hm => ?_⟩
  have hnames : name ∈ headers.keys.toFinset := List.mem_toFinset.mpr hm
  rw [hf.keys headers hh, List.mem_toFinset] at hnames
  exact Call.notMem_reserved_of_mem_names hnames hr

lemma keys_of_prepare {g : Gateway} {c : Call} {o : Outbound} (h : g.prepare c = .ok o) :
    o.headers.keys.toFinset = c.names.toFinset := by
  obtain ⟨payload, url, headers, -, -, -, hh, rfl⟩ := exists_of_prepare_eq_ok h
  exact c.follows_forwardedHeaders?.keys headers hh

lemma exists_message?_of_fits {g : Gateway} {c : Call} {o : Outbound} (ho : g.prepare c = .ok o)
    (h : c.Fits) : ∃ m, o.message? g.userAgent = some m := by
  refine Outbound.exists_message? (isClean_of_prepare ho) ?_ g.userAgent
  rw [List.toFinset_append, keys_of_prepare ho, ← List.toFinset_append]
  exact h

lemma run?_of_prepare {g : Gateway} {c : Call} {o : Outbound} (ho : g.prepare c = .ok o)
    (d : Downstream) : g.run? d c =
      (g.send? d o).map fun (result, sent) => (outcomeOf o (replyInTime o result), sent) := by
  simp only [run?, ho, invoke?, Option.map_map]
  rfl

theorem exists_run? (g : Gateway) (d : Downstream) {c : Call} (h : c.Fits) :
    ∃ outcome sent, g.run? d c = some (outcome, sent) := by
  cases ho : g.prepare c with
  | error stop =>
    cases stop with
    | refused e => exact ⟨_, _, by rw [run?, ho]⟩
    | tooManyHeaders =>
      obtain ⟨headers, hh⟩ := h.exists_forwardedHeaders
      exact absurd ho (prepare_ne_tooManyHeaders hh)
  | ok o =>
    obtain ⟨m, hm⟩ := exists_message?_of_fits ho h
    obtain ⟨⟨result, sent⟩, hs⟩ := exists_send?_of_message? (d := d) hm
    exact ⟨_, _, by rw [run?_of_prepare ho, hs]; rfl⟩

lemma isClean_probeRequest (g : Gateway) : g.probeRequest.IsClean where
  nodup := List.nodup_singleton _
  reserved := by simp only [probeRequest]; decide

/-- The health is what comes of the request that asks for it: there is room for its headers. -/
theorem checkHealth_eq (g : Gateway) (d : Downstream) (nowMillis : Nat) : ∃ result sent,
    g.send? d g.probeRequest = some (result, sent) ∧
      g.checkHealth d nowMillis = (HealthStatus.ofProbe (isHealthy result) nowMillis, sent) := by
  have hroom : (g.probeRequest.headers.keys ++ Outbound.clientNames).toFinset.card ≤
      Headers.room := by
    simp only [probeRequest]
    decide
  obtain ⟨m, hm⟩ := Outbound.exists_message? g.isClean_probeRequest hroom g.userAgent
  obtain ⟨⟨result, sent⟩, hsend⟩ := exists_send?_of_message? (d := d) hm
  exact ⟨result, sent, hsend, by rw [checkHealth, hsend]; rfl⟩

/-- Whatever is sent for a call carries its request. -/
theorem exists_of_mem_sent {g : Gateway} {d : Downstream} {c : Call} {outcome : Outcome}
    {sent : List Message} (h : g.run? d c = some (outcome, sent)) {m : Message} (hm : m ∈ sent) :
    ∃ o, g.prepare c = .ok o ∧ o.message? g.userAgent = some m ∧ m.Carries o g.userAgent := by
  cases ho : g.prepare c with
  | error stop =>
    cases stop with
    | refused e => simp_all [run?]
    | tooManyHeaders => simp [run?, ho] at h
  | ok o =>
    rw [run?_of_prepare ho] at h
    obtain ⟨⟨result, messages⟩, hsend, he⟩ := Option.map_eq_some_iff.mp h
    obtain ⟨-, rfl⟩ := Prod.mk.inj he
    rcases send?_cases hsend with ⟨answer, m', -, -, hm', -, rfl⟩ | ⟨rfl, -⟩
    · obtain rfl := List.mem_singleton.mp hm
      exact ⟨o, rfl, hm', Outbound.carries_of_message? (isClean_of_prepare ho) hm'⟩
    · simp at hm

lemma run?_of_message? {g : Gateway} {c : Call} {o : Outbound} (ho : g.prepare c = .ok o)
    {m : Message} (hm : o.message? g.userAgent = some m) (hsend : canSend o.target = true)
    {d : Downstream} {answer : Message → Exchange} (hd : d o.target = .made answer) :
    g.run? d c = some (outcomeOf o (replyInTime o (.ok (answer m))), [m]) := by
  rw [run?_of_prepare ho, send?_of_message? hm hsend hd]
  rfl

end Gateway

end RestGateway
