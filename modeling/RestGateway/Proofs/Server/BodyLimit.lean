import Mathlib
import RestGateway.Proofs.Server.Answering

/-! Two limits lie on the way of a body: the one of the configuration, and one that no configuration
changes. The smaller of them applies. -/
namespace RestGateway

/-! ### Blanks before a text -/

lemma Json.skipBlanks_append {blanks : List Char} (h : ∀ c ∈ blanks, isBlank c = true)
    (s : List Char) : skipBlanks (blanks ++ s) = skipBlanks s :=
  List.dropWhile_append_of_pos h

lemma Call.decode_of_blanks {blanks text : List Char} (h : ∀ c ∈ blanks, Json.isBlank c = true)
    {c : Call} (hd : decode (String.ofList text) = .ok c) :
    decode (String.ofList (blanks ++ text)) = .ok c := by
  have hr : shape.reader (blanks ++ text) = shape.reader text := by
    unfold Json.Shape.reader
    rw [Json.skipBlanks_append h]
  rw [decode, String.toList_ofList, Json.decodeWith] at hd ⊢
  rw [hr]
  split at hd
  · exact hd
  · simp at hd

lemma Percent.length_utf8_blanks (n : Nat) (text : List Char) :
    (utf8 (List.replicate n ' ' ++ text)).length = n + (utf8 text).length := by
  induction n with
  | zero => simp
  | succ n ih =>
    have hblank : (String.utf8EncodeChar ' ').length = 1 := by decide
    rw [List.replicate_succ, List.cons_append, utf8_cons, List.length_append, ih, hblank]
    omega

namespace Server
open Gateway (ordersCall)

/-- A request is treated as a limit says: the call is made up to the limit, and refused beyond. -/
structure KeepsLimit (s : Server) (d : Gateway.Downstream) (limit length : Nat) (call : Call)
    (handled : Option (Answer × List Message)) : Prop where
  within : length ≤ limit → ∃ outcome answer sent, s.gateway.run? d call = some (outcome, sent) ∧
    handled = some (answer, sent) ∧ answer.status = 200 ∧ answer.body = outcome.text
  beyond : limit < length → ∃ answer, handled = some (answer, []) ∧ answer.status = 413

section
variable {s : Server} {i : Inbound} {c : Call} {operation : Operation}
  (ho : operation? i.path = some operation) (hcall : operation ≠ .health) (hp : Posts i c)
  (d : Gateway.Downstream) (nowMillis : Nat) (fresh : String)
include ho hcall hp

lemma handle_of_beyond (h : min s.maxBodyBytes greatestBody < i.body.length) :
    ∃ answer, s.handle d nowMillis fresh i = some (answer, []) ∧ answer.status = 413 := by
  by_cases ht : s.isTooLong i = true
  · exact ⟨_, handle_of_tooLong ht, rfl⟩
  · rw [handle_of_not_tooLong ht, route_of_post ho hcall hp.method, readCall,
      if_neg (by simp [hp.isJson]), if_pos h]
    exact ⟨_, rfl, rfl⟩

lemma keepsLimit_min (hfits : (s.asked (requestId fresh i) c operation).Fits) :
    s.KeepsLimit d (min s.maxBodyBytes greatestBody) i.body.length
      (s.asked (requestId fresh i) c operation) (s.handle d nowMillis fresh i) := by
  refine ⟨fun hlen => ?_, handle_of_beyond ho hcall hp d nowMillis fresh⟩
  obtain ⟨outcome, sent, hrun⟩ := s.gateway.exists_run? d hfits
  have hhandle := handle_of_accepts ho hcall d nowMillis fresh ⟨hp, hlen⟩
  rw [hrun] at hhandle
  exact ⟨outcome, _, sent, hrun, hhandle, rfl, rfl⟩

end

lemma KeepsLimit.iff_of_min {s : Server} {d : Gateway.Downstream} {n m length : Nat} {call : Call}
    {handled : Option (Answer × List Message)} (h : s.KeepsLimit d (min n m) length call handled) :
    s.KeepsLimit d n length call handled ↔ length ≤ m ∨ n < length := by
  constructor
  · -- between the two limits a request would be both answered and refused
    intro hn
    by_contra hlen
    obtain ⟨hm, hle⟩ : m < length ∧ length ≤ n := by omega
    obtain ⟨outcome, answer, sent, -, hhandled, hstatus, -⟩ := hn.within hle
    obtain ⟨refused, hrefused, h413⟩ := h.beyond (by omega)
    rw [hhandled, Option.some.injEq, Prod.mk.injEq] at hrefused
    rw [← hrefused.1, hstatus] at h413
    omega
  · intro hlen
    exact ⟨fun hle => h.within (by omega), fun hlt => h.beyond (by omega)⟩

/-- The smaller limit applies to every call that is posted and whose headers there is room for
beside those of the client. So the limit of the configuration is the one that applies as long as the
body is not longer than the other limit allows, or longer than both. -/
theorem smaller_limit_applies {cfg : Config} {g : Gateway} {s : Server}
    (hs : ofConfig? cfg g = some s) (d : Gateway.Downstream) (nowMillis : Nat) (fresh : String)
    {i : Inbound} {operation : Operation} (ho : operation? i.path = some operation)
    (hcall : operation ≠ .health) {c : Call} (hp : Posts i c) {call : Call}
    (hasked : call = s.asked (requestId fresh i) c operation)
    (hfits : call.Fits) :
    s.KeepsLimit d (min cfg.listener.maxBodyBytes (2 * 1024 * 1024)) i.body.length call
        (s.handle d nowMillis fresh i) ∧
      (s.KeepsLimit d cfg.listener.maxBodyBytes i.body.length call
          (s.handle d nowMillis fresh i) ↔
        i.body.length ≤ 2 * 1024 * 1024 ∨ cfg.listener.maxBodyBytes < i.body.length) := by
  obtain rfl : ⟨g, cfg.listener.maxBodyBytes⟩ = s := by
    unfold ofConfig? at hs
    split_ifs at hs
    exact Option.some.inj hs
  subst hasked
  have hmin := keepsLimit_min ho hcall hp d nowMillis fresh hfits
  exact ⟨hmin, hmin.iff_of_min⟩

/-- The orders are asked for within both limits. -/
theorem orders_within_limits : ∃ g s answer sent, Gateway.ofConfig {} id = .ok g ∧
    ofConfig? {} g = some s ∧ Posts ordersInbound ordersCall ∧
    s.handle .unreachable 0 "1" ordersInbound = some (answer, sent) ∧ answer.status = 200 := by
  obtain ⟨g, hg⟩ := Gateway.exists_ofConfig Config.default_isValid (by decide +kernel) id
  have hs : ofConfig? {} g = some ⟨g, ({} : Config).listener.maxBodyBytes⟩ := rfl
  have hasked : tracedCall = asked ⟨g, ({} : Config).listener.maxBodyBytes⟩
      (requestId "1" ordersInbound) ordersCall .execute := rfl
  obtain ⟨-, hiff⟩ := smaller_limit_applies hs .unreachable 0 "1" ordersInbound_path (by decide)
    ordersInbound_posts hasked (by decide +kernel)
  obtain ⟨outcome, answer, sent, -, hhandle, hstatus, -⟩ :=
    (hiff.mpr (Or.inl (by decide +kernel))).within (by decide +kernel)
  exact ⟨g, _, answer, sent, hg, hs, ordersInbound_posts, hhandle, hstatus⟩

/-! ### A larger limit in the configuration -/

def largeConfig : Config := { listener := { maxBodyBytes := 4 * 1024 * 1024 } }

/-- Orders are asked for behind a number of blanks. -/
def paddedInbound (n : Nat) : Inbound :=
  { ordersInbound with body := Percent.utf8 (List.replicate n ' ' ++ ordersText.toList) }

lemma paddedInbound_posts (n : Nat) : Posts (paddedInbound n) ordersCall where
  method := rfl
  isJson := ordersInbound_posts.isJson
  holds := by
    have hblank : ∀ c ∈ List.replicate n ' ', Json.isBlank c = true := by
      intro c hc
      rw [List.eq_of_mem_replicate hc]
      rfl
    exact holds_of_decode rfl (Call.decode_of_blanks hblank rfl)

lemma length_paddedInbound (n : Nat) : (paddedInbound n).body.length = n + 23 :=
  Percent.length_utf8_blanks n ordersText.toList

/-- A body of 2097153 bytes is refused although the configuration lets in 4194304. -/
theorem large_body_refused : largeConfig.isValid = true ∧ ∃ g s answer,
    Gateway.ofConfig largeConfig id = .ok g ∧ ofConfig? largeConfig g = some s ∧
    Posts (paddedInbound 2097130) ordersCall ∧
    (paddedInbound 2097130).body.length ≤ largeConfig.listener.maxBodyBytes ∧
    s.handle .unreachable 0 "1" (paddedInbound 2097130) = some (answer, []) ∧
    answer.status = 413 := by
  have hvalid : largeConfig.isValid = true :=
    Config.isValid_maxBodyBytes Config.default_isValid (by decide)
  have hlimit : largeConfig.listener.maxBodyBytes = 4194304 := rfl
  have hgreatest : greatestBody = 2097152 := rfl
  have hlen := length_paddedInbound 2097130
  obtain ⟨g, hg⟩ := Gateway.exists_ofConfig hvalid (by decide +kernel) id
  let s : Server := ⟨g, largeConfig.listener.maxBodyBytes⟩
  have hs : s.maxBodyBytes = 4194304 := hlimit
  have hpath : operation? (paddedInbound 2097130).path = some .execute := ordersInbound_path
  obtain ⟨answer, hhandle, hstatus⟩ := handle_of_beyond (s := s) hpath (by decide)
    (paddedInbound_posts 2097130) .unreachable 0 "1" (by omega)
  exact ⟨hvalid, g, s, answer, hg, rfl, paddedInbound_posts 2097130, by omega, hhandle, hstatus⟩

end Server

end RestGateway
