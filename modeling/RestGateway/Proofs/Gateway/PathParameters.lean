import Mathlib
import RestGateway.Proofs.Gateway.BoundPath

/-! Path parameters arrive intact: each of them is one segment of the URL, and decoding the segment
gives back the bytes of the value. Only two values are refused, because no segment can hold them. -/
namespace RestGateway

namespace Template

/-- A segment of a template that is literal text or stands for one value. -/
inductive Segment where
  | fixed (text : List Char)
  | parameter (name : String)
  deriving DecidableEq, Repr

namespace Segment

def pieces : Segment → List Piece
  | fixed text => text.map .literal
  | parameter name => [.placeholder name.toList]

/-- The literal text is unreserved and is not dots, and the name can stand between braces. -/
def IsProper : Segment → Prop
  | fixed text => (∀ c ∈ text, isUnreserved c = true) ∧ text ≠ ['.'] ∧ text ≠ ['.', '.']
  | parameter name => name ≠ "" ∧ ∀ c ∈ name.toList, c ≠ '{' ∧ c ≠ '}'

/-- What the segment is in a URL: its own text, or a text that is decoded to the value. -/
def Carries (payload : Dict Json) : Segment → List Char → Prop
  | fixed text, part => part = text
  | parameter name, part => ∃ v, payload.find? name = some v ∧
      Percent.decode part = Percent.utf8 v.rendered.toList

lemma simple_of_isProper {s : Segment} (h : s.IsProper) : ∀ p ∈ s.pieces, p.IsSimple := by
  intro p hp
  cases s with
  | fixed text =>
    obtain ⟨c, hc, rfl⟩ := List.mem_map.mp hp
    exact h.1 c hc
  | parameter name =>
    rw [List.mem_singleton.mp hp]
    exact ⟨fun he => h.1 (String.toList_eq_nil_iff.mp he), h.2⟩

lemma mem_names_pieces {s : Segment} {name : String} :
    name ∈ names s.pieces ↔ s = .parameter name := by
  cases s with
  | fixed text => simp [names, pieces]
  | parameter n => simp [names, pieces, eq_comm]

lemma flatMap_fixed (payload : Dict Json) (text : List Char) :
    (fixed text).pieces.flatMap (boundText payload) = text := by
  rw [pieces, List.flatMap_map]
  exact List.flatMap_singleton' text

lemma fixedText_fixed (text : List Char) : fixedText (fixed text).pieces = text := by
  rw [fixedText, pieces, List.flatMap_map]
  exact List.flatMap_singleton' text

lemma not_collapses {s : Segment} (h : s.IsProper) (payload : Dict Json) :
    ¬Collapses payload s.pieces := by
  rintro ⟨hdots, -⟩
  cases s with
  | fixed text =>
    rw [fixedText_fixed] at hdots
    exact hdots.elim h.2.1 h.2.2
  | parameter name => simp [fixedText, pieces] at hdots

lemma carries_of_fits {s : Segment} {payload : Dict Json} (h : ∀ p ∈ s.pieces, Fits payload p) :
    s.Carries payload (s.pieces.flatMap (boundText payload)) := by
  cases s with
  | fixed text => exact flatMap_fixed payload text
  | parameter name =>
    obtain ⟨hn, v, hv, hd⟩ := h _ (List.mem_singleton_self _)
    rw [pieces, List.flatMap_singleton, boundText_of_find? hn hv hd]
    rw [String.ofList_toList] at hv
    exact ⟨v, hv, Form.decode_encode v.rendered⟩

end Segment

/-- A placeholder has one of the two values that name a place. -/
def HasDotValue (payload : Dict Json) (segments : List Segment) : Prop :=
  ∃ name v, .parameter name ∈ segments ∧ payload.find? name = some v ∧
    (v.rendered = "." ∨ v.rendered = "..")

section
variable {segments : List Segment}

lemma contains_of_parameters {payload : Dict Json}
    (hv : ∀ name, .parameter name ∈ segments → payload.contains name = true) :
    ∀ segment ∈ segments.map Segment.pieces, ∀ name ∈ names segment,
      payload.contains name = true := by
  rw [List.forall_mem_map]
  intro s hs name hn
  rw [Segment.mem_names_pieces] at hn
  exact hv name (hn ▸ hs)

variable (hproper : ∀ s ∈ segments, s.IsProper)
include hproper

lemma simple_of_proper : ∀ segment ∈ segments.map Segment.pieces, ∀ p ∈ segment, p.IsSimple := by
  rw [List.forall_mem_map]
  exact fun s hs => Segment.simple_of_isProper (hproper s hs)

lemma rejected_eq_nil_iff (payload : Dict Json) :
    (bind (ofSegments (segments.map Segment.pieces)) payload).rejected = [] ↔
      ¬HasDotValue payload segments := by
  rw [bind_ofSegments_rejected_iff (simple_of_proper hproper), List.forall_mem_map]
  constructor
  · rintro hu ⟨name, v, hs, hv, hd⟩
    refine hu _ hs name (Segment.mem_names_pieces.mpr rfl) (use_eq_rejected_iff.mpr ?_)
    exact ⟨(hproper _ hs).1, v, hv, hd⟩
  · intro hnone s hs name hn hu
    rw [Segment.mem_names_pieces] at hn
    subst hn
    obtain ⟨-, v, hv, hd⟩ := use_eq_rejected_iff.mp hu
    exact hnone ⟨name, v, hs, hv, hd⟩

end

end Template

namespace Gateway
open Template (Segment ofSegments HasDotValue)

/-- The URL has the path of the base, behind it one segment for each of the template, and nothing
else. -/
structure Arrives (g : Gateway) (payload : Dict Json) (segments : List Segment) (url : Url) :
    Prop where
  noQuery : url.query = none
  noFragment : url.fragment = none
  path : ∃ parts, url.path.text.splitOn '/' =
      (g.base.path.text.rdropWhile (· == '/')).splitOn '/' ++ parts ∧
    List.Forall₂ (Segment.Carries payload) segments parts

lemma IsSound.arrives_of_join {g : Gateway} (hg : g.IsSound) {c : Call} {segments : List Segment}
    (hproper : ∀ s ∈ segments, s.IsProper)
    (hroute : g.routes.table.find? c.method = some (ofSegments (segments.map Segment.pieces)))
    {payload : Dict Json} (hv : ∀ name, .parameter name ∈ segments → payload.contains name = true)
    (hr : (g.bound c payload).rejected = []) {url : Url}
    (hj : g.base.join (g.bound c payload).path = .ok url) : g.Arrives payload segments url := by
  have hsimple := Template.simple_of_proper hproper
  have hcontains := Template.contains_of_parameters hv
  have hfit := fits_of_bound hroute hsimple hcontains hr
  rw [List.forall_mem_map] at hfit
  rw [join_bound hroute hsimple hcontains hr hg, Except.ok.injEq, List.map_map] at hj
  -- no segment collapses, so that those of the URL are the bound ones
  set parts := segments.map ((·.flatMap (Template.boundText payload)) ∘ Segment.pieces) with hparts
  have hsettled : ∀ s ∈ parts, Url.IsSettled s := by
    rw [hparts, List.forall_mem_map]
    exact fun s hs => Template.settled_flatMap_boundText (hfit s hs)
      (Segment.not_collapses (hproper s hs) payload)
  rw [Url.resolveDots_settled hsettled, List.reverse_reverse] at hj
  subst hj
  refine ⟨rfl, rfl, parts, ?_, ?_⟩
  · have hdir := hg.base.settled_directory
    rw [Url.splitOn_text (List.forall_mem_append.mpr ⟨hdir, hsettled⟩), ← hg.base.text_directory,
      Url.splitOn_text hdir, List.cons_append]
  · rw [hparts, List.forall₂_map_right_iff, List.forall₂_same]
    exact fun s hs => Segment.carries_of_fits (hfit s hs)

/-- A call of a mapped method is refused for its payload exactly when a placeholder has one of the
two values that name a place. Otherwise its values arrive, unless it has too many headers. -/
theorem path_parameters_arrive {cfg : Config} (hc : cfg.isValid = true) {plan : Call → Call}
    {g : Gateway} (hg : ofConfig cfg plan = .ok g) {c : Call} {segments : List Segment}
    (hproper : ∀ s ∈ segments, s.IsProper)
    (hroute : cfg.routing.routes.find? c.method =
      some (ofSegments (segments.map Segment.pieces)))
    {payload : Dict Json} (he : c.entries = .ok payload)
    (hv : ∀ name, .parameter name ∈ segments → payload.contains name = true) :
    ((∃ reason, g.prepare c = .error (.refused (.invalidPayload reason))) ↔
        HasDotValue payload segments) ∧
      (¬HasDotValue payload segments →
        (c.forwardedHeaders? = none ∧ g.prepare c = .error .tooManyHeaders) ∨
          ∃ o, g.prepare c = .ok o ∧ g.Arrives payload segments o.url) := by
  have hsound := sound_of_ofConfig hc hg
  have hfind : g.routes.table.find? c.method =
      some (ofSegments (segments.map Segment.pieces)) := by
    rwa [routes_of_ofConfig hg]
  have hiff : (g.bound c payload).rejected = [] ↔ ¬HasDotValue payload segments := by
    rw [bound, template_of_find? hfind]
    exact Template.rejected_eq_nil_iff hproper payload
  by_cases hd : HasDotValue payload segments
  · have hr : (g.bound c payload).rejected ≠ [] := fun hr => hiff.mp hr hd
    exact ⟨iff_of_true ⟨_, prepare_of_rejected he hr⟩ hd, fun hn => absurd hd hn⟩
  · have hr := hiff.mpr hd
    obtain ⟨url, hj, -⟩ := hsound.exists_join c payload
    have hp := prepare_of_join he hr hj
    have harrives := hsound.arrives_of_join hproper hfind hv hr hj
    rcases hh : c.forwardedHeaders? with _ | headers
    · rw [hh] at hp
      exact ⟨iff_of_false (by simp [hp]) hd, fun _ => Or.inl ⟨rfl, hp⟩⟩
    · rw [hh] at hp
      exact ⟨iff_of_false (by simp [hp]) hd, fun _ => Or.inr ⟨_, hp, harrives⟩⟩

/-! ### The usual template of a user -/

def userSegments : List Segment :=
  [.fixed "api".toList, .fixed "users".toList, .parameter "user_id"]

def userEntries (id : String) : Dict Json := [("user_id", .string id)]

def userCall (id : String) : Call :=
  { Call.ofMethod "GetUser" with payload := .object (userEntries id) }

lemma userSegments_proper : ∀ s ∈ userSegments, s.IsProper := by
  simp [userSegments, Segment.IsProper, Template.isUnreserved, Text.isLetter, Text.isDigit]

lemma userRoute_find? : ({} : Config).routing.routes.find? "GetUser" =
    some (ofSegments (userSegments.map Segment.pieces)) := by
  have h : "/api/users/\x7buser_id\x7d".toList =
      (Template.joinPieces (userSegments.map Segment.pieces)).flatMap Template.Piece.text := by
    decide +kernel
  rw [ofSegments, ← h, String.ofList_toList]
  simp [Dict.find?]

lemma userEntries_contains (id : String) :
    ∀ name, .parameter name ∈ userSegments → (userEntries id).contains name = true := by
  intro name h
  have hn : name = "user_id" := by simpa [userSegments] using h
  simp [hn, userEntries, Dict.contains, Dict.find?]

lemma hasDotValue_user (id : String) :
    HasDotValue (userEntries id) userSegments ↔ id = "." ∨ id = ".." := by
  simp [HasDotValue, userSegments, userEntries, Dict.find?, Json.rendered]

/-- Slashes, blanks and dots in the name of a user stay in one segment, and two dots are refused. -/
theorem user_path_arrives : ∃ g, ofConfig {} id = .ok g ∧
    (∃ reason, g.prepare (userCall "..") = .error (.refused (.invalidPayload reason))) ∧
    ∃ o, g.prepare (userCall "../a b") = .ok o ∧
      g.Arrives (userEntries "../a b") userSegments o.url := by
  obtain ⟨g, hg⟩ := exists_ofConfig Config.default_isValid (by decide +kernel) id
  have hvalid := Config.default_isValid
  have hdots := path_parameters_arrive hvalid hg userSegments_proper (c := userCall "..")
    userRoute_find? rfl (userEntries_contains "..")
  have hname := path_parameters_arrive hvalid hg userSegments_proper (c := userCall "../a b")
    userRoute_find? rfl (userEntries_contains "../a b")
  refine ⟨g, hg, hdots.1.mpr ((hasDotValue_user _).mpr (Or.inr rfl)), ?_⟩
  rcases hname.2 (by simp [hasDotValue_user]) with ⟨hh, -⟩ | ho
  · have hnone : (userCall "../a b").forwardedHeaders? = some [] := rfl
    simp [hnone] at hh
  · exact ho

end Gateway

end RestGateway
