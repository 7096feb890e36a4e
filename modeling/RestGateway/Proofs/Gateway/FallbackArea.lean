import Mathlib
import RestGateway.Proofs.BoundSegment
import RestGateway.Proofs.Gateway.Server
import RestGateway.Proofs.Url.Walk

/-! Where a method without a template leads. Its name is put behind the common start as it is and
is read like any path: it stays in the area below the start unless it climbs out of it. -/
namespace RestGateway.Gateway
open Url (IsSettled steps)

/-! ### Starts -/

def isAreaChar (c : Char) : Bool :=
  Text.isLetter c || Text.isDigit c || ['/', '-', '_'].contains c

/-- A start that consists of plain segments, with a slash behind the last one. -/
structure IsArea (start : String) : Prop where
  chars : ∀ c ∈ start.toList, isAreaChar c = true
  ends : start.toList.getLast? = some '/'

def startSegments (start : String) : List (List Char) :=
  (Url.splitWhere (· == '/') (start.toList.drop 1)).dropLast

lemma isInert_of_isAreaChar {c : Char} (h : isAreaChar c = true) (hs : c ≠ '/') :
    Template.isInert c = true := by
  have hc : (Text.isLetter c || Text.isDigit c || ['-', '_'].contains c) = true := by
    simpa [isAreaChar, hs] using h
  exact Template.of_letter_or_mark (q := Template.isInert) (by simp) (by decide +kernel) hc

namespace IsArea
variable {start : String} (h : IsArea start)
include h

lemma brace_not_mem : '{' ∉ start.toList := fun hm => absurd (h.chars _ hm) (by decide)

lemma settled_startSegments : ∀ s ∈ startSegments start, IsSettled s := by
  intro s hs
  have hm := List.mem_of_mem_dropLast hs
  have hc : ∀ c ∈ s, isAreaChar c = true := fun c hc =>
    h.chars c ((List.drop_suffix 1 _).mem (Url.mem_splitWhere hm c hc).1)
  have hi : ∀ c ∈ s, Url.isPathChar c = true ∧ Url.isSlash c = false := by
    intro c hcs
    have hne : c ≠ '/' := by simpa using (Url.mem_splitWhere hm c hcs).2
    simpa [Template.isInert] using isInert_of_isAreaChar (hc c hcs) hne
  refine ⟨fun c hcs => (hi c hcs).1, fun c hcs => (hi c hcs).2, Bool.eq_false_iff.mpr fun hd => ?_⟩
  have hp : '%' ∉ s := fun hp => absurd (hc _ hp) (by decide)
  have hdot : '.' ∉ s := fun hp => absurd (hc _ hp) (by decide)
  rcases Template.eq_dots_of_isDots hd hp with rfl | rfl <;> simp at hdot

theorem text_startSegments {rest : List Char} (hs : start.toList = '/' :: rest) :
    (Url.Path.segments (startSegments start)).text ++ ['/'] = start.toList := by
  have htext := Url.text_splitWhere rest
  have hne := Url.splitWhere_ne_nil (· == '/') rest
  have hlast := Url.mem_splitWhere (List.getLast_mem hne)
  have hends := h.ends
  rw [← List.dropLast_append_getLast hne, Url.text_append, Url.text_cons, Url.text_nil,
    List.append_nil] at htext
  have hdrop : startSegments start = (Url.splitWhere (· == '/') rest).dropLast := by
    simp [startSegments, hs]
  rw [hdrop, hs, ← htext]
  rw [hs, ← htext] at hends
  -- the slash at the end leaves an empty part behind it
  cases hl : (Url.splitWhere (· == '/') rest).getLast hne using List.reverseRecOn with
  | nil => rfl
  | append_singleton front c =>
    rw [hl] at hlast
    rw [hl, ← List.cons_append, ← List.append_assoc, List.getLast?_concat] at hends
    rw [Option.some.inj hends] at hlast
    exact absurd (hlast '/' (by simp)).2 (by simp)

end IsArea

/-! ### Names -/

/-- The name of a method in small letters, with the values of the payload in it. -/
def fallbackName (c : Call) (payload : Dict Json) : List Char :=
  (Template.bind (Text.lowercase c.method) payload).path.toList

/-- The segments that every method without a template starts from. -/
def area (g : Gateway) : List (List Char) :=
  g.base.directory ++ startSegments g.routes.fallbackStart

lemma template_of_find?_eq_none {g : Gateway} {c : Call}
    (hm : g.routes.table.find? c.method = none) :
    (g.routes.resolve c.method).template =
      g.routes.fallbackStart ++ Text.lowercase c.method := by
  change (g.routes.table.find? c.method).getD _ = _
  rw [hm]
  rfl

namespace IsSound
variable {g : Gateway} (hg : g.IsSound) (harea : IsArea g.routes.fallbackStart)
  {rest : List Char} (hs : g.routes.fallbackStart.toList = '/' :: rest)
include hg harea

lemma settled_area : ∀ s ∈ g.area, IsSettled s :=
  List.forall_mem_append.mpr ⟨hg.base.settled_directory, harea.settled_startSegments⟩

lemma settled_resolve_steps (name : List Char) :
    ∀ s ∈ Url.resolveDots g.area.reverse (steps name), IsSettled s :=
  Url.settled_resolveDots (fun s hm => hg.settled_area harea s (List.mem_reverse.mp hm))
    fun _ hm c hc => (Url.mem_splitWhere hm c hc).2

include hs

lemma text_area : (Url.Path.segments g.area).text ++ ['/'] =
    g.base.path.text.rdropWhile (· == '/') ++ g.routes.fallbackStart.toList := by
  rw [area, Url.text_append, List.append_assoc, harea.text_startSegments hs,
    hg.base.text_directory]

theorem join_fallback {c : Call} (hm : g.routes.table.find? c.method = none)
    (payload : Dict Json) :
    g.base.join (g.bound c payload).path = .ok ⟨g.base.scheme, g.base.authority,
      .segments (Url.resolveDots g.area.reverse (steps (fallbackName c payload))),
      (Url.readTail true (Url.counted (fallbackName c payload))).1,
      (Url.readTail true (Url.counted (fallbackName c payload))).2⟩ := by
  apply hg.base.join_place harea.settled_startSegments
  rw [bound, template_of_find?_eq_none hm, Template.bind_path_append harea.brace_not_mem,
    ← harea.text_startSegments hs, List.append_assoc]
  rfl

variable {c : Call} (hm : g.routes.table.find? c.method = none) {payload : Dict Json}
  (he : c.entries = .ok payload) {o : Outbound} (ho : g.prepare c = .ok o)
include hm he ho

lemma url_of_fallback : o.url = ⟨g.base.scheme, g.base.authority,
    .segments (Url.resolveDots g.area.reverse (steps (fallbackName c payload))),
    (Url.readTail true (Url.counted (fallbackName c payload))).1,
    (Url.readTail true (Url.counted (fallbackName c payload))).2⟩ := by
  obtain ⟨payload', url, headers, he', -, hj, -, rfl⟩ := exists_of_prepare_eq_ok ho
  rw [he, Except.ok.injEq] at he'
  subst he'
  rw [hg.join_fallback harea hs hm, Except.ok.injEq] at hj
  exact hj.symm

lemma fallback_prefix_iff :
    g.base.path.text.rdropWhile (· == '/') ++ g.routes.fallbackStart.toList <+: o.url.path.text ↔
      ∃ rest, rest ≠ [] ∧
        Url.resolveDots g.area.reverse (steps (fallbackName c payload)) = g.area ++ rest := by
  rw [hg.url_of_fallback harea hs hm he ho, ← hg.text_area harea hs]
  exact Url.text_prefix_iff (hg.settled_area harea) (hg.settled_resolve_steps harea _)

lemma fallback_tail_iff : o.url.query = none ∧ o.url.fragment = none ↔
    '?' ∉ fallbackName c payload ∧ '#' ∉ fallbackName c payload := by
  simp only [hg.url_of_fallback harea hs hm he ho]
  exact Url.readTail_counted_eq_none_iff true (fallbackName c payload)

end IsSound

/-- A method without a template carries a query or a fragment exactly when its name has the
character that introduces one, and it stays in the area below the common start exactly when the walk
along its segments ends there. A walk that never climbs above the area stays in it. -/
theorem fallback_stays_iff {cfg : Config} (hc : cfg.isValid = true) {plan : Call → Call}
    {g : Gateway} (hg : ofConfig cfg plan = .ok g) (harea : IsArea cfg.routing.fallbackStart)
    {c : Call} (hm : cfg.routing.routes.find? c.method = none) {payload : Dict Json}
    (he : c.entries = .ok payload) {o : Outbound} (ho : g.prepare c = .ok o) :
    (o.url.query = none ∧ o.url.fragment = none ↔
        '?' ∉ fallbackName c payload ∧ '#' ∉ fallbackName c payload) ∧
      (g.base.path.text.rdropWhile (· == '/') ++ cfg.routing.fallbackStart.toList <+:
          o.url.path.text ↔
        ∃ rest, rest ≠ [] ∧
          Url.resolveDots g.area.reverse (steps (fallbackName c payload)) = g.area ++ rest) ∧
      (Url.neverClimbs (steps (fallbackName c payload)) = true →
        g.base.path.text.rdropWhile (· == '/') ++ cfg.routing.fallbackStart.toList <+:
          o.url.path.text) := by
  have hsound := sound_of_ofConfig hc hg
  obtain ⟨rest, hs⟩ := Config.fallbackStart_slash hc
  have hroutes := routes_of_ofConfig hg
  have hstart : g.routes.fallbackStart = cfg.routing.fallbackStart := by rw [hroutes]; rfl
  have hfind : g.routes.table.find? c.method = none := by rwa [hroutes]
  rw [← hstart] at harea hs ⊢
  have hiff := hsound.fallback_prefix_iff harea hs hfind he ho
  refine ⟨hsound.fallback_tail_iff harea hs hfind he ho, hiff, fun hn => hiff.mpr ?_⟩
  exact Url.resolveDots_of_neverClimbs _ hn (Url.splitWhere_ne_nil _ _)

/-! ### The usual area -/

lemma usual_isArea : IsArea ({} : Config).routing.fallbackStart :=
  ⟨by simp [isAreaChar, Text.isLetter], by decide +kernel⟩

lemma exists_usualRequest (method : String)
    (hr : (Template.bind (({} : Config).routing.toRoutes.resolve method).template
      []).rejected = []) :
    ∃ g o, ofConfig {} id = .ok g ∧ g.prepare (.ofMethod method) = .ok o :=
  exists_request Config.default_isValid (by decide +kernel) id rfl hr rfl

/-- Segments in a name stay in the area. -/
theorem report_stays : ∃ g o, ofConfig {} id = .ok g ∧
    g.prepare (.ofMethod "Reports/2024") = .ok o ∧ o.url.query = none ∧ o.url.fragment = none ∧
    g.base.path.text.rdropWhile (· == '/') ++ "/api/".toList <+: o.url.path.text := by
  obtain ⟨g, o, hg, ho⟩ := exists_usualRequest "Reports/2024" (by decide +kernel)
  obtain ⟨htail, -, hstays⟩ := fallback_stays_iff Config.default_isValid hg usual_isArea
    (c := .ofMethod "Reports/2024") (by simp [Call.ofMethod, Dict.find?]) rfl ho
  obtain ⟨hq, hf⟩ := htail.mpr (by decide +kernel)
  exact ⟨g, o, hg, ho, hq, hf, hstays (by decide +kernel)⟩

/-- Two dots lead out of the area, and a question mark starts a query. -/
theorem admin_leaves : ({} : Config).isValid = true ∧ IsArea ({} : Config).routing.fallbackStart ∧
    ({} : Config).routing.routes.find? "../admin?all=1" = none ∧
    ∃ g o, ofConfig {} id = .ok g ∧ g.prepare (.ofMethod "../admin?all=1") = .ok o ∧
      o.url.query ≠ none ∧
      ¬ g.base.path.text.rdropWhile (· == '/') ++ "/api/".toList <+: o.url.path.text := by
  have hm : ({} : Config).routing.routes.find? "../admin?all=1" = none := by simp [Dict.find?]
  refine ⟨Config.default_isValid, usual_isArea, hm, ?_⟩
  obtain ⟨g, o, hg, ho⟩ := exists_usualRequest "../admin?all=1" (by decide +kernel)
  have hsound := sound_of_ofConfig Config.default_isValid hg
  have hroutes := routes_of_ofConfig hg
  have harea : IsArea g.routes.fallbackStart := by rw [hroutes]; exact usual_isArea
  have hfind : g.routes.table.find? (Call.ofMethod "../admin?all=1").method = none := by
    rw [hroutes]
    exact hm
  obtain ⟨rest, hs⟩ : ∃ rest, g.routes.fallbackStart.toList = '/' :: rest := by
    rw [hroutes]
    exact Config.fallbackStart_slash Config.default_isValid
  refine ⟨g, o, hg, ho, ?_, fun hp => ?_⟩
  · have hquery : (Url.readTail true (Url.counted
        (fallbackName (.ofMethod "../admin?all=1") []))).1.isSome = true := by decide +kernel
    rw [hsound.url_of_fallback harea hs hfind rfl ho]
    exact Option.isSome_iff_ne_none.mp hquery
  · have hsteps : steps (fallbackName (.ofMethod "../admin?all=1") []) =
        [['.', '.'], ['a', 'd', 'm', 'i', 'n']] := by decide +kernel
    have hplace : g.area = g.base.directory ++ [['a', 'p', 'i']] := by
      rw [area, hroutes]
      exact congrArg (g.base.directory ++ ·) (by decide +kernel)
    have hiff := hsound.fallback_prefix_iff harea hs hfind rfl ho
    rw [hroutes] at hiff
    obtain ⟨more, hne, hmore⟩ := hiff.mp hp
    rw [hsteps, hplace, List.reverse_append] at hmore
    have hwalk : Url.resolveDots (['a', 'p', 'i'] :: g.base.directory.reverse)
        [['.', '.'], ['a', 'd', 'm', 'i', 'n']] =
          g.base.directory ++ [['a', 'd', 'm', 'i', 'n']] := by
      change (['a', 'd', 'm', 'i', 'n'] :: g.base.directory.reverse).reverse = _
      simp
    -- as long as the area itself, the path cannot go on below it
    have hlen := congrArg List.length (hwalk.symm.trans hmore)
    simp only [List.length_append, List.length_singleton] at hlen
    exact hne (List.length_eq_zero_iff.mp (by omega))

end RestGateway.Gateway
