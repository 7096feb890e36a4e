import Mathlib
import RestGateway.Proofs.BoundSegment
import RestGateway.Proofs.Braces
import RestGateway.Proofs.Gateway.Server

/-! The path of a method that has a template. Reading the URL keeps the bound path character for
character, but for one case: dots in the template next to values that are all empty. -/
namespace RestGateway.Gateway
open Template (Piece ofSegments names boundText Collapses)

section
variable {g : Gateway} {c : Call} {segments : List (List Piece)}
  (hroute : g.routes.table.find? c.method = some (ofSegments segments))
include hroute

lemma template_of_find? : (g.routes.resolve c.method).template = ofSegments segments := by
  change (g.routes.table.find? c.method).getD _ = _
  rw [hroute, Option.getD_some]

lemma segments_ne_nil (hg : g.IsSound) : segments ≠ [] := by
  rintro rfl
  obtain ⟨rest, hs⟩ := hg.slash c.method
  rw [template_of_find? hroute] at hs
  exact absurd hs (by simp [ofSegments, Template.joinPieces])

variable (hsimple : ∀ segment ∈ segments, ∀ p ∈ segment, p.IsSimple)
include hsimple

lemma text_bound (payload : Dict Json) : (g.bound c payload).path.toList =
    (Url.Path.segments (segments.map (·.flatMap (boundText payload)))).text := by
  rw [bound, template_of_find? hroute]
  exact Template.bind_path_ofSegments (fun s hs p hp => (hsimple s hs p hp).isWhole) payload

variable {payload : Dict Json}
  (hv : ∀ segment ∈ segments, ∀ name ∈ names segment, payload.contains name = true)
  (hr : (g.bound c payload).rejected = [])
include hv hr

lemma fits_of_bound : ∀ segment ∈ segments, ∀ p ∈ segment, Template.Fits payload p := by
  rw [bound, template_of_find? hroute] at hr
  exact Template.fits_of_rejected_eq_nil hsimple hv hr

lemma inert_of_bound : ∀ s ∈ segments.map (·.flatMap (boundText payload)), ∀ c ∈ s,
    Url.isPathChar c = true ∧ Url.isSlash c = false := by
  intro s hs
  obtain ⟨segment, hm, rfl⟩ := List.mem_map.mp hs
  exact Template.inert_flatMap_boundText (fits_of_bound hroute hsimple hv hr segment hm)

variable (hg : g.IsSound)
include hg

/-- The bound segments are the steps from the directory of the base, and there is nothing behind
them. -/
theorem join_bound :
    g.base.join (g.bound c payload).path = .ok ⟨g.base.scheme, g.base.authority,
      .segments (Url.resolveDots g.base.directory.reverse
        (segments.map (·.flatMap (boundText payload)))), none, none⟩ := by
  have hne : segments.map (·.flatMap (boundText payload)) ≠ [] := by
    simpa using segments_ne_nil hroute hg
  exact hg.base.join_inert hne (inert_of_bound hroute hsimple hv hr)
    (text_bound hroute hsimple payload)

theorem text_join_bound_iff {url : Url} (hj : g.base.join (g.bound c payload).path = .ok url) :
    url.path.text = g.base.path.text.rdropWhile (· == '/') ++ (g.bound c payload).path.toList ↔
      ∀ segment ∈ segments, ¬Collapses payload segment := by
  have hfit := fits_of_bound hroute hsimple hv hr
  have hinert := inert_of_bound hroute hsimple hv hr
  rw [join_bound hroute hsimple hv hr hg, Except.ok.injEq] at hj
  rw [← hj, ← hg.base.text_directory, text_bound hroute hsimple payload,
    Url.text_resolveDots_eq_iff _ hinert, List.forall_mem_map]
  refine forall₂_congr fun segment hs => ?_
  rw [← Bool.not_eq_true, Template.isDots_flatMap_boundText_iff (hfit segment hs)]

end

section
variable {c : Call} {segments : List (List Piece)}
  (hsimple : ∀ segment ∈ segments, ∀ p ∈ segment, p.IsSimple)
include hsimple

lemma IsSound.path_kept_iff {g : Gateway} (hg : g.IsSound)
    (hroute : g.routes.table.find? c.method = some (ofSegments segments))
    {payload : Dict Json} (he : c.entries = .ok payload)
    (hv : ∀ segment ∈ segments, ∀ name ∈ names segment, payload.contains name = true)
    {o : Outbound} (ho : g.prepare c = .ok o) :
    o.url.path.text = g.base.path.text.rdropWhile (· == '/') ++
        (Template.bind (ofSegments segments) payload).path.toList ↔
      ∀ segment ∈ segments, ¬Collapses payload segment := by
  obtain ⟨payload', url, headers, he', hr, hj, -, rfl⟩ := exists_of_prepare_eq_ok ho
  rw [he, Except.ok.injEq] at he'
  subst he'
  have hiff := text_join_bound_iff hroute hsimple hv hr hg hj
  rwa [bound, template_of_find? hroute] at hiff

/-- A mapped call that becomes a request has the bound path behind the path of the base, character
for character, exactly when no segment of the template has dots for its literal text and empty
values only. -/
theorem bound_path_kept_iff {cfg : Config} (hc : cfg.isValid = true) {plan : Call → Call}
    {g : Gateway} (hg : ofConfig cfg plan = .ok g)
    (hroute : cfg.routing.routes.find? c.method = some (ofSegments segments))
    {payload : Dict Json} (he : c.entries = .ok payload)
    (hv : ∀ segment ∈ segments, ∀ name ∈ names segment, payload.contains name = true)
    {o : Outbound} (ho : g.prepare c = .ok o) :
    o.url.path.text = g.base.path.text.rdropWhile (· == '/') ++
        (Template.bind (ofSegments segments) payload).path.toList ↔
      ∀ segment ∈ segments, ¬Collapses payload segment := by
  have hfind : g.routes.table.find? c.method = some (ofSegments segments) := by
    rwa [routes_of_ofConfig hg]
  exact (sound_of_ofConfig hc hg).path_kept_iff hsimple hfind he hv ho

end

/-- Every template that a configuration may have falls into segments, so that the paths of its
method are kept or not by them, if it has no other characters than those that a URL keeps. -/
theorem exists_segments_kept {cfg : Config} (hc : cfg.isValid = true) {plan : Call → Call}
    {g : Gateway} (hg : ofConfig cfg plan = .ok g) {method template : String}
    (hroute : cfg.routing.routes.find? method = some template)
    (hchars : ∀ p ∈ Template.pieces template, p = .literal '/' ∨ p.IsSimple) :
    ∃ segments, template = ofSegments segments ∧ ∀ (c : Call) (payload : Dict Json),
      c.method = method → c.entries = .ok payload →
      (∀ name ∈ names (Template.pieces template), payload.contains name = true) →
      ∀ o, g.prepare c = .ok o →
        (o.url.path.text = g.base.path.text.rdropWhile (· == '/') ++
            (Template.bind template payload).path.toList ↔
          ∀ segment ∈ segments, ¬Collapses payload segment) := by
  obtain ⟨segments, rfl, hpieces, hwhole⟩ :=
    Template.exists_ofSegments (Config.problem?_route hc hroute)
  refine ⟨segments, rfl, ?_⟩
  rintro c payload rfl he hv o ho
  rw [← hpieces] at hchars hv
  have hsimple : ∀ segment ∈ segments, ∀ p ∈ segment, p.IsSimple := by
    intro segment hs p hp
    have hm : p ∈ Template.joinPieces segments :=
      List.mem_flatMap.mpr ⟨segment, hs, List.mem_cons_of_mem _ hp⟩
    exact (hchars p hm).resolve_left (hwhole segment hs p hp).2
  have hfind : g.routes.table.find? c.method = some (ofSegments segments) := by
    rwa [routes_of_ofConfig hg]
  refine (sound_of_ofConfig hc hg).path_kept_iff hsimple hfind he (fun segment hs name hn => ?_) ho
  exact hv name (Template.mem_names_joinPieces.mpr ⟨segment, hs, hn⟩)

/-! ### A template with a full stop between two names -/

def fileSegments : List (List Piece) :=
  ["files".toList.map .literal,
    [.placeholder "name".toList, .literal '.', .placeholder "ext".toList],
    "meta".toList.map .literal]

def fileRouting : Config.Routing :=
  { routes := [("GetFile", "/files/\x7bname\x7d.\x7bext\x7d/meta")] }

def fileEntries (name ext : String) : Dict Json := [("ext", .string ext), ("name", .string name)]

def fileCall (name ext : String) : Call :=
  { Call.ofMethod "GetFile" with payload := .object (fileEntries name ext) }

lemma fileSegments_simple : ∀ segment ∈ fileSegments, ∀ p ∈ segment, p.IsSimple := by
  simp [fileSegments, Piece.IsSimple, Template.isUnreserved, Text.isLetter, Text.isDigit]

lemma fileRouting_find? : fileRouting.routes.find? "GetFile" = some (ofSegments fileSegments) := by
  have h : "/files/\x7bname\x7d.\x7bext\x7d/meta".toList =
      (Template.joinPieces fileSegments).flatMap Piece.text := by decide +kernel
  rw [ofSegments, ← h, String.ofList_toList]
  simp [fileRouting, Dict.find?]

lemma fileConfig_isValid : ({ routing := fileRouting } : Config).isValid = true :=
  Config.isValid_routing Config.default_isValid (by decide +kernel)

lemma fileEntries_contains (name ext : String) : ∀ segment ∈ fileSegments,
    ∀ n ∈ names segment, (fileEntries name ext).contains n = true := by
  simp only [fileSegments, List.forall_mem_cons]
  refine ⟨by simp [names], ?_, by simp [names], by simp⟩
  intro n hn
  have h : n = "name" ∨ n = "ext" := by simpa [names, eq_comm] using hn
  rcases h with rfl | rfl <;> simp [fileEntries, Dict.contains, Dict.find?]

lemma exists_fileRequest (name ext : String)
    (hr : (Template.bind (fileRouting.toRoutes.resolve "GetFile").template
      (fileEntries name ext)).rejected = []) :
    ∃ g o, ofConfig { routing := fileRouting } id = .ok g ∧ g.prepare (fileCall name ext) = .ok o :=
  exists_request fileConfig_isValid (by decide +kernel) id rfl hr rfl

/-- With an ending the path is the bound one. -/
theorem file_path_kept : ∃ g o, ofConfig { routing := fileRouting } id = .ok g ∧
    g.prepare (fileCall "" "pdf") = .ok o ∧
    o.url.path.text = g.base.path.text.rdropWhile (· == '/') ++
      (Template.bind (ofSegments fileSegments) (fileEntries "" "pdf")).path.toList := by
  obtain ⟨g, o, hg, ho⟩ := exists_fileRequest "" "pdf" (by decide +kernel)
  refine ⟨g, o, hg, ho, (bound_path_kept_iff fileSegments_simple fileConfig_isValid hg
    fileRouting_find? rfl (fileEntries_contains _ _) ho).mpr ?_⟩
  rintro segment hs ⟨hdots, hempty⟩
  simp only [fileSegments, List.mem_cons, List.not_mem_nil, or_false] at hs
  rcases hs with rfl | rfl | rfl
  · simp [Template.fixedText] at hdots
  · exact absurd (hempty "ext" (by simp [names]) _ rfl) (by decide)
  · simp [Template.fixedText] at hdots

/-- Without a name and an ending the full stop is lost, and no other segment of the template is
dots. -/
theorem file_path_not_kept :
    (∀ segment ∈ fileSegments, names segment = [] →
      Template.fixedText segment ≠ ['.'] ∧ Template.fixedText segment ≠ ['.', '.']) ∧
    ∃ g o, ofConfig { routing := fileRouting } id = .ok g ∧ g.prepare (fileCall "" "") = .ok o ∧
      o.url.path.text ≠ g.base.path.text.rdropWhile (· == '/') ++
        (Template.bind (ofSegments fileSegments) (fileEntries "" "")).path.toList := by
  refine ⟨by simp [fileSegments, Template.fixedText, names], ?_⟩
  obtain ⟨g, o, hg, ho⟩ := exists_fileRequest "" "" (by decide +kernel)
  refine ⟨g, o, hg, ho, fun hkept => ?_⟩
  have hfind : g.routes.table.find? "GetFile" = some (ofSegments fileSegments) := by
    rw [routes_of_ofConfig hg]
    exact fileRouting_find?
  have hnone := ((sound_of_ofConfig fileConfig_isValid hg).path_kept_iff fileSegments_simple hfind
    rfl (fileEntries_contains _ _) ho).mp hkept
  refine hnone _ (List.mem_cons_of_mem _ List.mem_cons_self) ⟨Or.inl rfl, ?_⟩
  intro n hn v hv
  have h : n = "name" ∨ n = "ext" := by simpa [names, eq_comm] using hn
  have he : v = .string "" := by
    rcases h with rfl | rfl <;> simpa [fileEntries, Dict.find?, eq_comm] using hv
  rw [he]
  rfl

end RestGateway.Gateway
