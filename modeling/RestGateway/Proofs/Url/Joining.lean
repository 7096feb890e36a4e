import Mathlib
import RestGateway.Outbound
import RestGateway.Proofs.Url.Reading

/-! A path put behind a base URL is read from the directory of the base on. The scheme and the
authority stay those of the base, whatever the path is. -/
namespace RestGateway.Url

/-- The segments of a path without the empty ones at its end. -/
def directory (u : Url) : List (List Char) :=
  match u.path with
  | .segments parts => parts.rdropWhile List.isEmpty
  | .rootless _ => []

/-- The two URLs agree on the scheme, the user, the host and the port. -/
structure SameServer (u v : Url) : Prop where
  scheme : u.scheme = v.scheme
  authority : u.authority = v.authority

/-- A URL that paths are put behind. -/
structure IsBase (u : Url) : Prop extends IsWeb u where
  noQuery : u.query = none
  noFragment : u.fragment = none

/-! ### Characters of settled segments -/

lemma isPathChar_spec {c : Char} (h : isPathChar c = true) :
    isControlOrBlank c = false ∧ endsPath c = false := by
  simp only [isPathChar, Bool.and_eq_true, decide_eq_true_eq, Bool.not_eq_true'] at h
  refine ⟨by simpa [isControlOrBlank] using h.1.1, ?_⟩
  by_contra hn
  rw [Bool.not_eq_false] at hn
  simp only [endsPath, Bool.or_eq_true, decide_eq_true_eq] at hn
  rcases hn with rfl | rfl <;> exact absurd h.2 (by decide)

lemma isPathChar_of_mem_text {parts : List (List Char)} (h : ∀ s ∈ parts, IsSettled s) {c : Char}
    (hc : c ∈ (Path.segments parts).text) : isPathChar c = true := by
  obtain ⟨s, hs, hm⟩ := List.mem_flatMap.mp hc
  rcases List.mem_cons.mp hm with rfl | hm
  · rfl
  · exact (h s hs).kept c hm

lemma counted_append {front : List Char} (h : ∀ c ∈ front, isPathChar c = true)
    (behind : List Char) : counted (front ++ '/' :: behind) = front ++ '/' :: counted behind := by
  unfold counted
  rw [rdropWhile_append_of_not rfl]
  change List.filter _ _ = _
  rw [List.filter_append, List.filter_cons_of_pos (by decide)]
  exact congrArg (· ++ _) (withoutLines_of_not_control fun c hc => (isPathChar_spec (h c hc)).1)

lemma counted_of_isPathChar {cs : List Char} (h : ∀ c ∈ cs, isPathChar c = true) :
    counted cs = cs := by
  have hc : ∀ c ∈ cs, isControlOrBlank c = false := fun c hc => (isPathChar_spec (h c hc)).1
  have hr : cs.rdropWhile isControlOrBlank = cs :=
    List.rdropWhile_eq_self_iff.mpr fun hl => by simp [hc _ (List.getLast_mem hl)]
  rw [counted, hr, withoutLines_of_not_control hc]

lemma pathPart_append {front : List Char} (h : ∀ c ∈ front, isPathChar c = true)
    (behind : List Char) : pathPart (front ++ behind) = front ++ pathPart behind :=
  List.takeWhile_append_of_pos fun c hc => by simp [(isPathChar_spec (h c hc)).2]

lemma readTail_append {front : List Char} (h : ∀ c ∈ front, isPathChar c = true)
    (behind : List Char) : readTail true (front ++ behind) = readTail true behind := by
  unfold readTail
  rw [List.dropWhile_append_of_pos fun c hc => by simp [(isPathChar_spec (h c hc)).2]]

/-! ### Joining -/

lemma join_eq_ok_iff {base url : Url} {path : String} :
    base.join path = .ok url ↔ parse (base.joinedText path) = .ok url := by
  unfold join
  dsimp only
  cases parse (base.joinedText path) <;> simp

theorem parse_place {scheme : List Char} {a : Authority} (hs : Config.isHttp scheme = true)
    (ha : isStable scheme a = true) {place : List (List Char)} (h : ∀ s ∈ place, IsSettled s)
    (behind : List Char) :
    parse (String.ofList (scheme ++ ':' :: '/' :: '/' :: (a.text ++
      ((Path.segments place).text ++ '/' :: behind)))) =
      .ok ⟨scheme, some a,
        .segments (resolveDots place.reverse (splitWhere isSlash (pathPart (counted behind)))),
        (readTail true (counted behind)).1, (readTail true (counted behind)).2⟩ := by
  have hw := webSegments_text_append h (pathPart (counted behind))
  cases place with
  | nil =>
    rw [text_nil, List.nil_append] at hw ⊢
    rw [parse_web hs ha, hw]
  | cons s place =>
    have hk : ∀ c ∈ s ++ (Path.segments place).text, isPathChar c = true := fun c hc =>
      isPathChar_of_mem_text h (by rw [text_cons]; exact List.mem_cons_of_mem _ hc)
    rw [text_cons, List.cons_append] at hw ⊢
    rw [parse_web hs ha, counted_append hk, pathPart_append hk, readTail_append hk,
      pathPart_cons, readTail_cons, hw]

namespace IsBase
variable {base : Url} (hb : IsBase base)
include hb

lemma settled_directory : ∀ s ∈ base.directory, IsSettled s := by
  obtain ⟨parts, hp, hs⟩ := hb.path
  intro s h
  simp only [directory, hp] at h
  exact hs s ((List.rdropWhile_prefix _ _).mem h)

theorem text_directory :
    (Path.segments base.directory).text = base.path.text.rdropWhile (· == '/') := by
  obtain ⟨parts, hp, hs⟩ := hb.path
  simp only [directory, hp]
  exact (text_rdropWhile fun s h => (hs s h).slash_not_mem).symm

lemma chars_eq {a : Authority} (ha : base.authority = some a) :
    base.chars = base.scheme ++ ':' :: '/' :: '/' :: (a.text ++ base.path.text) := by
  simp [chars, authorityText, optionText, ha, hb.noQuery, hb.noFragment]

/-- Slashes are taken from the path only, and not from the authority. -/
lemma joinedText_eq {a : Authority} (ha : base.authority = some a)
    (hst : isStable base.scheme a = true) (path : String) :
    base.joinedText path = String.ofList (base.scheme ++ ':' :: '/' :: '/' ::
      (a.text ++ ((Path.segments base.directory).text ++ path.toList))) := by
  -- the last character of the authority is no slash and stops the dropping
  have hne := text_ne_nil_of_isStable hst (isWebScheme_of_isHttp hb.http)
  obtain ⟨init, c, hc⟩ := (List.eq_nil_or_concat a.text).resolve_left hne
  have hslash : (c == '/') = false := by
    have he := (isStable_text hst (c := c) (by simp [hc])).2
    simp only [endsAuthority, Bool.or_eq_false_iff, decide_eq_false_iff_not] at he
    simpa using he.1.1.1
  have hr : base.chars.rdropWhile (· == '/') =
      base.scheme ++ ':' :: '/' :: '/' :: (a.text ++ base.path.text.rdropWhile (· == '/')) := by
    have hx := rdropWhile_append_of_not (p := (· == '/')) hslash
      (base.scheme ++ ':' :: '/' :: '/' :: init) base.path.text
    rw [hb.chars_eq ha, hc]
    simpa using hx
  change String.ofList (base.chars.rdropWhile (· == '/') ++ path.toList) = _
  rw [hr, hb.text_directory]
  simp

/-- Settled segments at the start of a path lead on from the directory of the base, and the rest is
read from there. -/
theorem join_place {parts : List (List Char)} (hs : ∀ s ∈ parts, IsSettled s) {path : String}
    {behind : List Char} (hp : path.toList = (Path.segments parts).text ++ '/' :: behind) :
    base.join path = .ok ⟨base.scheme, base.authority,
      .segments (resolveDots (base.directory ++ parts).reverse
        (splitWhere isSlash (pathPart (counted behind)))),
      (readTail true (counted behind)).1, (readTail true (counted behind)).2⟩ := by
  obtain ⟨a, ha, hst⟩ := hb.authority
  have hplace : ∀ s ∈ base.directory ++ parts, IsSettled s :=
    List.forall_mem_append.mpr ⟨hb.settled_directory, hs⟩
  have hparse := parse_place hb.http hst hplace behind
  rw [text_append, List.append_assoc, ← hp, ← hb.joinedText_eq ha hst] at hparse
  rw [join_eq_ok_iff, hparse, ha]

theorem exists_join {path : String} {behind : List Char} (hp : path.toList = '/' :: behind) :
    ∃ url, base.join path = .ok url ∧ url.SameServer base := by
  have hnone : ∀ s ∈ ([] : List (List Char)), IsSettled s := by simp
  exact ⟨_, hb.join_place hnone hp, rfl, rfl⟩

/-- A path of characters that need no escape has its segments added to the directory of the base. -/
theorem join_inert {parts : List (List Char)} (hne : parts ≠ [])
    (h : ∀ s ∈ parts, ∀ c ∈ s, isPathChar c = true ∧ isSlash c = false) {path : String}
    (hp : path.toList = (Path.segments parts).text) :
    base.join path = .ok ⟨base.scheme, base.authority,
      .segments (resolveDots base.directory.reverse parts), none, none⟩ := by
  obtain ⟨s, parts, rfl⟩ := List.exists_cons_of_ne_nil hne
  obtain ⟨hs, hparts⟩ := List.forall_mem_cons.mp h
  have hk : ∀ c ∈ s ++ (Path.segments parts).text, isPathChar c = true := by
    intro c hc
    rcases List.mem_append.mp hc with hc | hc
    · exact (hs c hc).1
    · obtain ⟨t, ht, hm⟩ := List.mem_flatMap.mp hc
      rcases List.mem_cons.mp hm with rfl | hm
      · rfl
      · exact (hparts t ht c hm).1
  have hpart : pathPart (s ++ (Path.segments parts).text) = s ++ (Path.segments parts).text := by
    have ha := pathPart_append hk []
    rwa [List.append_nil, show pathPart [] = [] from rfl, List.append_nil] at ha
  have htail : readTail true (s ++ (Path.segments parts).text) = (none, none) := by
    have ha := readTail_append hk []
    rwa [List.append_nil] at ha
  have hsplit := splitWhere_append_text (p := isSlash) rfl (fun c hc => (hs c hc).2)
    fun t ht c hc => (hparts t ht c hc).2
  have hnone : ∀ t ∈ ([] : List (List Char)), IsSettled t := by simp
  have hj := hb.join_place hnone
    (show path.toList = (Path.segments []).text ++ '/' :: (s ++ (Path.segments parts).text) by
      rw [hp, text_cons, text_nil, List.nil_append])
  rw [hj, counted_of_isPathChar hk, hpart, htail, hsplit, List.append_nil]

end IsBase

end RestGateway.Url
