import Mathlib
import RestGateway.Proofs.BoundSegment
import RestGateway.Proofs.Url.Walk

/-! As long as no step of a path is read as dots, what stands behind the directory of the base is
written character by character: the path up to a question mark, the query up to a number sign, and
the fragment. What a segment of letters, digits and escapes was can be told from it. -/
namespace RestGateway.Url
open Percent (encode encodeChar)

/-! ### Writing -/

/-- Where a character behind the authority stands. -/
inductive Zone where
  | path
  | query
  | fragment
  deriving DecidableEq, Repr

namespace Zone

/-- The zone behind a character. -/
def after : Zone → Char → Zone
  | path, c => if c = '?' then query else if c = '#' then fragment else path
  | query, c => if c = '#' then fragment else query
  | fragment, _ => fragment

/-- What a character becomes. -/
def write : Zone → Char → List Char
  | path, c => if isSlash c then ['/'] else if endsPath c then [c] else encodeChar isPathChar c
  | query, c => if c = '#' then [c] else encodeChar (isQueryChar true) c
  | fragment, c => encodeChar isFragmentChar c

def afterAll (zone : Zone) (cs : List Char) : Zone := cs.foldl after zone

def writeAll : Zone → List Char → List Char
  | _, [] => []
  | zone, c :: cs => zone.write c ++ (zone.after c).writeAll cs

lemma writeAll_append (zone : Zone) (xs ys : List Char) :
    zone.writeAll (xs ++ ys) = zone.writeAll xs ++ (zone.afterAll xs).writeAll ys := by
  induction xs generalizing zone with
  | nil => rfl
  | cons x xs ih =>
    rw [List.cons_append, writeAll, writeAll, ih, List.append_assoc]
    rfl

/-- A run of characters that do not end the zone is written in one piece. -/
lemma writeAll_eq_flatMap {zone : Zone} {cs : List Char} (h : ∀ c ∈ cs, zone.after c = zone) :
    zone.writeAll cs = cs.flatMap zone.write ∧ zone.afterAll cs = zone := by
  induction cs with
  | nil => exact ⟨rfl, rfl⟩
  | cons c cs ih =>
    obtain ⟨hc, hcs⟩ := List.forall_mem_cons.mp h
    obtain ⟨hwrite, hafter⟩ := ih hcs
    refine ⟨?_, ?_⟩
    · rw [writeAll, hc, hwrite, List.flatMap_cons]
    · rw [afterAll, List.foldl_cons, hc]
      exact hafter

lemma writeAll_fragment (cs : List Char) : fragment.writeAll cs = encode isFragmentChar cs :=
  (writeAll_eq_flatMap fun _ _ => rfl).1

lemma writeAll_query (cs : List Char) : query.writeAll cs =
    encode (isQueryChar true) (cs.takeWhile (· != '#')) ++
      optionText '#' (readFragment (cs.dropWhile (· != '#'))) := by
  have hkeep : ∀ c ∈ cs.takeWhile (· != '#'), c ≠ '#' := by
    intro c hc
    have hne := List.mem_takeWhile_imp hc
    simpa using hne
  obtain ⟨hwrite, hafter⟩ := @writeAll_eq_flatMap query (cs.takeWhile (· != '#'))
    fun c hc => if_neg (hkeep c hc)
  have hencode : (cs.takeWhile (· != '#')).flatMap query.write =
      encode (isQueryChar true) (cs.takeWhile (· != '#')) :=
    List.flatMap_congr fun c hc => if_neg (hkeep c hc)
  conv_lhs => rw [← List.takeWhile_append_dropWhile (p := (· != '#')) (l := cs)]
  rw [writeAll_append, hwrite, hafter, hencode]
  congr 1
  cases hd : cs.dropWhile (· != '#') with
  | nil => rfl
  | cons c rest =>
    have hc : c = '#' := by
      have h := List.head_dropWhile_not (p := (· != '#')) (l := cs) (by simp [hd])
      simpa [hd] using h
    rw [hc, writeAll, readFragment, optionText]
    exact congrArg _ (writeAll_fragment rest)

/-- The path, the query and the fragment one after the other. -/
theorem writeAll_path (cs : List Char) : path.writeAll cs =
    (pathPart cs).flatMap path.write ++ optionText '?' (readTail true cs).1 ++
      optionText '#' (readTail true cs).2 := by
  have hkeep : ∀ c ∈ pathPart cs, path.after c = path := by
    intro c hc
    have hends := List.mem_takeWhile_imp hc
    simp only [endsPath, Bool.not_eq_true', Bool.or_eq_false_iff, decide_eq_false_iff_not] at hends
    simp [after, hends]
  obtain ⟨hwrite, hafter⟩ := writeAll_eq_flatMap hkeep
  conv_lhs => rw [← List.takeWhile_append_dropWhile (p := (! endsPath ·)) (l := cs)]
  rw [writeAll_append]
  change path.writeAll (pathPart cs) ++ (path.afterAll (pathPart cs)).writeAll _ = _
  rw [hwrite, hafter, List.append_assoc]
  congr 1
  cases hd : cs.dropWhile (! endsPath ·) with
  | nil => simp [readTail, hd, readFragment, writeAll, optionText]
  | cons c rest =>
    have hc : endsPath c = true := by
      have h := List.head_dropWhile_not (p := (! endsPath ·)) (l := cs) (by simp [hd])
      simpa [hd] using h
    have hcases : c = '?' ∨ c = '#' := by simpa [endsPath] using hc
    rcases hcases with rfl | rfl
    · simp only [readTail, hd, optionText]
      exact congrArg _ (writeAll_query rest)
    · simp only [readTail, hd, optionText, readFragment]
      exact congrArg _ (writeAll_fragment rest)

end Zone

/-! ### Characters that stay in every zone -/

namespace Zone

lemma write_slash (zone : Zone) : zone.write '/' = ['/'] ∧ zone.after '/' = zone := by
  cases zone <;> exact ⟨rfl, rfl⟩

lemma write_of_isSegmentChar (zone : Zone) {c : Char} (h : Form.isSegmentChar c = true) :
    zone.write c = [c] ∧ zone.after c = zone := by
  have hstays : decide (zone.write c = [c] ∧ zone.after c = zone) = true :=
    Template.of_letter_or_mark (q := fun c => decide (zone.write c = [c] ∧ zone.after c = zone))
      (by simp) (by cases zone <;> decide) h
  exact of_decide_eq_true hstays

lemma writeAll_of_isSegmentChar (zone : Zone) {cs : List Char}
    (h : ∀ c ∈ cs, Form.isSegmentChar c = true) :
    zone.writeAll cs = cs ∧ zone.afterAll cs = zone := by
  obtain ⟨hwrite, hafter⟩ := @writeAll_eq_flatMap zone cs
    fun c hc => (zone.write_of_isSegmentChar (h c hc)).2
  refine ⟨?_, hafter⟩
  rw [hwrite, List.flatMap_congr fun c hc => (zone.write_of_isSegmentChar (h c hc)).1]
  exact List.flatMap_singleton' cs

end Zone

/-! ### Steps without dots -/

lemma resolveDots_of_not_dots (done : List (List Char)) {steps : List (List Char)}
    (h : ∀ step ∈ steps, isDots step = false) :
    resolveDots done steps = done.reverse ++ steps.map (encode isPathChar) := by
  induction steps generalizing done with
  | nil => simp [resolveDots_nil]
  | cons step steps ih =>
    obtain ⟨hstep, hsteps⟩ := List.forall_mem_cons.mp h
    rw [resolveDots_cons, addSegment_of_not_dots done hstep, ih _ hsteps]
    simp

lemma text_encode_splitWhere {cs : List Char} (h : ∀ c ∈ cs, endsPath c = false) :
    (Path.segments ((splitWhere isSlash cs).map (encode isPathChar))).text =
      '/' :: cs.flatMap Zone.path.write := by
  induction cs with
  | nil => rfl
  | cons c cs ih =>
    obtain ⟨hc, hcs⟩ := List.forall_mem_cons.mp h
    have hrest := ih hcs
    rw [splitWhere, List.flatMap_cons, Zone.write, hc, if_neg Bool.false_ne_true]
    split_ifs with hslash
    · rw [List.map_cons, text_cons, hrest]
      rfl
    · cases hs : splitWhere isSlash cs with
      | nil => exact absurd hs (splitWhere_ne_nil _ _)
      | cons part parts =>
        rw [hs, List.map_cons, text_cons] at hrest
        rw [List.map_cons, text_cons, Percent.encode_cons, List.append_assoc,
          (List.cons.inj hrest).2]

/-- Reading the segment drops nothing: no step that it has is dots, and it does not end in a
blank. -/
structure IsStill (segment : List Char) : Prop where
  noDots : ∀ step ∈ splitWhere isSlash (pathPart (withoutLines segment)), isDots step = false
  ending : segment.rdropWhile isControlOrBlank = segment

lemma IsSettled.isStill {segment : List Char} (h : IsSettled segment) : IsStill segment := by
  have hc : ∀ c ∈ segment, isControlOrBlank c = false :=
    fun c hc => (isPathChar_spec (h.kept c hc)).1
  have hpart : pathPart segment = segment := by
    have happend := pathPart_append h.kept []
    rwa [List.append_nil, show pathPart [] = [] from rfl, List.append_nil] at happend
  have hsplit : splitWhere isSlash segment = [segment] := by
    rw [splitWhere_eq_splitOnP]
    exact List.splitOnP_eq_singleton h.noSlash
  refine ⟨?_, List.rdropWhile_eq_self_iff.mpr fun hl => by simp [hc _ (List.getLast_mem hl)]⟩
  rw [withoutLines_of_not_control hc, hpart, hsplit]
  simpa using h.noDots

lemma withoutLines_append (xs ys : List Char) :
    withoutLines (xs ++ ys) = withoutLines xs ++ withoutLines ys := List.filter_append _ _

lemma pathPart_append_slash (cs rest : List Char) :
    pathPart (cs ++ '/' :: rest) =
      if ∀ c ∈ cs, endsPath c = false then cs ++ '/' :: pathPart rest else pathPart cs := by
  split_ifs with h
  · unfold pathPart
    rw [List.takeWhile_append_of_pos fun c hc => by simp [h c hc],
      List.takeWhile_cons_of_pos (by decide)]
  · obtain ⟨c, hc, he⟩ : ∃ c ∈ cs, endsPath c = true := by simpa using h
    unfold pathPart
    rw [List.takeWhile_append, if_neg]
    intro hlen
    have hall := List.takeWhile_eq_self_iff.mp
      ((List.takeWhile_prefix (! endsPath ·)).eq_of_length hlen) c hc
    simp [he] at hall

/-- Steps of segments that are still are still. -/
lemma not_dots_of_still {segment : List Char} {parts : List (List Char)}
    (hs : IsStill segment) (h : ∀ part ∈ parts, IsStill part) :
    ∀ step ∈ splitWhere isSlash (pathPart (withoutLines (segment ++ (Path.segments parts).text))),
      isDots step = false := by
  induction parts generalizing segment with
  | nil =>
    rw [text_nil, List.append_nil]
    exact hs.noDots
  | cons part parts ih =>
    obtain ⟨hpart, hparts⟩ := List.forall_mem_cons.mp h
    have hslash (cs : List Char) : withoutLines ('/' :: cs) = '/' :: withoutLines cs := rfl
    rw [text_cons, withoutLines_append, hslash, pathPart_append_slash]
    split_ifs with hends
    · have hself : pathPart (withoutLines segment) = withoutLines segment :=
        List.takeWhile_eq_self_iff.mpr fun c hc => by simp [hends c hc]
      rw [splitWhere_eq_splitOnP, List.splitOnP_append_cons _ _ rfl, ← splitWhere_eq_splitOnP,
        ← splitWhere_eq_splitOnP]
      refine List.forall_mem_append.mpr ⟨?_, ih hpart hparts⟩
      rw [← hself]
      exact hs.noDots
    · exact hs.noDots

lemma rdropWhile_text {parts : List (List Char)} (h : ∀ part ∈ parts, IsStill part) :
    (Path.segments parts).text.rdropWhile isControlOrBlank = (Path.segments parts).text := by
  cases parts using List.reverseRecOn with
  | nil => rfl
  | append_singleton parts part =>
    rw [text_append, text_cons, text_nil, List.append_nil, rdropWhile_append_of_not rfl,
      (h part (by simp)).ending]

namespace IsBase

/-- The text behind the directory of the base is the path as it is written. -/
theorem text_join {base : Url} (hb : IsBase base) {parts : List (List Char)} (hne : parts ≠ [])
    (h : ∀ part ∈ parts, IsStill part) {path : String}
    (hp : path.toList = (Path.segments parts).text) {url : Url} (hj : base.join path = .ok url) :
    url.text = String.ofList (base.scheme ++ ':' :: (base.authorityText ++
      (Path.segments base.directory).text ++
        Zone.path.writeAll (withoutLines (Path.segments parts).text))) := by
  obtain ⟨a, ha, -⟩ := hb.authority
  obtain ⟨segment, parts, rfl⟩ := List.exists_cons_of_ne_nil hne
  obtain ⟨hsegment, hparts⟩ := List.forall_mem_cons.mp h
  rw [text_cons] at hp ⊢
  have hnone : ∀ s ∈ ([] : List (List Char)), IsSettled s := by simp
  have hcounted : counted (segment ++ (Path.segments parts).text) =
      withoutLines (segment ++ (Path.segments parts).text) := by
    have hdrop := rdropWhile_text h
    rw [text_cons] at hdrop
    have hcons := rdropWhile_append_of_not (p := isControlOrBlank) (x := '/') rfl []
      (segment ++ (Path.segments parts).text)
    rw [List.nil_append, hdrop] at hcons
    rw [counted, ← (List.cons.inj hcons).2]
  have hpath : path.toList =
      (Path.segments []).text ++ '/' :: (segment ++ (Path.segments parts).text) := by
    rw [hp, text_nil, List.nil_append]
  rw [hb.join_place hnone hpath, hcounted, List.append_nil,
    resolveDots_of_not_dots _ (not_dots_of_still hsegment hparts), List.reverse_reverse,
    Except.ok.injEq] at hj
  subst hj
  have hpart : ∀ c ∈ pathPart (withoutLines (segment ++ (Path.segments parts).text)),
      endsPath c = false := by
    intro c hc
    have hends := List.mem_takeWhile_imp hc
    simpa using hends
  have hwrite : Zone.path.writeAll (withoutLines ('/' :: (segment ++ (Path.segments parts).text))) =
      '/' :: Zone.path.writeAll (withoutLines (segment ++ (Path.segments parts).text)) := rfl
  rw [Url.text, chars, authorityText, authorityText, ha, hwrite, Zone.writeAll_path]
  dsimp only
  rw [text_append, text_encode_splitWhere hpart]
  simp

end IsBase

/-! ### A segment among others -/

lemma not_control_of_isSegmentChar {c : Char} (h : Form.isSegmentChar c = true) :
    isControlOrBlank c = false ∧ c ≠ '/' := by
  have hinert := Template.isInert_of_isSegmentChar h
  rw [Template.isInert, Bool.and_eq_true, Bool.not_eq_true'] at hinert
  refine ⟨(isPathChar_spec hinert.1).1, ?_⟩
  rintro rfl
  exact absurd hinert.2 (by decide)

/-- Two segments are the same if they are followed by a slash or nothing in one text. -/
lemma eq_of_append_eq {x y u v : List Char} (hx : '/' ∉ x) (hy : '/' ∉ y)
    (hu : ∀ c ∈ u.head?, c = '/') (hv : ∀ c ∈ v.head?, c = '/') (h : x ++ u = y ++ v) : x = y := by
  have htake {s rest : List Char} (hs : '/' ∉ s) (hrest : ∀ c ∈ rest.head?, c = '/') :
      (s ++ rest).takeWhile (· != '/') = s := by
    have hkeep : ∀ c ∈ s, (c != '/') = true := by
      intro c hc
      rw [bne_iff_ne]
      rintro rfl
      exact hs hc
    rw [List.takeWhile_append_of_pos hkeep]
    cases rest with
    | nil => simp
    | cons c rest =>
      rw [hrest c rfl, List.takeWhile_cons_of_neg (by decide), List.append_nil]
  rw [← htake hx hu, h, htake hy hv]

lemma head?_writeAll_text (zone : Zone) (parts : List (List Char)) :
    ∀ c ∈ (zone.writeAll (withoutLines (Path.segments parts).text)).head?, c = '/' := by
  cases parts with
  | nil => simp [text_nil, withoutLines, Zone.writeAll]
  | cons part parts =>
    have hslash : withoutLines ('/' :: (part ++ (Path.segments parts).text)) =
        '/' :: withoutLines (part ++ (Path.segments parts).text) := rfl
    rw [text_cons, hslash, Zone.writeAll, (zone.write_slash).1]
    simp

/-- Behind the same segments a segment of letters, digits and escapes can be told from what is
written, whatever comes after it. -/
theorem segment_eq_of_writeAll_eq {before after after' : List (List Char)} {x y : List Char}
    (hx : ∀ c ∈ x, Form.isSegmentChar c = true) (hy : ∀ c ∈ y, Form.isSegmentChar c = true)
    (h : Zone.path.writeAll (withoutLines (Path.segments (before ++ x :: after)).text) =
      Zone.path.writeAll (withoutLines (Path.segments (before ++ y :: after')).text)) : x = y := by
  have hwrite {s : List Char} (hs : ∀ c ∈ s, Form.isSegmentChar c = true) (zone : Zone)
      (rest : List (List Char)) :
      zone.writeAll (withoutLines (Path.segments (s :: rest)).text) =
        '/' :: (s ++ zone.writeAll (withoutLines (Path.segments rest).text)) := by
    have hlines : withoutLines (Path.segments (s :: rest)).text =
        '/' :: (s ++ withoutLines (Path.segments rest).text) := by
      have hself : withoutLines s = s :=
        withoutLines_of_not_control fun c hc => (not_control_of_isSegmentChar (hs c hc)).1
      rw [text_cons]
      change '/' :: withoutLines (s ++ _) = _
      rw [withoutLines_append, hself]
    rw [hlines, Zone.writeAll, (zone.write_slash).1, (zone.write_slash).2, Zone.writeAll_append,
      (zone.writeAll_of_isSegmentChar hs).1, (zone.writeAll_of_isSegmentChar hs).2,
      List.singleton_append]
  rw [text_append, text_append, withoutLines_append, withoutLines_append, Zone.writeAll_append,
    Zone.writeAll_append, List.append_cancel_left_eq, hwrite hx, hwrite hy, List.cons.injEq] at h
  exact eq_of_append_eq (fun hm => (not_control_of_isSegmentChar (hx _ hm)).2 rfl)
    (fun hm => (not_control_of_isSegmentChar (hy _ hm)).2 rfl) (head?_writeAll_text _ _)
    (head?_writeAll_text _ _) h.2

end RestGateway.Url
