import Mathlib
import RestGateway.Proofs.Url.Segment

/-! The text of a path determines its segments, and slashes at its end are empty segments at the
end. Reading a path with a segment of dots in it gives a shorter text. -/
namespace RestGateway.Url

lemma text_nil : (Path.segments []).text = [] := rfl

lemma text_cons (s : List Char) (parts : List (List Char)) :
    (Path.segments (s :: parts)).text = '/' :: (s ++ (Path.segments parts).text) := rfl

lemma text_append (xs ys : List (List Char)) :
    (Path.segments (xs ++ ys)).text = (Path.segments xs).text ++ (Path.segments ys).text :=
  List.flatMap_append

/-! ### Splitting -/

lemma splitWhere_eq_splitOnP (p : Char → Bool) (cs : List Char) :
    splitWhere p cs = cs.splitOnP p := by
  induction cs with
  | nil => rfl
  | cons c cs ih =>
    rw [splitWhere, List.splitOnP_cons_eq_if_modifyHead, ih]
    split_ifs with hc
    · rfl
    · cases hs : cs.splitOnP p with
      | nil => exact absurd hs (List.splitOnP_ne_nil p cs)
      | cons part parts => rfl

lemma splitWhere_ne_nil (p : Char → Bool) (cs : List Char) : splitWhere p cs ≠ [] := by
  rw [splitWhere_eq_splitOnP]
  exact List.splitOnP_ne_nil p cs

/-- The parts of a text consist of its characters that are no separators. -/
lemma mem_splitWhere {p : Char → Bool} {cs part : List Char} (h : part ∈ splitWhere p cs) :
    ∀ c ∈ part, c ∈ cs ∧ p c = false := by
  induction cs generalizing part with
  | nil => simp_all [splitWhere]
  | cons d cs ih =>
    have hlater {part : List Char} (h : part ∈ splitWhere p cs) :
        ∀ c ∈ part, c ∈ d :: cs ∧ p c = false :=
      fun c hc => ⟨List.mem_cons_of_mem _ (ih h c hc).1, (ih h c hc).2⟩
    rw [splitWhere] at h
    split_ifs at h with hd
    · rcases List.mem_cons.mp h with rfl | h
      · simp
      · exact hlater h
    · cases hs : splitWhere p cs with
      | nil => exact absurd hs (splitWhere_ne_nil p cs)
      | cons first parts =>
        rw [hs] at h hlater
        rcases List.mem_cons.mp h with rfl | h
        · refine List.forall_mem_cons.mpr ⟨?_, hlater List.mem_cons_self⟩
          exact ⟨List.mem_cons_self, Bool.eq_false_iff.mpr hd⟩
        · exact hlater (List.mem_cons_of_mem _ h)

section
variable {p : Char → Bool} (hp : p '/' = true)
include hp

lemma splitWhere_append_text {s : List Char} (hs : ∀ c ∈ s, p c = false)
    {parts : List (List Char)} (h : ∀ part ∈ parts, ∀ c ∈ part, p c = false) :
    splitWhere p (s ++ (Path.segments parts).text) = s :: parts := by
  rw [splitWhere_eq_splitOnP]
  induction parts generalizing s with
  | nil => rw [text_nil, List.append_nil, List.splitOnP_eq_singleton hs]
  | cons part parts ih =>
    obtain ⟨hpart, hparts⟩ := List.forall_mem_cons.mp h
    rw [text_cons, List.splitOnP_append_cons_of_forall_mem hs '/' hp, ih hpart hparts]

theorem splitWhere_text {parts : List (List Char)} (h : ∀ part ∈ parts, ∀ c ∈ part, p c = false) :
    splitWhere p (Path.segments parts).text = [] :: parts :=
  splitWhere_append_text hp (s := []) (by simp) h

lemma splitWhere_text_append {parts : List (List Char)}
    (h : ∀ part ∈ parts, ∀ c ∈ part, p c = false) (rest : List Char) :
    splitWhere p ((Path.segments parts).text ++ '/' :: rest) =
      [] :: (parts ++ splitWhere p rest) := by
  rw [splitWhere_eq_splitOnP, List.splitOnP_append_cons _ _ hp, ← splitWhere_eq_splitOnP,
    ← splitWhere_eq_splitOnP, splitWhere_text hp h, List.cons_append]

end

lemma IsSettled.slash_not_mem {segment : List Char} (h : IsSettled segment) : '/' ∉ segment :=
  fun hm => absurd (h.noSlash '/' hm) (by decide)

theorem splitOn_text {parts : List (List Char)} (h : ∀ s ∈ parts, IsSettled s) :
    (Path.segments parts).text.splitOn '/' = [] :: parts := by
  have hs : ∀ s ∈ parts, ∀ c ∈ s, (c == '/') = false := by
    intro s hs c hc
    rw [beq_eq_false_iff_ne]
    rintro rfl
    exact (h s hs).slash_not_mem hc
  rw [List.splitOn, ← splitWhere_eq_splitOnP, splitWhere_text (by simp) hs]

lemma webSegments_cons (rest : List Char) :
    webSegments ('/' :: rest) = resolveDots [] (splitWhere isSlash rest) := rfl

/-- Behind settled segments the rest of a path is read from the place they lead to. -/
theorem webSegments_text_append {place : List (List Char)} (h : ∀ s ∈ place, IsSettled s)
    (rest : List Char) :
    webSegments ((Path.segments place).text ++ '/' :: rest) =
      resolveDots place.reverse (splitWhere isSlash rest) := by
  obtain ⟨behind, hb⟩ : ∃ behind, (Path.segments place).text ++ '/' :: rest = '/' :: behind := by
    cases place with
    | nil => exact ⟨rest, rfl⟩
    | cons s place => exact ⟨_, by rw [text_cons, List.cons_append]⟩
  have hs := splitWhere_text_append (p := isSlash) rfl (fun s hs => (h s hs).noSlash) rest
  rw [hb] at hs ⊢
  have hbehind : splitWhere isSlash behind = place ++ splitWhere isSlash rest := by
    simpa [splitWhere, show isSlash '/' = true from rfl] using hs
  rw [webSegments_cons, hbehind, resolveDots_settled_append h, List.append_nil]

/-! ### Slashes at the end -/

lemma rdropWhile_append_of_not {α : Type} {p : α → Bool} {x : α} (hx : p x = false)
    (xs ys : List α) : (xs ++ x :: ys).rdropWhile p = xs ++ x :: ys.rdropWhile p := by
  induction ys using List.reverseRecOn with
  | nil =>
    rw [List.rdropWhile_concat_neg _ _ _ (by simp [hx]), List.rdropWhile_nil]
  | append_singleton ys y ih =>
    rw [← List.cons_append, ← List.append_assoc]
    cases hy : p y with
    | true => rw [List.rdropWhile_concat_pos _ _ _ hy, List.rdropWhile_concat_pos _ _ _ hy, ih]
    | false =>
      rw [List.rdropWhile_concat_neg _ _ _ (by simp [hy]),
        List.rdropWhile_concat_neg _ _ _ (by simp [hy])]
      simp

theorem text_rdropWhile {parts : List (List Char)} (h : ∀ s ∈ parts, '/' ∉ s) :
    (Path.segments parts).text.rdropWhile (· == '/') =
      (Path.segments (parts.rdropWhile List.isEmpty)).text := by
  induction parts using List.reverseRecOn with
  | nil => rfl
  | append_singleton parts s ih =>
    have hparts : ∀ t ∈ parts, '/' ∉ t := fun t ht => h t (by simp [ht])
    rw [text_append, text_cons, text_nil, List.append_nil]
    cases s using List.reverseRecOn with
    | nil =>
      rw [List.rdropWhile_concat_pos _ _ _ rfl, List.rdropWhile_concat_pos _ _ _ rfl, ih hparts]
    | append_singleton s c =>
      have hc : c ≠ '/' := by
        rintro rfl
        exact h (s ++ ['/']) (by simp) (by simp)
      rw [← List.cons_append, ← List.append_assoc,
        List.rdropWhile_concat_neg _ _ _ (by simpa using hc),
        List.rdropWhile_concat_neg _ _ _ (by simp), text_append, text_cons, text_nil]
      simp

/-! ### Shortening -/

lemma length_text_reverse (parts : List (List Char)) :
    (Path.segments parts.reverse).text.length = (Path.segments parts).text.length := by
  simp [Path.text, List.length_flatMap]

lemma length_text_suffix {xs ys : List (List Char)} (h : xs <:+ ys) :
    (Path.segments xs).text.length ≤ (Path.segments ys).text.length := by
  obtain ⟨zs, rfl⟩ := h
  rw [text_append, List.length_append]
  exact Nat.le_add_left _ _

lemma length_text_addSegment_of_dots (done : List (List Char)) {step : List Char}
    (h : isDots step = true) (isLast : Bool) :
    (Path.segments (addSegment done step isLast)).text.length <
      (Path.segments (step :: done)).text.length := by
  obtain ⟨rest, hr, he⟩ := addSegment_of_dots done h isLast
  have hl := length_text_suffix hr
  have hpos := List.length_pos_iff.mpr (isDots_ne_nil h)
  rw [he, text_cons, List.length_cons, List.length_append]
  split_ifs
  · rw [text_cons, List.length_cons, List.nil_append]
    omega
  · omega

lemma length_text_addSegment_le (done : List (List Char)) {step : List Char}
    (h : ∀ c ∈ step, isPathChar c = true) (isLast : Bool) :
    (Path.segments (addSegment done step isLast)).text.length ≤
      (Path.segments (step :: done)).text.length := by
  cases hd : isDots step with
  | true => exact (length_text_addSegment_of_dots done hd isLast).le
  | false => rw [addSegment_of_not_dots done hd, Percent.encode_of_kept h]

theorem length_text_resolveDots_le (done : List (List Char)) {steps : List (List Char)}
    (h : ∀ s ∈ steps, ∀ c ∈ s, isPathChar c = true) :
    (Path.segments (resolveDots done steps)).text.length ≤
      (Path.segments done).text.length + (Path.segments steps).text.length := by
  induction steps generalizing done with
  | nil => simp [resolveDots_nil, length_text_reverse]
  | cons step steps ih =>
    obtain ⟨hstep, hsteps⟩ := List.forall_mem_cons.mp h
    have ha := length_text_addSegment_le done hstep steps.isEmpty
    have hr := ih (addSegment done step steps.isEmpty) hsteps
    simp only [resolveDots_cons, text_cons, List.length_cons, List.length_append] at ha hr ⊢
    omega

theorem length_text_resolveDots_lt (done : List (List Char)) {steps : List (List Char)}
    (h : ∀ s ∈ steps, ∀ c ∈ s, isPathChar c = true) (hd : ∃ s ∈ steps, isDots s = true) :
    (Path.segments (resolveDots done steps)).text.length <
      (Path.segments done).text.length + (Path.segments steps).text.length := by
  induction steps generalizing done with
  | nil => simp at hd
  | cons step steps ih =>
    obtain ⟨hstep, hsteps⟩ := List.forall_mem_cons.mp h
    have ha := length_text_addSegment_le done hstep steps.isEmpty
    have hr := length_text_resolveDots_le (addSegment done step steps.isEmpty) hsteps
    simp only [resolveDots_cons, text_cons, List.length_cons, List.length_append] at ha hr ⊢
    rcases List.or_exists_of_exists_mem_cons hd with hs | hs
    · have hlt := length_text_addSegment_of_dots done hs steps.isEmpty
      simp only [text_cons, List.length_cons, List.length_append] at hlt
      omega
    · have hlt := ih (addSegment done step steps.isEmpty) hsteps hs
      omega

/-- Reading steps from a place keeps their text exactly when there are no dots among them. -/
theorem text_resolveDots_eq_iff (place : List (List Char)) {steps : List (List Char)}
    (h : ∀ s ∈ steps, ∀ c ∈ s, isPathChar c = true ∧ isSlash c = false) :
    (Path.segments (resolveDots place.reverse steps)).text =
      (Path.segments place).text ++ (Path.segments steps).text ↔ ∀ s ∈ steps, isDots s = false := by
  constructor
  · -- dots would make the text shorter
    intro he s hs
    by_contra hd
    have hlt := length_text_resolveDots_lt place.reverse (fun s hs c hc => (h s hs c hc).1)
      ⟨s, hs, by simpa using hd⟩
    rw [he, length_text_reverse, List.length_append] at hlt
    exact absurd hlt (lt_irrefl _)
  · intro hd
    have hsettled : ∀ s ∈ steps, IsSettled s := fun s hs =>
      ⟨fun c hc => (h s hs c hc).1, fun c hc => (h s hs c hc).2, hd s hs⟩
    rw [resolveDots_settled hsettled, List.reverse_reverse, text_append]

end RestGateway.Url
