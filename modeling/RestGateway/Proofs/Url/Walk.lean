import Mathlib
import RestGateway.Proofs.Url.Joining

/-! Where the segments of a path lead: whether they stay below the place they start from, and
whether there is anything behind them. -/
namespace RestGateway.Url

/-! ### Splitting and joining -/

theorem text_splitWhere (cs : List Char) :
    (Path.segments (splitWhere (· == '/') cs)).text = '/' :: cs := by
  induction cs with
  | nil => rfl
  | cons c cs ih =>
    rw [splitWhere]
    cases hc : c == '/' with
    | true => rw [if_pos rfl, text_cons, ih, beq_iff_eq.mp hc, List.nil_append]
    | false =>
      rw [if_neg Bool.false_ne_true]
      cases hs : splitWhere (· == '/') cs with
      | nil => exact absurd hs (splitWhere_ne_nil _ _)
      | cons part parts =>
        rw [hs, text_cons, List.cons.injEq] at ih
        rw [text_cons, List.cons_append, ih.2]

/-- A path whose text goes on behind a place has the segments of the place, and more. -/
theorem text_prefix_iff {place segments : List (List Char)} (hp : ∀ s ∈ place, IsSettled s)
    (hs : ∀ s ∈ segments, IsSettled s) :
    (Path.segments place).text ++ ['/'] <+: (Path.segments segments).text ↔
      ∃ rest, rest ≠ [] ∧ segments = place ++ rest := by
  constructor
  · rintro ⟨more, hm⟩
    have hsplit := splitWhere_text_append (p := isSlash) rfl (fun s h => (hp s h).noSlash) more
    rw [List.append_assoc, List.singleton_append] at hm
    rw [hm, splitWhere_text rfl fun s h => (hs s h).noSlash, List.cons.injEq] at hsplit
    exact ⟨_, splitWhere_ne_nil _ _, hsplit.2⟩
  · rintro ⟨rest, hne, rfl⟩
    obtain ⟨s, rest, rfl⟩ := List.exists_cons_of_ne_nil hne
    rw [text_append, text_cons]
    exact ⟨s ++ (Path.segments rest).text, by simp⟩

/-! ### Steps -/

/-- The segments that are read of a text behind a slash. -/
def steps (cs : List Char) : List (List Char) := splitWhere isSlash (pathPart (counted cs))

/-- How far below its start a walk is after one more step; none when the step leads above it. -/
def levelAfter (level : Nat) (step : List Char) : Option Nat :=
  if isDoubleDot step then (if level = 0 then none else some (level - 1))
  else if isSingleDot step then some level
  else some (level + 1)

/-- At no point are there more steps up than steps down. -/
def neverClimbs (steps : List (List Char)) : Bool := (steps.foldlM levelAfter 0).isSome

lemma parent_above (e : List Char) (above place : List (List Char)) :
    ∃ kept, parent (e :: (above ++ place)) = kept ++ place ∧ above.length ≤ kept.length := by
  rw [show parent (e :: (above ++ place)) =
    if isKept e then e :: (above ++ place) else above ++ place from rfl]
  split_ifs
  · exact ⟨e :: above, rfl, Nat.le_succ _⟩
  · exact ⟨above, rfl, le_rfl⟩

lemma addSegment_above (place : List (List Char)) {above : List (List Char)} {level next : Nat}
    {step : List Char} (hn : levelAfter level step = some next) (hl : level ≤ above.length)
    (isLast : Bool) :
    ∃ above', addSegment (above ++ place) step isLast = above' ++ place ∧
      next ≤ above'.length ∧ (isLast = true → above' ≠ []) := by
  unfold levelAfter at hn
  split_ifs at hn with hd hz hs
  · -- below its start a walk has a segment of its own to take along
    obtain ⟨e, rest, rfl⟩ := List.exists_cons_of_length_pos (l := above) (by omega)
    have hnext : next = level - 1 := (Option.some.inj hn).symm
    obtain ⟨kept, hk, hlen⟩ := parent_above e rest place
    rw [List.length_cons] at hl
    simp only [addSegment, hd, if_true, List.cons_append, hk]
    cases isLast with
    | true => exact ⟨[] :: kept, rfl, by rw [List.length_cons]; omega, by simp⟩
    | false => exact ⟨kept, rfl, by omega, by simp⟩
  · have hnext : next = level := (Option.some.inj hn).symm
    simp only [addSegment, hd, hs, if_true, Bool.false_eq_true, if_false]
    cases isLast with
    | true => exact ⟨[] :: above, rfl, by rw [List.length_cons]; omega, by simp⟩
    | false => exact ⟨above, rfl, by omega, by simp⟩
  · have hnext : next = level + 1 := (Option.some.inj hn).symm
    simp only [addSegment, hd, hs, Bool.false_eq_true, if_false]
    exact ⟨_ :: above, rfl, by rw [List.length_cons]; omega, by simp⟩

lemma resolveDots_above (place above : List (List Char)) {level : Nat}
    {steps : List (List Char)} (h : (steps.foldlM levelAfter level).isSome = true)
    (hl : level ≤ above.length) (hne : steps = [] → above ≠ []) :
    ∃ rest, rest ≠ [] ∧ resolveDots (above ++ place.reverse) steps = place ++ rest := by
  -- the walk has at least as many segments on top of the place as its level says
  induction steps generalizing above level with
  | nil => exact ⟨above.reverse, by simpa using hne rfl, by simp [resolveDots_nil]⟩
  | cons step steps ih =>
    rw [List.foldlM_cons] at h
    cases hn : levelAfter level step with
    | none => simp [hn] at h
    | some next =>
      obtain ⟨above', ha, hl', hlast⟩ := addSegment_above place.reverse hn hl steps.isEmpty
      rw [hn] at h
      rw [resolveDots_cons, ha]
      exact ih above' h hl' fun he => hlast (by simp [he])

/-- Steps that never climb lead below the place where they start. -/
theorem resolveDots_of_neverClimbs (place : List (List Char)) {steps : List (List Char)}
    (h : neverClimbs steps = true) (hne : steps ≠ []) :
    ∃ rest, rest ≠ [] ∧ resolveDots place.reverse steps = place ++ rest :=
  resolveDots_above place [] h (Nat.zero_le _) fun he => absurd he hne

/-! ### Behind the path -/

lemma mem_counted_iff {c : Char} (hc : isControlOrBlank c = false) (cs : List Char) :
    c ∈ counted cs ↔ c ∈ cs := by
  have hl : (! isLineOrTab c) = true := by simp [isLineOrTab_of_not_control hc]
  unfold counted withoutLines
  rw [List.mem_filter, and_iff_left hl, List.rdropWhile, List.mem_reverse]
  constructor
  · exact fun h => List.mem_reverse.mp ((List.dropWhile_suffix _).mem h)
  · intro h
    have hr := List.mem_reverse.mpr h
    rw [← List.takeWhile_append_dropWhile (p := isControlOrBlank) (l := cs.reverse)] at hr
    rcases List.mem_append.mp hr with ht | hd
    · rw [List.mem_takeWhile_imp ht] at hc
      exact Bool.noConfusion hc
    · exact hd

lemma readTail_eq_none_iff (web : Bool) (cs : List Char) :
    (readTail web cs).1 = none ∧ (readTail web cs).2 = none ↔ ∀ c ∈ cs, endsPath c = false := by
  cases hd : cs.dropWhile (! endsPath ·) with
  | nil =>
    have hall : ∀ c ∈ cs, endsPath c = false := by
      simpa [List.dropWhile_eq_nil_iff] using hd
    refine iff_of_true ?_ hall
    simp [readTail, hd, readFragment]
  | cons c rest =>
    have hc : endsPath c = true := by
      have h := List.head_dropWhile_not (p := (! endsPath ·)) (l := cs) (by simp [hd])
      simpa [hd] using h
    have hm : c ∈ cs := (List.dropWhile_suffix _).mem (hd ▸ List.mem_cons_self)
    refine iff_of_false ?_ fun hall => by simp [hall c hm] at hc
    have hcases : c = '?' ∨ c = '#' := by simpa [endsPath] using hc
    rcases hcases with rfl | rfl <;> simp [readTail, hd, readFragment]

theorem readTail_counted_eq_none_iff (web : Bool) (cs : List Char) :
    (readTail web (counted cs)).1 = none ∧ (readTail web (counted cs)).2 = none ↔
      '?' ∉ cs ∧ '#' ∉ cs := by
  have hends (ds : List Char) : (∀ c ∈ ds, endsPath c = false) ↔ '?' ∉ ds ∧ '#' ∉ ds := by
    simp only [endsPath, Bool.or_eq_false_iff, decide_eq_false_iff_not]
    constructor
    · exact fun h => ⟨fun hm => (h _ hm).1 rfl, fun hm => (h _ hm).2 rfl⟩
    · rintro ⟨hq, hf⟩ c hc
      exact ⟨fun he => hq (he ▸ hc), fun he => hf (he ▸ hc)⟩
  rw [readTail_eq_none_iff, hends, mem_counted_iff rfl, mem_counted_iff rfl]

end RestGateway.Url
