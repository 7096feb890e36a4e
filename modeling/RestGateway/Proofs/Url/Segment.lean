import Mathlib
import RestGateway.Proofs.Percent
import RestGateway.Url.Parser

/-! A segment is settled when reading a URL leaves it as it is. Every path that has been read
consists of settled segments, and reading settled segments again changes nothing. Segments of dots
always make a path shorter. -/
namespace RestGateway.Url
open Percent

/-! ### Segments of dots -/

/-- Reading drops the segment, whatever spelling its dots have. -/
def isDots (segment : List Char) : Bool := isSingleDot segment || isDoubleDot segment

lemma escape_two_e : ∀ n < 256, (capitalDigit (n / 16)).toLower = '2' →
    (capitalDigit (n % 16)).toLower = 'e' → n = 0x2E := by decide +kernel

/-- The only escape in a segment of dots is that of a full stop. -/
lemma eq_dot_of_escape_infix {segment : List Char} {b : UInt8} (h : isDots segment = true)
    (hi : escape b <:+: segment) : b.toNat = 0x2E := by
  have hm := hi.map Char.toLower
  apply escape_two_e _ b.toNat_lt
  all_goals
    simp only [isDots, isSingleDot, isDoubleDot, List.contains_cons, List.contains_nil,
      Bool.or_false, Bool.or_eq_true, beq_iff_eq] at h
    rcases h with (h | h) | (h | h | h | h) <;> rw [h] at hm <;>
      simp_all [escape, List.infix_cons_iff, List.cons_prefix_cons]

lemma isDots_ne_nil {segment : List Char} (h : isDots segment = true) : segment ≠ [] := by
  rintro rfl
  exact absurd h (by decide)

/-- Encoding makes no dots. -/
lemma encode_eq_of_isDots {segment : List Char} (h : isDots (encode isPathChar segment) = true) :
    encode isPathChar segment = segment := by
  apply encode_of_kept
  intro c hc
  by_contra hk
  obtain ⟨b, hb, hi⟩ := exists_escape_infix hc (Bool.eq_false_iff.mpr hk)
  have hn := eq_dot_of_escape_infix h hi
  have hcn := toNat_eq_of_mem_utf8EncodeChar hb (by omega)
  have : c = '.' := Char.toNat_inj.mp (hcn.trans hn)
  exact hk (by rw [this]; rfl)

/-! ### Settled segments -/

/-- Reading leaves the segment as it is. -/
structure IsSettled (segment : List Char) : Prop where
  kept : ∀ c ∈ segment, isPathChar c = true
  noSlash : ∀ c ∈ segment, isSlash c = false
  noDots : isDots segment = false

namespace IsSettled

lemma nil : IsSettled [] := ⟨by simp, by simp, by decide⟩

lemma of_encode {segment : List Char} (hs : ∀ c ∈ segment, isSlash c = false)
    (hd : isDots segment = false) : IsSettled (encode isPathChar segment) where
  kept c hc := by
    rcases mem_encode hc with ⟨-, hk⟩ | ⟨b, hb⟩
    · exact hk
    · exact capitalDigit_cases (p := fun c => isPathChar c = true) (by decide) (by decide) hb
  noSlash c hc := by
    rcases mem_encode hc with ⟨hm, -⟩ | ⟨b, hb⟩
    · exact hs c hm
    · exact capitalDigit_cases (p := fun c => isSlash c = false) (by decide) (by decide) hb
  noDots := by
    by_contra hn
    rw [Bool.not_eq_false] at hn
    rw [encode_eq_of_isDots hn, hd] at hn
    exact Bool.noConfusion hn

lemma encode_eq {segment : List Char} (h : IsSettled segment) :
    encode isPathChar segment = segment := encode_of_kept h.kept

end IsSettled

/-! ### Adding segments -/

lemma addSegment_of_not_dots (done : List (List Char)) {segment : List Char}
    (h : isDots segment = false) (isLast : Bool) :
    addSegment done segment isLast = encode isPathChar segment :: done := by
  rw [isDots, Bool.or_eq_false_iff] at h
  simp [addSegment, h.1, h.2]

lemma parent_suffix (done : List (List Char)) : parent done <:+ done := by
  cases done with
  | nil => exact List.suffix_refl _
  | cons first rest =>
    simp only [parent]
    split_ifs
    · exact List.suffix_refl _
    · exact List.suffix_cons first rest

/-- Dots leave the segments that are there, perhaps without the last one, and an empty one behind
them at the end of the path. -/
lemma addSegment_of_dots (done : List (List Char)) {segment : List Char}
    (h : isDots segment = true) (isLast : Bool) :
    ∃ rest, rest <:+ done ∧
      addSegment done segment isLast = if isLast then [] :: rest else rest := by
  cases hd : isDoubleDot segment with
  | true => exact ⟨parent done, parent_suffix done, by simp [addSegment, hd]⟩
  | false =>
    have hs : isSingleDot segment = true := by simpa [isDots, hd] using h
    exact ⟨done, List.suffix_refl _, by simp [addSegment, hd, hs]⟩

lemma settled_addSegment {done : List (List Char)} (hdone : ∀ s ∈ done, IsSettled s)
    {segment : List Char} (hs : ∀ c ∈ segment, isSlash c = false) (isLast : Bool) :
    ∀ s ∈ addSegment done segment isLast, IsSettled s := by
  cases hd : isDots segment with
  | false =>
    rw [addSegment_of_not_dots done hd]
    exact List.forall_mem_cons.mpr ⟨IsSettled.of_encode hs hd, hdone⟩
  | true =>
    obtain ⟨rest, hr, he⟩ := addSegment_of_dots done hd isLast
    rw [he]
    have hrest : ∀ s ∈ rest, IsSettled s := fun s h => hdone s (hr.mem h)
    split_ifs
    · exact List.forall_mem_cons.mpr ⟨IsSettled.nil, hrest⟩
    · exact hrest

/-! ### Whole paths -/

lemma resolveDots_nil (done : List (List Char)) : resolveDots done [] = done.reverse := rfl

lemma resolveDots_cons (done : List (List Char)) (segment : List Char) (rest : List (List Char)) :
    resolveDots done (segment :: rest) =
      resolveDots (addSegment done segment rest.isEmpty) rest := rfl

lemma addSegment_of_settled (done : List (List Char)) {segment : List Char}
    (h : IsSettled segment) (isLast : Bool) : addSegment done segment isLast = segment :: done := by
  rw [addSegment_of_not_dots done h.noDots, h.encode_eq]

/-- Settled segments at the start of a path are where the rest of it starts. -/
theorem resolveDots_settled_append {place : List (List Char)} (h : ∀ s ∈ place, IsSettled s)
    (done steps : List (List Char)) :
    resolveDots done (place ++ steps) = resolveDots (place.reverse ++ done) steps := by
  induction place generalizing done with
  | nil => rfl
  | cons s place ih =>
    obtain ⟨hs, hplace⟩ := List.forall_mem_cons.mp h
    rw [List.cons_append, resolveDots_cons, addSegment_of_settled done hs, ih hplace]
    simp

theorem resolveDots_settled {segments : List (List Char)} (h : ∀ s ∈ segments, IsSettled s)
    (done : List (List Char)) : resolveDots done segments = done.reverse ++ segments := by
  have := resolveDots_settled_append h done []
  rwa [List.append_nil, resolveDots_nil, List.reverse_append, List.reverse_reverse] at this

/-- Reading leaves settled segments only. -/
theorem settled_resolveDots {done : List (List Char)} (hdone : ∀ s ∈ done, IsSettled s)
    {steps : List (List Char)} (hsteps : ∀ s ∈ steps, ∀ c ∈ s, isSlash c = false) :
    ∀ s ∈ resolveDots done steps, IsSettled s := by
  induction steps generalizing done with
  | nil => simpa [resolveDots_nil] using hdone
  | cons step steps ih =>
    obtain ⟨hstep, hrest⟩ := List.forall_mem_cons.mp hsteps
    rw [resolveDots_cons]
    exact ih (settled_addSegment hdone hstep _) hrest

end RestGateway.Url
