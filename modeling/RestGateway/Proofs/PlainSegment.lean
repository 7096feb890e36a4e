import Mathlib
import RestGateway.Proofs.Gateway.PathParameters
import RestGateway.Proofs.Placeholder
import RestGateway.Proofs.Url.Writing

/-! Templates of plain words and placeholders that fill a segment, with or without values for them.
What becomes of a segment is read as it stands, but for a placeholder that is left with steps of a
path in its name. -/
namespace RestGateway.Template

/-- The characters of plain literal text. -/
def isWordChar (c : Char) : Bool :=
  Text.isLetter c || Text.isDigit c || ['-', '_'].contains c

lemma isUnreserved_of_isWordChar {c : Char} (h : isWordChar c = true) :
    isUnreserved c = true ∧ c ≠ '.' := by
  refine ⟨of_letter_or_mark (q := isUnreserved) (by simp) (by decide) h, ?_⟩
  rintro rfl
  exact absurd h (by decide)

/-- A placeholder that is left as it stands is read as several steps, and one of them is dots. -/
def Strays (name : String) : Prop :=
  ∃ step ∈ Url.splitWhere Url.isSlash
    (Url.pathPart (Url.withoutLines (Piece.placeholder name.toList).text)), Url.isDots step = true

instance (name : String) : Decidable (Strays name) := List.decidableBEx _ _

lemma still_of_not_strays {name : String} (h : ¬Strays name) :
    Url.IsStill (Piece.placeholder name.toList).text where
  noDots step hs := Bool.eq_false_iff.mpr fun hd => h ⟨step, hs, hd⟩
  ending := by
    rw [Piece.text, ← List.cons_append, List.rdropWhile_concat_neg _ _ _ (by decide)]

namespace Segment

/-- Words between slashes, and placeholders that fill a segment. -/
def IsPlain : Segment → Prop
  | fixed text => ∀ c ∈ text, isWordChar c = true
  | parameter name => IsBraceless name.toList

section
variable {s : Segment} (h : s.IsPlain)
include h

lemma whole_of_isPlain : ∀ p ∈ s.pieces, p.IsWhole := by
  intro p hp
  cases s with
  | fixed text =>
    obtain ⟨c, hc, rfl⟩ := List.mem_map.mp hp
    rintro rfl
    exact absurd (h '{' hc) (by decide)
  | parameter name =>
    rw [List.mem_singleton.mp hp]
    exact h

variable {payload : Dict Json} (hr : ∀ name, s = .parameter name → use payload name ≠ .rejected)
  (hstill : ∀ name, s = .parameter name → payload.find? name = none → ¬Strays name)
include hr hstill

/-- What becomes of a plain segment is read as it stands. -/
lemma still_of_isPlain : Url.IsStill (s.pieces.flatMap (boundText payload)) := by
  cases s with
  | fixed text =>
    rw [flatMap_fixed]
    refine Url.IsSettled.isStill ⟨fun c hc => ?_, fun c hc => ?_, ?_⟩
    · have hinert := isInert_of_isUnreserved (isUnreserved_of_isWordChar (h c hc)).1
      exact (Bool.and_eq_true _ _ ▸ hinert).1
    · have hinert := isInert_of_isUnreserved (isUnreserved_of_isWordChar (h c hc)).1
      rw [isInert, Bool.and_eq_true, Bool.not_eq_true'] at hinert
      exact hinert.2
    · by_contra hd
      rw [Bool.not_eq_false] at hd
      have hmem : '.' ∈ text := by
        have hpercent : '%' ∉ text := fun hm =>
          ne_percent_of_isUnreserved (isUnreserved_of_isWordChar (h '%' hm)).1 rfl
        rcases eq_dots_of_isDots hd hpercent with rfl | rfl <;> simp
      exact (isUnreserved_of_isWordChar (h '.' hmem)).2 rfl
  | parameter name =>
    rw [pieces, List.flatMap_singleton]
    by_cases hname : name = ""
    · -- without a name there is nothing to look up
      have huse : use payload (String.ofList name.toList) = .unnamed := by simp [use, hname]
      rw [boundText, huse, hname]
      exact still_of_not_strays (by decide)
    cases hv : payload.find? name with
    | none =>
      have huse : use payload (String.ofList name.toList) = .unresolved := by
        simp [use, hname, hv]
      rw [boundText, huse]
      exact still_of_not_strays (hstill name rfl hv)
    | some v =>
      have hd : ¬(v.rendered = "." ∨ v.rendered = "..") := fun hd =>
        hr name rfl (use_eq_rejected_iff.mpr ⟨hname, v, hv, hd⟩)
      have hfit : ∀ p ∈ (Segment.parameter name).pieces, Fits payload p := by
        intro p hp
        rw [List.mem_singleton.mp hp]
        exact ⟨fun hn => hname (String.toList_eq_nil_iff.mp hn), v,
          by rwa [String.ofList_toList], hd⟩
      have hproper : (Segment.parameter name).IsProper := ⟨hname, h⟩
      have hsettled := settled_flatMap_boundText hfit (not_collapses hproper payload)
      rw [pieces, List.flatMap_singleton] at hsettled
      exact hsettled.isStill

end

end Segment

/-- The segments of a path with the values of a payload in them. -/
def boundSegments (payload : Dict Json) (segments : List Segment) : List (List Char) :=
  segments.map (·.pieces.flatMap (boundText payload))

lemma boundText_congr {P Q : Dict Json} {p : Piece}
    (h : ∀ name, p = .placeholder name →
      P.find? (String.ofList name) = Q.find? (String.ofList name)) :
    boundText P p = boundText Q p := by
  cases p with
  | literal c => rfl
  | placeholder name =>
    have huse : use P (String.ofList name) = use Q (String.ofList name) := by
      rw [use, use, h name rfl]
    rw [boundText, boundText, huse]

lemma boundSegments_congr {P Q : Dict Json} {segments : List Segment}
    (h : ∀ name, .parameter name ∈ segments → P.find? name = Q.find? name) :
    boundSegments P segments = boundSegments Q segments := by
  refine List.map_congr_left fun s hs => List.flatMap_congr fun p hp => boundText_congr ?_
  rintro name rfl
  cases s with
  | fixed text => simp [Segment.pieces] at hp
  | parameter n =>
    have hn : name = n.toList := by simpa [Segment.pieces] using hp
    rw [hn, String.ofList_toList]
    exact h n hs

end RestGateway.Template
