import Mathlib
import RestGateway.Proofs.Template
import RestGateway.Proofs.Url.Segment

/-! A segment of a template whose placeholders have values is bound to characters that reading a URL
keeps. It is read as dots only if its literal text is dots and all of its values are empty. -/
namespace RestGateway.Template
open Url (isPathChar isSlash isDots)

/-! ### Characters -/

/-- The characters that stand for themselves in every part of a URL. -/
def isUnreserved (c : Char) : Bool :=
  Text.isLetter c || Text.isDigit c || ['-', '_', '~', '.'].contains c

lemma ascii_of_isLetter {c : Char} (h : Text.isLetter c = true ∨ Text.isDigit c = true) :
    c.toNat < 128 := by
  simp only [Text.isLetter, Text.isDigit, Bool.or_eq_true, Bool.and_eq_true, decide_eq_true_eq,
    Char.le_def, UInt32.le_iff_toNat_le] at h
  have h1 : 'z'.val.toNat = 122 := rfl
  have h2 : 'Z'.val.toNat = 90 := rfl
  have h3 : '9'.val.toNat = 57 := rfl
  have hc : c.toNat = c.val.toNat := rfl
  omega

lemma ascii_cases {p : Char → Prop} (h : ∀ n < 128, p (Char.ofNat n)) {c : Char}
    (hc : c.toNat < 128) : p c := by
  have := h c.toNat hc
  rwa [Char.ofNat_toNat] at this

/-- A check of the letters, the digits and a few marks looks at ASCII only. -/
lemma of_letter_or_mark {q : Char → Bool} {marks : List Char}
    (hm : ∀ c ∈ marks, c.toNat < 128)
    (h : ∀ n < 128, (Text.isLetter (Char.ofNat n) || Text.isDigit (Char.ofNat n) ||
      marks.contains (Char.ofNat n)) = true → q (Char.ofNat n) = true) {c : Char}
    (hc : (Text.isLetter c || Text.isDigit c || marks.contains c) = true) : q c = true := by
  have ha : c.toNat < 128 := by
    rcases (Bool.or_eq_true _ _).mp hc with hl | hl
    · exact ascii_of_isLetter ((Bool.or_eq_true _ _).mp hl)
    · exact hm c (by simpa using hl)
  exact ascii_cases (p := fun c => (Text.isLetter c || Text.isDigit c || marks.contains c) = true →
    q c = true) h ha hc

/-- The characters that reading a path leaves as they are and that end no segment. -/
def isInert (c : Char) : Bool := isPathChar c && !isSlash c

lemma isInert_of_isUnreserved {c : Char} (h : isUnreserved c = true) : isInert c = true :=
  of_letter_or_mark (q := isInert) (by simp) (by decide +kernel) h

lemma isInert_of_isSegmentChar {c : Char} (h : Form.isSegmentChar c = true) : isInert c = true :=
  of_letter_or_mark (q := isInert) (by simp) (by decide +kernel) h

lemma ne_percent_of_isUnreserved {c : Char} (h : isUnreserved c = true) : c ≠ '%' := by
  rintro rfl
  exact absurd h (by decide)

/-! ### Values -/

/-- The piece is an unreserved character, or it stands for a value that a segment can hold. -/
def Fits (payload : Dict Json) : Piece → Prop
  | .literal c => isUnreserved c = true
  | .placeholder name => name ≠ [] ∧ ∃ v, payload.find? (String.ofList name) = some v ∧
      ¬(v.rendered = "." ∨ v.rendered = "..")

section
variable {payload : Dict Json}

lemma boundText_of_find? {name : List Char} (hn : name ≠ []) {v : Json}
    (hv : payload.find? (String.ofList name) = some v)
    (hd : ¬(v.rendered = "." ∨ v.rendered = "..")) :
    boundText payload (.placeholder name) = Form.encode (Percent.escape 0x20) v.rendered := by
  have hs : String.ofList name ≠ "" := fun h => hn (String.ofList_eq_empty_iff.mp h)
  simp only [boundText, use_of_find? hs hv, if_neg hd]

lemma isInert_of_mem_boundText {p : Piece} (h : Fits payload p) {c : Char}
    (hc : c ∈ boundText payload p) : isInert c = true := by
  cases p with
  | literal d =>
    rw [boundText, List.mem_singleton] at hc
    exact isInert_of_isUnreserved (hc ▸ h)
  | placeholder name =>
    obtain ⟨hn, v, hv, hd⟩ := h
    rw [boundText_of_find? hn hv hd] at hc
    exact isInert_of_isSegmentChar (Form.isSegmentChar_of_mem_encode hc)

/-! ### Dots -/

lemma eq_of_toLower_eq {c d : Char} (h : c.toLower = d) (hd : d.isAlpha = false) : c = d := by
  have hu : ¬ c.isUpper := by
    intro hu
    have ha : c.toLower.isAlpha = false := by rw [h, hd]
    rw [Char.isAlpha_toLower_eq_isAlpha, Char.isAlpha, hu, Bool.true_or] at ha
    exact Bool.noConfusion ha
  rwa [Char.toLower_eq_of_not_isUpper hu] at h

/-- Without escapes only the dots themselves are read as dots. -/
lemma eq_dots_of_isDots {segment : List Char} (h : isDots segment = true) (hp : '%' ∉ segment) :
    segment = ['.'] ∨ segment = ['.', '.'] := by
  have hm : ∀ c ∈ segment, c.toLower ≠ '%' :=
    fun c hc he => hp (eq_of_toLower_eq he (by decide) ▸ hc)
  have hq : '%' ∉ segment.map Char.toLower := by simpa using hm
  have hcases : segment.map Char.toLower = ['.'] ∨ segment.map Char.toLower = ['.', '.'] := by
    simp only [isDots, Url.isSingleDot, Url.isDoubleDot, List.contains_cons, List.contains_nil,
      Bool.or_false, Bool.or_eq_true, beq_iff_eq] at h
    rcases h with (h | h) | (h | h | h | h) <;> simp_all
  have hdot : ∀ c ∈ segment, c = '.' := by
    intro c hc
    have hl : c.toLower ∈ segment.map Char.toLower := List.mem_map_of_mem hc
    have he : c.toLower = '.' := by rcases hcases with h | h <;> simpa [h] using hl
    exact eq_of_toLower_eq he (by decide)
  have hr := List.eq_replicate_of_mem hdot
  rcases hcases with h | h
  · have hl : segment.length = 1 := by simpa using congrArg List.length h
    exact Or.inl (by rw [hr, hl]; rfl)
  · have hl : segment.length = 2 := by simpa using congrArg List.length h
    exact Or.inr (by rw [hr, hl]; rfl)

lemma percent_not_mem_of_isDots {ps : List Piece} (h : ∀ p ∈ ps, Fits payload p)
    (hd : isDots (ps.flatMap (boundText payload)) = true) :
    '%' ∉ ps.flatMap (boundText payload) := by
  intro hm
  obtain ⟨p, hp, hc⟩ := List.mem_flatMap.mp hm
  have hfit := h p hp
  cases p with
  | literal c =>
    rw [boundText, List.mem_singleton] at hc
    exact ne_percent_of_isUnreserved hfit hc.symm
  | placeholder name =>
    obtain ⟨hn, v, hv, hv'⟩ := hfit
    have hi := (Percent.infix_flatMap_of_mem (f := boundText payload) hp)
    rw [boundText_of_find? hn hv hv'] at hc hi
    rcases Form.mem_encode_cases hc with ⟨b, hb, -, he⟩ | ⟨b, hb, -, hb'⟩
    · exact (Form.of_isPlain hb).2.1 he.symm
    · have hn := Url.eq_dot_of_escape_infix hd (hb'.trans hi)
      rw [show b = 0x2E from UInt8.toNat_inj.mp hn] at hb
      exact absurd hb (by decide)

def fixedText (segment : List Piece) : List Char :=
  segment.flatMap fun
    | .literal c => [c]
    | .placeholder _ => []

/-- The literal text of the segment is dots, and its placeholders stand for nothing. -/
structure Collapses (payload : Dict Json) (segment : List Piece) : Prop where
  dots : fixedText segment = ['.'] ∨ fixedText segment = ['.', '.']
  empty : ∀ name ∈ names segment, ∀ v, payload.find? name = some v → v.rendered = ""

lemma flatMap_boundText_of_empty {ps : List Piece} (h : ∀ p ∈ ps, Fits payload p)
    (he : ∀ name ∈ names ps, ∀ v, payload.find? name = some v → v.rendered = "") :
    ps.flatMap (boundText payload) = fixedText ps := by
  refine List.flatMap_congr fun p hp => ?_
  cases p with
  | literal c => rfl
  | placeholder name =>
    obtain ⟨hn, v, hv, hd⟩ := h _ hp
    have hv' := he (String.ofList name) (mem_names.mpr (by simpa using hp)) v hv
    rw [boundText_of_find? hn hv hd, hv']
    rfl

lemma rendered_eq_of_dots {v : Json} (hd : ¬(v.rendered = "." ∨ v.rendered = ".."))
    (h : ∀ c ∈ Form.encode (Percent.escape 0x20) v.rendered, c = '.')
    (hl : (Form.encode (Percent.escape 0x20) v.rendered).length ≤ 2) : v.rendered = "" := by
  have he := Form.toList_eq_of_encode_dots h
  rw [← he] at h hl
  have hr := List.eq_replicate_of_mem h
  have hs : v.rendered = String.ofList (List.replicate v.rendered.toList.length '.') := by
    rw [← hr, String.ofList_toList]
  generalize v.rendered.toList.length = n at hs hl
  interval_cases n
  · exact hs
  · exact absurd (Or.inl hs) hd
  · exact absurd (Or.inr hs) hd

/-- Reading a URL drops a bound segment in one case only. -/
theorem isDots_flatMap_boundText_iff {ps : List Piece} (h : ∀ p ∈ ps, Fits payload p) :
    isDots (ps.flatMap (boundText payload)) = true ↔ Collapses payload ps := by
  constructor
  · -- no dot is an escape, so that every value consists of dots itself
    intro hd
    have hcases := eq_dots_of_isDots hd (percent_not_mem_of_isDots h hd)
    have hall : ∀ c ∈ ps.flatMap (boundText payload), c = '.' := by
      rcases hcases with hs | hs <;> simp [hs]
    have hlen : (ps.flatMap (boundText payload)).length ≤ 2 := by
      rcases hcases with hs | hs <;> simp [hs]
    have hempty : ∀ name ∈ names ps, ∀ v, payload.find? name = some v → v.rendered = "" := by
      intro name hn v hv
      have hp := mem_names.mp hn
      obtain ⟨hne, w, hw, hd'⟩ := h _ hp
      rw [String.ofList_toList, hv, Option.some.injEq] at hw
      subst hw
      have hi := Percent.infix_flatMap_of_mem (f := boundText payload) hp
      rw [boundText_of_find? hne (by rwa [String.ofList_toList]) hd'] at hi
      exact rendered_eq_of_dots hd' (fun c hc => hall c (hi.subset hc)) (hi.length_le.trans hlen)
    refine ⟨?_, hempty⟩
    rwa [flatMap_boundText_of_empty h hempty] at hcases
  · rintro ⟨hdots, hempty⟩
    rw [flatMap_boundText_of_empty h hempty]
    rcases hdots with hs | hs <;> rw [hs] <;> decide

lemma inert_flatMap_boundText {ps : List Piece} (h : ∀ p ∈ ps, Fits payload p) :
    ∀ c ∈ ps.flatMap (boundText payload), isPathChar c = true ∧ isSlash c = false := by
  intro c hm
  obtain ⟨p, hp, hm⟩ := List.mem_flatMap.mp hm
  simpa [isInert] using isInert_of_mem_boundText (h p hp) hm

theorem settled_flatMap_boundText {ps : List Piece} (h : ∀ p ∈ ps, Fits payload p)
    (hc : ¬Collapses payload ps) : Url.IsSettled (ps.flatMap (boundText payload)) :=
  ⟨fun c hm => (inert_flatMap_boundText h c hm).1, fun c hm => (inert_flatMap_boundText h c hm).2,
    Bool.eq_false_iff.mpr fun hd => hc ((isDots_flatMap_boundText_iff h).mp hd)⟩

end

/-! ### Whole templates -/

/-- The piece is an unreserved character or has a name. -/
def Piece.IsSimple : Piece → Prop
  | literal c => isUnreserved c = true
  | placeholder name => name ≠ [] ∧ ∀ c ∈ name, c ≠ '{' ∧ c ≠ '}'

lemma Piece.IsSimple.isWhole {p : Piece} (h : p.IsSimple) : p.IsWhole := by
  cases p with
  | literal c =>
    rintro rfl
    exact absurd h (by simp [IsSimple, isUnreserved, Text.isLetter, Text.isDigit])
  | placeholder name => exact h.2

lemma mem_names_joinPieces {segments : List (List Piece)} {name : String} :
    name ∈ names (joinPieces segments) ↔ ∃ segment ∈ segments, name ∈ names segment := by
  simp only [mem_names, joinPieces, List.mem_flatMap]
  constructor
  · rintro ⟨segment, hs, hp⟩
    exact ⟨segment, hs, List.mem_of_ne_of_mem (by simp) hp⟩
  · rintro ⟨segment, hs, hp⟩
    exact ⟨segment, hs, List.mem_cons_of_mem _ hp⟩

section
variable {segments : List (List Piece)} (h : ∀ segment ∈ segments, ∀ p ∈ segment, p.IsSimple)
  {payload : Dict Json}
include h

lemma bind_ofSegments_rejected_iff :
    (bind (ofSegments segments) payload).rejected = [] ↔
      ∀ segment ∈ segments, ∀ name ∈ names segment, use payload name ≠ .rejected := by
  rw [bind_rejected_eq_nil_iff, pieces_ofSegments fun s hs p hp => (h s hs p hp).isWhole]
  simp only [mem_names_joinPieces]
  constructor
  · intro hu segment hs name hn
    exact hu name ⟨segment, hs, hn⟩
  · rintro hu name ⟨segment, hs, hn⟩
    exact hu segment hs name hn

/-- When all names have values and none is rejected, every piece has a text. -/
theorem fits_of_rejected_eq_nil
    (hv : ∀ segment ∈ segments, ∀ name ∈ names segment, payload.contains name = true)
    (hr : (bind (ofSegments segments) payload).rejected = []) :
    ∀ segment ∈ segments, ∀ p ∈ segment, Fits payload p := by
  intro segment hs p hp
  have hsimple := h segment hs p hp
  cases p with
  | literal c => exact hsimple
  | placeholder name =>
    have hn : String.ofList name ∈ names segment := mem_names.mpr (by simpa using hp)
    obtain ⟨v, hf⟩ := Option.isSome_iff_exists.mp (hv segment hs _ hn)
    have hu := (bind_ofSegments_rejected_iff h).mp hr segment hs _ hn
    have hne : String.ofList name ≠ "" := fun he => hsimple.1 (String.ofList_eq_empty_iff.mp he)
    exact ⟨hsimple.1, v, hf, fun hd => hu (use_eq_rejected_iff.mpr ⟨hne, v, hf, hd⟩)⟩

end

end RestGateway.Template
