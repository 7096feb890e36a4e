import Mathlib
import RestGateway.Proofs.Binary64.Rendering
import RestGateway.Proofs.Json.RoundTrip

/-! An integer literal is read exactly if its value is in the range that is kept, and is rounded
otherwise. The text of the number that it is read as tells which number it is. -/
namespace RestGateway
open Text (isDigit digitValue)
open Json

/-- An integer as a text has it: the sign may stand before a zero, too. -/
structure Literal where
  negative : Bool
  magnitude : Nat
  deriving DecidableEq, Repr

/-- Entries that correspond before a key is given a value correspond after it. -/
lemma Dict.forall₂_insert {α : Type} {R : String × α → String × α → Prop} {d : Dict α}
    (hd : ∀ entry ∈ d, R entry entry) {key : String} {v w : α} (h : R (key, v) (key, w)) :
    List.Forall₂ R (d.insert key v) (d.insert key w) := by
  induction d with
  | nil => exact .cons h .nil
  | cons first d ih =>
    obtain ⟨hfirst, hrest⟩ := List.forall_mem_cons.mp hd
    rw [insert, insert]
    split_ifs
    · exact .cons h (List.forall₂_same.mpr hd)
    · exact .cons h (List.forall₂_same.mpr hrest)
    · exact .cons hfirst (ih hrest)

namespace Literal

def text (i : Literal) : List Char := Number.signText i.negative ++ Nat.toDigits 10 i.magnitude

def value (i : Literal) : Int := if i.negative then -i.magnitude else i.magnitude

/-- The value is one of those that are kept exactly. -/
def IsExact (i : Literal) : Prop := leastInteger ≤ i.value ∧ i.value ≤ greatestInteger

instance (i : Literal) : Decidable i.IsExact := inferInstanceAs (Decidable (_ ∧ _))

lemma isExact_positive {n : Nat} : IsExact ⟨false, n⟩ ↔ n < 0x10000000000000000 := by
  change leastInteger ≤ (n : Int) ∧ (n : Int) ≤ greatestInteger ↔ _
  rw [leastInteger, greatestInteger]
  omega

lemma isExact_negative {n : Nat} : IsExact ⟨true, n⟩ ↔ n ≤ 0x8000000000000000 := by
  change leastInteger ≤ -(n : Int) ∧ -(n : Int) ≤ greatestInteger ↔ _
  rw [leastInteger, greatestInteger]
  omega

/-- The number that the literal is read as; none when it is too large for one. -/
def number? (i : Literal) : Option Number :=
  let (significand, unused) := absorb 0 (Nat.toDigits 10 i.magnitude)
  if unused.isEmpty then some (integerNumber i.negative significand)
  else (scaled? significand unused.length).map fun x => .float (signed i.negative x)

/-! ### Reading -/

lemma readNumber_text (i : Literal) {rest : List Char} (hrest : Ends rest) :
    readNumber i.negative (Nat.toDigits 10 i.magnitude ++ rest) =
      match i.number? with
      | some m => .ok (m, rest)
      | none => .error (.here .numberOutOfRange rest) := by
  rw [readNumber_append i.negative i.magnitude hrest, readNumberEnd_of_ends i.negative _ hrest,
    number?]
  dsimp only
  split_ifs
  · rfl
  · rw [floatNumber]
    cases scaled? _ _ <;> rfl

lemma readValueWith_text (i : Literal) (nested : Option (Reader Json)) (rest : List Char) :
    readValueWith nested (i.text ++ rest) =
      readNumber i.negative (Nat.toDigits 10 i.magnitude ++ rest) >>=
        fun (n, rest) => pure (.number n, rest) := by
  obtain ⟨negative, magnitude⟩ := i
  cases negative with
  | true => rfl
  | false =>
    obtain ⟨c, cs, hcs, hc⟩ := exists_digit_cons magnitude
    simp only [text, Number.signText, Bool.false_eq_true, if_false, List.nil_append, hcs,
      List.cons_append]
    exact readValueWith_digit nested hc (cs ++ rest)

/-- Where the literal stands in a longer text, it is read as its number. -/
theorem readsBack (nested : Option (Reader Json)) {i : Literal} {m : Number}
    (h : i.number? = some m) : ReadsBack (readValueWith nested) i.text (.number m) := by
  intro rest hrest
  rw [readValueWith_text, readNumber_text i hrest, h]
  rfl

/-- A text that is nothing but the literal is a number, or too large for one. -/
theorem parse_text_iff {i : Literal} {v : Json} :
    parse (String.ofList i.text) = .ok v ↔ ∃ m, i.number? = some m ∧ v = .number m := by
  have hread : readValue greatestDepth i.text =
      match i.number? with
      | some m => .ok (.number m, [])
      | none => .error (.here .numberOutOfRange []) := by
    have hvalue := i.readValueWith_text (some (readValue 126)) []
    rw [readNumber_text i ends_nil, List.append_nil] at hvalue
    refine hvalue.trans ?_
    cases i.number? <;> rfl
  rw [parse, decodeWith, String.toList_ofList, hread]
  cases i.number? with
  | none => simp [bind, Except.bind]
  | some n => simp [bind, Except.bind, readEnd, skipBlanks, eq_comm]

/-! ### Literals in a payload -/

def ofInt (n : Int) : Literal := ⟨decide (n < 0), n.natAbs⟩

@[simp] lemma value_ofInt (n : Int) : (ofInt n).value = n := by
  rw [value, ofInt]
  dsimp only
  split_ifs with h
  · rw [decide_eq_true_eq] at h
    omega
  · rw [decide_eq_true_eq] at h
    omega

lemma text_ofInt (n : Int) : (ofInt n).text = (number (.integer n)).text := by
  rw [text_integer, integerText, text, ofInt, Number.signText]
  dsimp only
  split_ifs with h hn hn <;> simp_all

/-- An object with one integer among exact values is read with the integer as its number. -/
theorem readsBack_insert {depth : Nat} {d : Dict Json} (hd : (object d).IsExact)
    (hdepth : depthOfMembers d ≤ depth) (key : String) {n : Int} {m : Number}
    (h : (ofInt n).number? = some m) :
    ReadsBack (readValue (depth + 1)) (object (d.insert key (.number (.integer n)))).text
      (.object (d.insert key (.number m))) := by
  obtain _ | _ | _ | _ | _ | ⟨hasc, hvalues⟩ := hd
  intro rest _
  have hread : ReadsBack (readValue depth) (number (.integer n)).text (.number m) := by
    rw [← text_ofInt]
    cases depth with
    | zero => exact readsBack none h
    | succ depth => exact readsBack (some (readValue depth)) h
  have hmembers := Dict.forall₂_insert
    (R := fun m x => m.1 = x.1 ∧ ReadsBack (readValue depth) m.2.text x.2) (d := d)
    (fun entry he => ⟨rfl, readsBack_readValue (hvalues entry he)
      ((depth_le_of_mem_members he).trans hdepth)⟩)
    (show key = key ∧ ReadsBack (readValue depth) (number (.integer n)).text (.number m) from
      ⟨rfl, hread⟩)
  obtain ⟨behind, hbehind, hdict⟩ := readDict_text hmembers rest
  rw [hbehind]
  change (readDict (readValue depth) behind >>= _) = _
  rw [hdict, Dict.ofList_of_ascending (Dict.ascending_insert hasc key _)]
  rfl

/-! ### Digits that fit -/

lemma absorb_suffix (ds : List Char) (n : Nat) : (absorb n ds).2 <:+ ds := by
  induction ds generalizing n with
  | nil => exact List.suffix_refl _
  | cons d ds ih =>
    rw [absorb]
    split_ifs
    · exact (ih _).trans (List.suffix_cons d ds)
    · exact List.suffix_refl _

lemma absorb_lt (ds : List Char) {n : Nat} (hn : n < 0x10000000000000000) :
    (absorb n ds).1 < 0x10000000000000000 := by
  induction ds generalizing n with
  | nil => exact hn
  | cons d ds ih =>
    rw [absorb]
    split_ifs with hlt
    · exact ih hlt
    · exact hn

lemma absorb_of_unused_nil {ds : List Char} {n : Nat} (h : (absorb n ds).2 = []) :
    (absorb n ds).1 = Nat.ofDigitChars 10 ds n := by
  induction ds generalizing n with
  | nil => rfl
  | cons d ds ih =>
    rw [absorb] at h ⊢
    split_ifs at h ⊢
    rw [Nat.ofDigitChars_cons, Nat.mul_comm 10]
    exact ih h

/-- The next digit would not fit. -/
lemma absorb_full {ds : List Char} {n : Nat} {c : Char} {rest : List Char}
    (h : (absorb n ds).2 = c :: rest) :
    0x10000000000000000 ≤ (absorb n ds).1 * 10 + digitValue c := by
  induction ds generalizing n with
  | nil => simp [absorb] at h
  | cons d ds ih =>
    rw [absorb] at h ⊢
    split_ifs at h ⊢ with hlt
    · exact ih h
    · rw [← (List.cons.inj h).1]
      exact not_lt.mp hlt

lemma absorb_toDigits {n : Nat} (hn : 0x10000000000000000 ≤ n) :
    (absorb 0 (Nat.toDigits 10 n)).2 ≠ [] ∧ 2 ^ 60 ≤ (absorb 0 (Nat.toDigits 10 n)).1 := by
  have hne : (absorb 0 (Nat.toDigits 10 n)).2 ≠ [] := by
    intro hnil
    have hlt := absorb_lt (Nat.toDigits 10 n) (n := 0) (by decide)
    rw [absorb_of_unused_nil hnil, Nat.ofDigitChars_ten_toDigits] at hlt
    omega
  obtain ⟨c, rest, hc⟩ := List.exists_cons_of_ne_nil hne
  have hdigit := isDigit_of_mem_toDigits
    ((absorb_suffix (Nat.toDigits 10 n) 0).mem (hc ▸ List.mem_cons_self))
  have hvalue : digitValue c ≤ 9 := of_isDigit (p := fun c => digitValue c ≤ 9) (by decide) hdigit
  have hfull := absorb_full hc
  exact ⟨hne, by omega⟩

/-! ### Rounding -/

lemma powerOfTen_ge {k : Nat} (hk : k ≤ 308) :
    (powerOfTen k).denominator ≤ (powerOfTen k).numerator ∧ (powerOfTen k).negative = false := by
  have hall : ∀ k < 309, (powerOfTen k).denominator ≤ (powerOfTen k).numerator ∧
      (powerOfTen k).negative = false := by decide +kernel
  exact hall k (by omega)

lemma large_of_ofQuotient? {significand : Nat} (hs : 2 ^ 60 ≤ significand) {x : Binary64}
    (h : Binary64.ofQuotient? false significand 1 = some x) : Number.IsLarge x := by
  obtain ⟨hnormal, hexponent, -⟩ :=
    Binary64.normal_of_ofQuotient? (q := 60) Nat.one_pos (by simpa using hs) h
  exact ⟨hnormal, by omega⟩

lemma large_of_scaled? {significand k : Nat} (hs : 2 ^ 60 ≤ significand) {x : Binary64}
    (h : scaled? significand k = some x) : Number.IsLarge x := by
  unfold scaled? at h
  cases hfirst : Binary64.ofQuotient? false significand 1 with
  | none => simp [hfirst] at h
  | some first =>
    have hlarge := large_of_ofQuotient? hs hfirst
    have hleast := hlarge.least
    have hwhole := hlarge.whole
    have hzero : first.isZero = false := decide_eq_false (by omega)
    rw [hfirst, Option.bind_eq_bind, Option.bind_some, hzero, if_neg Bool.false_ne_true] at h
    split_ifs at h with htoo hnonneg hdown
    · have hten := (powerOfTen_ge (k := (k : Int).toNat) (by omega)).1
      obtain ⟨hnormal, hexponent, -⟩ :=
        Binary64.normal_of_mul? (hlarge.toIsNormal.le_numerator (q := 60) (by omega)) hten h
      exact ⟨hnormal, by omega⟩
    all_goals omega

lemma large_signed {x : Binary64} (h : Number.IsLarge x) (negative : Bool) :
    Number.IsLarge (signed negative x) := by
  cases negative with
  | false => exact h
  | true => exact ⟨⟨h.least, h.greatest, h.scale⟩, h.whole⟩

/-- The three ways to read a literal. -/
theorem cases_of_number? {i : Literal} {m : Number} (h : i.number? = some m) :
    (i.IsExact ∧ m = .integer i.value) ∨
      (i = ⟨true, 0⟩ ∧ m = .float ⟨true, 0, Binary64.leastExponent⟩) ∨
      (¬i.IsExact ∧ ∃ x, Number.IsLarge x ∧ m = .float x) := by
  obtain ⟨negative, n⟩ := i
  simp only [number?] at h
  by_cases hfits : n < 0x10000000000000000
  · have habsorb : absorb 0 (Nat.toDigits 10 n) = (n, []) := by
      rw [absorb_of_lt (by rwa [Nat.ofDigitChars_ten_toDigits]), Nat.ofDigitChars_ten_toDigits]
    rw [habsorb, List.isEmpty_nil, if_pos rfl, Option.some.injEq] at h
    subst h
    cases negative with
    | false => exact Or.inl ⟨isExact_positive.mpr hfits, rfl⟩
    | true =>
      unfold integerNumber
      rw [if_neg (by simp)]
      split_ifs with hrange
      · exact Or.inl ⟨isExact_negative.mpr hrange.2, rfl⟩
      rcases Nat.eq_zero_or_pos n with rfl | hpos
      · exact Or.inr (Or.inl ⟨rfl, rfl⟩)
      -- the magnitude fits, but not with the sign
      have hlow : ¬IsExact ⟨true, n⟩ := isExact_negative.not.mpr fun hle => hrange ⟨hpos, hle⟩
      have hlt : n < 1 * 2 ^ 64 := by omega
      obtain ⟨x, hx⟩ := Binary64.exists_ofQuotient? false Nat.one_pos (by decide) hlt
      rw [hx, Option.getD_some]
      exact Or.inr (Or.inr ⟨hlow, _, large_signed (large_of_ofQuotient? (by omega) hx) true, rfl⟩)
  · have hout : ¬IsExact ⟨negative, n⟩ := by
      cases negative with
      | false => exact isExact_positive.not.mpr hfits
      | true => exact isExact_negative.not.mpr (by omega)
    obtain ⟨hne, hsignificand⟩ := absorb_toDigits (not_lt.mp hfits)
    rw [if_neg (by simpa using hne), Option.map_eq_some_iff] at h
    obtain ⟨x, hx, rfl⟩ := h
    exact Or.inr (Or.inr ⟨hout, _, large_signed (large_of_scaled? hsignificand hx) negative, rfl⟩)

/-! ### Texts of numbers -/

lemma isDigit_or_sign_of_mem_integerText {n : Int} {c : Char} (h : c ∈ integerText n) :
    c = '-' ∨ isDigit c = true := by
  unfold integerText at h
  split_ifs at h
  · exact (List.mem_cons.mp h).imp_right isDigit_of_mem_toDigits
  · exact Or.inr (isDigit_of_mem_toDigits h)

lemma integerText_inj {m n : Int} (h : integerText m = integerText n) : m = n := by
  have hminus (k : Nat) : ∀ cs, Nat.toDigits 10 k ≠ '-' :: cs := by
    intro cs hcs
    have hd := isDigit_of_mem_toDigits (n := k) (c := '-') (hcs ▸ List.mem_cons_self)
    exact absurd hd (by decide)
  unfold integerText at h
  split_ifs at h with hm hn hn
  · have habs := DecimalStyle.toDigits_inj (List.cons.inj h).2
    omega
  · exact absurd h.symm (hminus _ _)
  · exact absurd h (hminus _ _)
  · have habs := DecimalStyle.toDigits_inj h
    omega

lemma text_negativeZero :
    (Number.float ⟨true, 0, Binary64.leastExponent⟩).text = ['-', '0', '.', '0'] := by
  decide +kernel

lemma mem_text_of_large {x : Binary64} (h : Number.IsLarge x) : 'e' ∈ (Number.float x).text := by
  change 'e' ∈ Number.style.render x
  rw [h.render_eq, DecimalStyle.scientificText_eq]
  simp

variable {i j : Literal} {m n : Number} (hi : i.number? = some m) (hj : j.number? = some n)
include hi hj

/-- Literals are read as one number if the texts of their numbers are the same. -/
theorem number_eq_of_text_eq (h : m.text = n.text) : m = n := by
  -- a full stop is in the text of the negative zero only, and an `e` in those of large numbers
  have hdot (k : Int) : integerText k ≠ ['-', '0', '.', '0'] := by
    intro hk
    have hmem : '.' ∈ integerText k := by simp [hk]
    exact absurd (isDigit_or_sign_of_mem_integerText hmem) (by decide)
  have he (k : Int) : 'e' ∉ integerText k := fun hmem =>
    absurd (isDigit_or_sign_of_mem_integerText hmem) (by decide)
  rcases cases_of_number? hi with ⟨-, rfl⟩ | ⟨-, rfl⟩ | ⟨-, x, hx, rfl⟩ <;>
    rcases cases_of_number? hj with ⟨-, rfl⟩ | ⟨-, rfl⟩ | ⟨-, y, hy, rfl⟩
  · exact congrArg Number.integer (integerText_inj h)
  · exact absurd (h.trans text_negativeZero) (hdot _)
  · exact absurd (h ▸ mem_text_of_large hy) (he _)
  · exact absurd (h.symm.trans text_negativeZero) (hdot _)
  · rfl
  · have hmem := mem_text_of_large hy
    rw [← h, text_negativeZero] at hmem
    exact absurd hmem (by decide)
  · exact absurd (h ▸ mem_text_of_large hx) (he _)
  · have hmem := mem_text_of_large hx
    rw [h, text_negativeZero] at hmem
    exact absurd hmem (by decide)
  · exact congrArg Number.float (hx.eq_of_render_eq hy h)

/-- Literals with different values are read as one number only if both are rounded. -/
theorem not_exact_of_number_eq (h : m = n) (hne : i.value ≠ j.value) :
    ¬i.IsExact ∧ ¬j.IsExact := by
  have hzero {x : Binary64} (hx : Number.IsLarge x) :
      x ≠ ⟨true, 0, Binary64.leastExponent⟩ := by
    rintro rfl
    exact absurd hx.least (by decide)
  rcases cases_of_number? hi with ⟨-, rfl⟩ | ⟨rfl, rfl⟩ | ⟨hout, x, hx, rfl⟩ <;>
    rcases cases_of_number? hj with ⟨-, rfl⟩ | ⟨rfl, rfl⟩ | ⟨hout', y, hy, rfl⟩
  · exact absurd (Number.integer.inj h) hne
  · cases h
  · cases h
  · cases h
  · exact absurd rfl hne
  · exact absurd (Number.float.inj h).symm (hzero hy)
  · cases h
  · exact absurd (Number.float.inj h) (hzero hx)
  · exact ⟨hout, hout'⟩

end Literal

end RestGateway
