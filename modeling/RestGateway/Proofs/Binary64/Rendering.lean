import Mathlib
import RestGateway.Json.Printer
import RestGateway.Proofs.Binary64.Shortest

/-! A large number is written with a power of ten. Its text tells the digits and the power, and they
tell the number. -/
namespace RestGateway

/-! ### Decimals -/

namespace Decimal

/-- The digits without the zeros at their end. -/
def significant (t : Decimal) : List Char := (Nat.toDigits 10 t.digits).rdropWhile (· == '0')

/-- The power of ten of the first digit. -/
def leading (t : Decimal) : Int := t.exponent + (Nat.toDigits 10 t.digits).length - 1

lemma exists_toDigits_eq (t : Decimal) :
    ∃ zeros, Nat.toDigits 10 t.digits = t.significant ++ List.replicate zeros '0' := by
  have hsplit := List.rdropWhile_append_rtakeWhile (p := (· == '0')) (l := Nat.toDigits 10 t.digits)
  have hzeros := List.eq_replicate_of_mem fun c hc =>
    beq_iff_eq.mp (List.mem_rtakeWhile_imp (p := (· == '0')) (l := Nat.toDigits 10 t.digits) hc)
  rw [hzeros] at hsplit
  exact ⟨_, hsplit.symm⟩

theorem value_eq (t : Decimal) : t.value =
    (Nat.ofDigitChars 10 t.significant 0 : Nat) *
      (10 : ℚ) ^ (t.leading + 1 - t.significant.length) := by
  obtain ⟨zeros, hz⟩ := t.exists_toDigits_eq
  have hdigits : t.digits = 10 ^ zeros * Nat.ofDigitChars 10 t.significant 0 := by
    rw [← Nat.ofDigitChars_replicate_zero, ← Nat.ofDigitChars_append, ← hz,
      Nat.ofDigitChars_ten_toDigits]
  have hleading : t.leading + 1 - t.significant.length = zeros + t.exponent := by
    rw [leading, hz, List.length_append, List.length_replicate]
    omega
  rw [hleading, value, zpow_add₀ (by norm_num), zpow_natCast, hdigits]
  push_cast
  ring

lemma value_lt (t : Decimal) : t.value < (10 : ℚ) ^ (t.leading + 1) := by
  have hlt : t.digits < 10 ^ (Nat.toDigits 10 t.digits).length :=
    (Nat.length_toDigits_le_iff (by decide)
      (List.length_pos_of_ne_nil Nat.toDigits_ne_nil)).mp le_rfl
  have hcast : (t.digits : ℚ) < (10 : ℚ) ^ ((Nat.toDigits 10 t.digits).length : Int) := by
    exact_mod_cast hlt
  calc t.value
    _ < (10 : ℚ) ^ ((Nat.toDigits 10 t.digits).length : Int) * (10 : ℚ) ^ t.exponent :=
      mul_lt_mul_of_pos_right hcast (zpow_pos (by norm_num) _)
    _ = (10 : ℚ) ^ (t.leading + 1) := by
      rw [← zpow_add₀ (by norm_num), leading]
      congr 1
      omega

lemma isDigit_of_mem_significant {t : Decimal} {c : Char} (h : c ∈ t.significant) :
    c.isDigit = true :=
  Nat.isDigit_of_mem_toDigits (by decide) (by decide) ((List.rdropWhile_prefix _ _).mem h)

end Decimal

/-! ### Texts -/

namespace DecimalStyle

/-- The digits with a point behind the first one, if there is another. -/
def mantissaText (digits : List Char) : List Char :=
  digits.take 1 ++ (if (digits.drop 1).isEmpty then [] else '.' :: digits.drop 1)

def exponentText (leading : Int) : List Char :=
  (if leading < 0 then '-' else '+') :: Nat.toDigits 10 leading.natAbs

lemma scientificText_eq (digits : List Char) (leading : Int) :
    scientificText digits leading = mantissaText digits ++ 'e' :: exponentText leading := rfl

section
variable {digits : List Char} (h : ∀ c ∈ digits, c.isDigit = true)
include h

lemma mem_mantissaText {c : Char} (hc : c ∈ mantissaText digits) : c = '.' ∨ c.isDigit = true := by
  rw [mantissaText, List.mem_append] at hc
  rcases hc with hc | hc
  · exact Or.inr (h c (List.mem_of_mem_take hc))
  · split_ifs at hc
    · simp at hc
    · exact (List.mem_cons.mp hc).imp_right fun hd => h c (List.mem_of_mem_drop hd)

lemma filter_mantissaText : (mantissaText digits).filter (· != '.') = digits := by
  have hkeep : digits.filter (· != '.') = digits := by
    refine List.filter_eq_self.mpr fun c hc => bne_iff_ne.mpr ?_
    rintro rfl
    exact absurd (h '.' hc) (by decide)
  match digits with
  | [] => rfl
  | [c] => exact hkeep
  | c :: d :: rest =>
    have hpoint : ('.' :: d :: rest).filter (· != '.') = (d :: rest).filter (· != '.') := rfl
    rw [show mantissaText (c :: d :: rest) = [c] ++ '.' :: d :: rest from rfl, List.filter_append,
      hpoint, ← List.filter_append]
    exact hkeep

lemma head?_scientificText_ne (leading : Int) :
    (scientificText digits leading).head? ≠ some '-' := by
  intro hm
  have hmem : '-' ∈ mantissaText digits ++ ['e'] := by
    rw [scientificText_eq, List.append_cons] at hm
    rw [List.head?_append_of_ne_nil _ (by simp)] at hm
    exact List.mem_of_mem_head? hm
  rcases List.mem_append.mp hmem with hd | he
  · exact absurd (mem_mantissaText h hd) (by decide)
  · exact absurd he (by decide)

end

lemma toDigits_inj {m n : Nat} (h : Nat.toDigits 10 m = Nat.toDigits 10 n) : m = n := by
  rw [← Nat.ofDigitChars_ten_toDigits (n := m), h, Nat.ofDigitChars_ten_toDigits]

lemma exponentText_inj {k l : Int} (h : exponentText k = exponentText l) : k = l := by
  obtain ⟨hsign, hdigits⟩ := List.cons.inj h
  have habs := toDigits_inj hdigits
  split_ifs at hsign with hk hl hl
  · omega
  · exact absurd hsign (by decide)
  · exact absurd hsign (by decide)
  · omega

lemma e_not_mem_exponentText (l : Int) : 'e' ∉ exponentText l := by
  rw [exponentText, List.mem_cons, not_or]
  refine ⟨by split_ifs <;> decide, fun h => ?_⟩
  exact absurd (Nat.isDigit_of_mem_toDigits (by decide) (by decide) h) (by decide)

theorem scientificText_inj {ds es : List Char} (hd : ∀ c ∈ ds, c.isDigit = true)
    (he : ∀ c ∈ es, c.isDigit = true) {k l : Int}
    (h : scientificText ds k = scientificText es l) : ds = es ∧ k = l := by
  have hnot : 'e' ∉ mantissaText ds := fun hm => absurd (mem_mantissaText hd hm) (by decide)
  rw [scientificText_eq, scientificText_eq,
    List.append_cons_inj_of_notMem hnot (e_not_mem_exponentText k)] at h
  obtain ⟨hmantissa, -, hexponent⟩ := h
  refine ⟨?_, exponentText_inj hexponent⟩
  rw [← filter_mantissaText hd, hmantissa, filter_mantissaText he]

end DecimalStyle

/-! ### Large numbers -/

namespace Number

def signText (negative : Bool) : List Char := if negative then ['-'] else []

lemma signText_append_inj {a b : Bool} {s t : List Char} (hs : s.head? ≠ some '-')
    (ht : t.head? ≠ some '-') (h : signText a ++ s = signText b ++ t) : a = b ∧ s = t := by
  cases a <;> cases b
  · exact ⟨rfl, h⟩
  · exact absurd (congrArg List.head? h) hs
  · exact absurd (congrArg List.head? h).symm ht
  · exact ⟨rfl, List.cons_injective h⟩

lemma render_eq_signed (x : Binary64) : style.render x = signText x.negative ++
    (if x.isZero then ['0', '.', '0']
    else if style.isPositional x.shortest.leading then
      DecimalStyle.positionalText x.shortest.significant x.shortest.leading
    else DecimalStyle.scientificText x.shortest.significant x.shortest.leading) := by
  unfold DecimalStyle.render
  cases x.negative <;> rfl

/-- A number from `2 ^ 60` on. -/
structure IsLarge (x : Binary64) : Prop extends x.IsNormal where
  whole : 8 ≤ x.exponent

variable {x y : Binary64}

lemma IsLarge.leading_gt (h : IsLarge x) : 15 < x.shortest.leading := by
  have hscale := h.whole
  have hlow : 2 ^ 53 ≤ x.low :=
    le_trans (by norm_num) (h.low_ge (by rw [Binary64.leastExponent]; omega))
  have hquarter : (2 : ℚ) ^ (6 : Int) ≤ x.quarter :=
    zpow_le_zpow_right₀ (by norm_num) (by omega)
  have hpow : (10 : ℚ) ^ (16 : Int) < (10 : ℚ) ^ (x.shortest.leading + 1) := by
    calc (10 : ℚ) ^ (16 : Int) < (2 : ℚ) ^ 53 * (2 : ℚ) ^ (6 : Int) := by norm_num
      _ ≤ x.low * x.quarter := by
        gcongr
        exact_mod_cast hlow
      _ ≤ x.shortest.value := (Binary64.catches_shortest h.toIsNormal (by omega)).bounds.1
      _ < (10 : ℚ) ^ (x.shortest.leading + 1) := x.shortest.value_lt
  have hlt := (zpow_lt_zpow_iff_right₀ (by norm_num : (1 : ℚ) < 10)).mp hpow
  omega

/-- A large number is written with a power of ten. -/
theorem IsLarge.render_eq (h : IsLarge x) : style.render x =
    signText x.negative ++
      DecimalStyle.scientificText x.shortest.significant x.shortest.leading := by
  have hleast := h.least
  have hzero : ¬x.isZero = true := by
    rw [Binary64.isZero, decide_eq_true_eq]
    omega
  have hposition : ¬style.isPositional x.shortest.leading = true := by
    have hgt := h.leading_gt
    simp only [DecimalStyle.isPositional, style, Bool.and_eq_true, decide_eq_true_eq]
    omega
  rw [render_eq_signed, if_neg hzero, if_neg hposition]

/-- Two large numbers with one text are one number. -/
theorem IsLarge.eq_of_render_eq (hx : IsLarge x) (hy : IsLarge y)
    (h : style.render x = style.render y) : x = y := by
  have hdx : ∀ c ∈ x.shortest.significant, c.isDigit = true :=
    fun _ => Decimal.isDigit_of_mem_significant
  have hdy : ∀ c ∈ y.shortest.significant, c.isDigit = true :=
    fun _ => Decimal.isDigit_of_mem_significant
  rw [hx.render_eq, hy.render_eq] at h
  obtain ⟨hsign, htext⟩ := signText_append_inj (DecimalStyle.head?_scientificText_ne hdx _)
    (DecimalStyle.head?_scientificText_ne hdy _) h
  obtain ⟨hdigits, hleading⟩ := DecimalStyle.scientificText_inj hdx hdy htext
  have hvalue : x.shortest.value = y.shortest.value := by
    rw [Decimal.value_eq, Decimal.value_eq, hdigits, hleading]
  have hcatches := Binary64.catches_shortest hx.toIsNormal (by have := hx.whole; omega)
  rw [hvalue] at hcatches
  obtain ⟨hmantissa, hexponent⟩ := hx.toIsNormal.eq_of_catches hy.toIsNormal hcatches
    (Binary64.catches_shortest hy.toIsNormal (by have := hy.whole; omega))
  cases x
  cases y
  simp_all

end Number

end RestGateway
