import Mathlib
import RestGateway.Binary64.Shortest
import RestGateway.Proofs.Binary64.Rounding

/-! The values that round to a number lie between the middles of the gaps on its two sides. The
shortest decimal of a whole number is one of them, and no value rounds to two numbers. -/
namespace RestGateway

/-- The exact value. -/
def Decimal.value (t : Decimal) : ℚ := t.digits * (10 : ℚ) ^ t.exponent

namespace Binary64

/-! ### The values around a number -/

/-- A quarter of the distance to the next larger number. -/
def quarter (x : Binary64) : ℚ := (2 : ℚ) ^ (x.exponent - 2)

/-- The gap below the least mantissa is half as wide as the others. -/
def margin (x : Binary64) : Nat :=
  if x.mantissa = 0x10000000000000 ∧ x.exponent > leastExponent then 1 else 2

/-- The middles of the two gaps, in quarters. -/
def low (x : Binary64) : Nat := 4 * x.mantissa - x.margin

def high (x : Binary64) : Nat := 4 * x.mantissa + 2

/-- The value is nearest to the number, or halfway to the next one if the mantissa is even. -/
def Catches (x : Binary64) (v : ℚ) : Prop :=
  if x.mantissa % 2 = 0 then x.low * x.quarter ≤ v ∧ v ≤ x.high * x.quarter
  else x.low * x.quarter < v ∧ v < x.high * x.quarter

lemma quarter_pos (x : Binary64) : 0 < x.quarter := zpow_pos (by norm_num) _

/-- Both sides of the comparisons are scaled alike. -/
lemma exists_scale (d : Nat) (k e : Int) : ∃ scale : ℚ, 0 < scale ∧
    ((d * Nat.pow 10 k.toNat * Nat.pow 2 (-e).toNat : Nat) : ℚ) =
      Decimal.value ⟨d, k⟩ * scale ∧
    ∀ n : Nat, ((n * (Nat.pow 10 (-k).toNat * Nat.pow 2 e.toNat) : Nat) : ℚ) =
      n * (2 : ℚ) ^ e * scale := by
  refine ⟨(Nat.pow 10 (-k).toNat : Nat) * (Nat.pow 2 (-e).toNat : Nat),
    mul_pos (cast_pow_pos (by decide) _) (cast_pow_pos (by decide) _), ?_, fun n => ?_⟩
  · rw [Nat.cast_mul, Nat.cast_mul, cast_pow_toNat (by decide) k, Decimal.value, Nat.cast_ofNat]
    ring
  · rw [Nat.cast_mul, Nat.cast_mul, cast_pow_toNat (by decide) e, Nat.cast_ofNat]
    ring

theorem roundsTo_iff {x : Binary64} {d : Nat} {k : Int} :
    x.roundsTo d k = true ↔ x.Catches (Decimal.value ⟨d, k⟩) := by
  obtain ⟨scale, hpos, hcandidate, hunit⟩ := exists_scale d k (x.exponent - 2)
  unfold roundsTo
  dsimp only
  rw [show 4 * x.mantissa - (if x.mantissa = 0x10000000000000 ∧ x.exponent > leastExponent
    then 1 else 2) = x.low from rfl, show 4 * x.mantissa + 2 = x.high from rfl]
  unfold Catches
  split_ifs
  · rw [Bool.and_eq_true, decide_eq_true_eq, decide_eq_true_eq, ← Nat.cast_le (α := ℚ),
      ← Nat.cast_le (α := ℚ), hcandidate, hunit, hunit, mul_le_mul_iff_of_pos_right hpos,
      mul_le_mul_iff_of_pos_right hpos]
    rfl
  · rw [Bool.and_eq_true, decide_eq_true_eq, decide_eq_true_eq, ← Nat.cast_lt (α := ℚ),
      ← Nat.cast_lt (α := ℚ), hcandidate, hunit, hunit, mul_lt_mul_iff_of_pos_right hpos,
      mul_lt_mul_iff_of_pos_right hpos]
    rfl

/-! ### No value rounds to two numbers -/

section
variable {x y : Binary64} {v : ℚ}

lemma Catches.bounds (h : x.Catches v) : x.low * x.quarter ≤ v ∧ v ≤ x.high * x.quarter := by
  unfold Catches at h
  split_ifs at h
  · exact h
  · exact ⟨h.1.le, h.2.le⟩

lemma Catches.even (h : x.Catches v) (hv : v = x.low * x.quarter ∨ v = x.high * x.quarter) :
    x.mantissa % 2 = 0 := by
  by_contra hodd
  rw [Catches, if_neg hodd] at h
  exact hv.elim h.1.ne' h.2.ne

/-- The lower middle of the one is not above the upper middle of the other, and both mantissas are
even where the two meet. -/
lemma Catches.low_le_high (hx : x.Catches v) (hy : y.Catches v) {j : Nat}
    (hj : y.exponent = x.exponent + j) :
    y.low * 2 ^ j ≤ x.high ∧
      (y.low * 2 ^ j = x.high → x.mantissa % 2 = 0 ∧ y.mantissa % 2 = 0) := by
  have hquarter : y.quarter = (2 : ℚ) ^ j * x.quarter := by
    rw [quarter, quarter, hj, ← zpow_natCast, ← zpow_add₀ (by norm_num)]
    ring_nf
  have hcast : (y.low : ℚ) * y.quarter = ((y.low * 2 ^ j : Nat) : ℚ) * x.quarter := by
    rw [hquarter, Nat.cast_mul, Nat.cast_pow, Nat.cast_ofNat, mul_assoc]
  have hlow := hy.bounds.1
  have hhigh := hx.bounds.2
  constructor
  · have hle := hlow.trans hhigh
    rw [hcast, mul_le_mul_iff_of_pos_right x.quarter_pos, Nat.cast_le] at hle
    exact hle
  · intro heq
    rw [heq] at hcast
    have hv := le_antisymm hhigh (hcast ▸ hlow)
    exact ⟨hx.even (Or.inr hv), hy.even (Or.inl (hv.trans hcast.symm))⟩

lemma margin_of_least_lt (h : 2 ^ 52 < x.mantissa) : x.margin = 2 :=
  if_neg fun hm => absurd hm.1 (by omega)

lemma IsNormal.low_ge (h : x.IsNormal) (he : leastExponent < x.exponent) :
    2 ^ 54 - 1 ≤ x.low := by
  have hleast := h.least
  rcases hleast.lt_or_eq with hlt | heq
  · rw [low, margin_of_least_lt hlt]
    omega
  · have hm : x.margin = 1 := if_pos ⟨by rw [← heq]; rfl, he⟩
    rw [low, hm]
    omega

lemma IsNormal.mantissa_le_of_catches (hx : x.IsNormal) (hcx : x.Catches v)
    (hcy : y.Catches v) (he : y.exponent = x.exponent) : y.mantissa ≤ x.mantissa := by
  by_contra hlt
  have hleast := hx.least
  obtain ⟨hle, heven⟩ := hcx.low_le_high hcy (j := 0) (by simpa using he)
  rw [pow_zero, mul_one, low, margin_of_least_lt (by omega), high] at hle heven
  omega

lemma IsNormal.exponent_le_of_catches (hx : x.IsNormal) (hy : y.IsNormal) (hcx : x.Catches v)
    (hcy : y.Catches v) : y.exponent ≤ x.exponent := by
  by_contra hlt
  rw [not_le] at hlt
  obtain ⟨j, hj⟩ := Int.le.dest hlt.le
  have hlow := hy.low_ge (hx.scale.trans_lt hlt)
  have hgreatest := hx.greatest
  have hpow : 2 * y.low ≤ y.low * 2 ^ j := by
    obtain ⟨i, rfl⟩ : ∃ i, j = i + 1 := ⟨j - 1, by omega⟩
    rw [pow_succ, ← mul_assoc, mul_comm]
    exact Nat.mul_le_mul_right 2 (Nat.le_mul_of_pos_right _ (Nat.two_pow_pos i))
  obtain ⟨hle, heven⟩ := hcx.low_le_high hcy hj.symm
  rw [high] at hle heven
  omega

/-- The values that round to one normal number do not round to another one. -/
theorem IsNormal.eq_of_catches (hx : x.IsNormal) (hy : y.IsNormal) (hcx : x.Catches v)
    (hcy : y.Catches v) : x.mantissa = y.mantissa ∧ x.exponent = y.exponent := by
  have he := le_antisymm (hy.exponent_le_of_catches hx hcy hcx)
    (hx.exponent_le_of_catches hy hcx hcy)
  exact ⟨le_antisymm (hy.mantissa_le_of_catches hcy hcx he)
    (hx.mantissa_le_of_catches hcx hcy he.symm), he⟩

end

/-! ### The shortest decimal -/

section
variable {x : Binary64}

lemma roundsTo_of_onGrid? {k : Int} {d : Nat} (h : x.onGrid? k = some d) :
    x.roundsTo d k = true := by
  unfold onGrid? at h
  dsimp only at h
  generalize x.numerator * Nat.pow 10 (-k).toNat / (x.denominator * Nat.pow 10 k.toNat) = lower
    at h
  split at h
  next hl hu =>
    rw [← Option.some.inj h]
    split_ifs
    · exact hl
    · exact hu
  next hl hu => rwa [← Option.some.inj h]
  next hl hu => rwa [← Option.some.inj h]
  · simp at h

variable (hx : x.IsNormal) (hwhole : 0 ≤ x.exponent)
include hx hwhole

/-- A whole number is a decimal itself. -/
lemma catches_numerator : x.Catches (Decimal.value ⟨x.numerator, 0⟩) := by
  have hvalue : Decimal.value ⟨x.numerator, 0⟩ = ((4 * x.mantissa : Nat) : ℚ) * x.quarter := by
    have hden : x.denominator = 1 := by
      rw [denominator, show (-x.exponent).toNat = 0 by omega, Nat.pow_eq, Nat.pow_zero]
    have hnum := x.cast_numerator
    rw [hden, Nat.cast_one, mul_one, magnitude] at hnum
    rw [Decimal.value, hnum, quarter, zpow_sub₀ (by norm_num)]
    push_cast
    ring
  have hleast := hx.least
  have hmargin : 0 < x.margin := by
    unfold margin
    split_ifs <;> decide
  have hlow : x.low < 4 * x.mantissa := Nat.sub_lt (by omega) hmargin
  have hhigh : 4 * x.mantissa < x.high := Nat.lt_add_of_pos_right (by decide)
  have hl : x.low * x.quarter < ((4 * x.mantissa : Nat) : ℚ) * x.quarter :=
    mul_lt_mul_of_pos_right (Nat.cast_lt.mpr hlow) x.quarter_pos
  have hh : ((4 * x.mantissa : Nat) : ℚ) * x.quarter < x.high * x.quarter :=
    mul_lt_mul_of_pos_right (Nat.cast_lt.mpr hhigh) x.quarter_pos
  rw [hvalue, Catches]
  split_ifs
  · exact ⟨hl.le, hh.le⟩
  · exact ⟨hl, hh⟩

lemma catches_coarsest (leading : Int) (more digits : Nat) :
    x.Catches (coarsest x leading more digits).value := by
  induction more generalizing digits with
  | zero => exact catches_numerator hx hwhole
  | succ more ih =>
    rw [coarsest]
    split
    next d hd => exact roundsTo_iff.mp (roundsTo_of_onGrid? hd)
    · exact ih (digits + 1)

/-- The shortest decimal of a whole number rounds to the number. -/
theorem catches_shortest : x.Catches x.shortest.value := by
  have hleast := hx.least
  have hne : x.isZero = false := decide_eq_false (by omega)
  rw [shortest, hne, if_neg Bool.false_ne_true]
  exact catches_coarsest hx hwhole _ 17 0

end

end Binary64

end RestGateway
