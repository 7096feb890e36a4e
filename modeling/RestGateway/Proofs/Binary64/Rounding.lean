import Mathlib
import RestGateway.Binary64.Basic

/-! Rounding a large quotient gives a number with all of its 53 bits, and one that is not below any
power of two that the quotient is not below. -/
namespace RestGateway.Binary64

/-- The exact size of a number. -/
def magnitude (x : Binary64) : ℚ := x.mantissa * (2 : ℚ) ^ x.exponent

/-- The mantissa has all of its 53 bits. -/
structure IsNormal (x : Binary64) : Prop where
  least : 2 ^ 52 ≤ x.mantissa
  greatest : x.mantissa < 2 ^ 53
  scale : leastExponent ≤ x.exponent

/-! ### Powers with an exponent on either side -/

lemma cast_pow_toNat {b : Nat} (hb : b ≠ 0) (k : Int) :
    ((Nat.pow b k.toNat : Nat) : ℚ) = (b : ℚ) ^ k * ((Nat.pow b (-k).toNat : Nat) : ℚ) := by
  have hne : (b : ℚ) ≠ 0 := Nat.cast_ne_zero.mpr hb
  rw [Nat.pow_eq, Nat.pow_eq, Nat.cast_pow, Nat.cast_pow, ← zpow_natCast, ← zpow_natCast,
    ← zpow_add₀ hne]
  congr 1
  omega

lemma cast_pow_pos {b : Nat} (hb : b ≠ 0) (n : Nat) : (0 : ℚ) < ((Nat.pow b n : Nat) : ℚ) :=
  Nat.cast_pos.mpr (Nat.pow_pos (Nat.pos_of_ne_zero hb))

/-- Whether the power stands with the numerator or with the denominator, it scales the quotient. -/
lemma scaled_lt_iff (num den : Nat) (k : Int) :
    num * Nat.pow 2 (-k).toNat < den * Nat.pow 2 k.toNat ↔ (num : ℚ) < den * (2 : ℚ) ^ k := by
  have hpos := cast_pow_pos (b := 2) (by decide) (-k).toNat
  rw [← Nat.cast_lt (α := ℚ), Nat.cast_mul, Nat.cast_mul, cast_pow_toNat (by decide) k,
    ← mul_assoc, mul_lt_mul_iff_of_pos_right hpos]
  rfl

/-! ### The leading bit -/

lemma floorLog2_spec {num den : Nat} (hn : 0 < num) (hd : 0 < den) :
    den * (2 : ℚ) ^ floorLog2 num den ≤ num ∧
      (num : ℚ) < den * (2 : ℚ) ^ (floorLog2 num den + 1) := by
  have htwo : (2 : ℚ) ≠ 0 := by norm_num
  have hnum : (2 : ℚ) ^ (Nat.log2 num : Int) ≤ num := by
    exact_mod_cast Nat.log2_self_le hn.ne'
  have hnum' : (num : ℚ) < (2 : ℚ) ^ ((Nat.log2 num : Int) + 1) := by
    exact_mod_cast Nat.lt_log2_self
  have hden : (2 : ℚ) ^ (Nat.log2 den : Int) ≤ den := by
    exact_mod_cast Nat.log2_self_le hd.ne'
  have hden' : (den : ℚ) < (2 : ℚ) ^ ((Nat.log2 den : Int) + 1) := by
    exact_mod_cast Nat.lt_log2_self
  -- the difference of the two leading bits is right, or too large by one
  have hupper : (num : ℚ) < den * (2 : ℚ) ^ ((Nat.log2 num : Int) - Nat.log2 den + 1) := by
    calc (num : ℚ) < (2 : ℚ) ^ ((Nat.log2 num : Int) + 1) := hnum'
      _ = (2 : ℚ) ^ (Nat.log2 den : Int) *
          (2 : ℚ) ^ ((Nat.log2 num : Int) - Nat.log2 den + 1) := by
        rw [← zpow_add₀ htwo]
        congr 1
        omega
      _ ≤ den * (2 : ℚ) ^ ((Nat.log2 num : Int) - Nat.log2 den + 1) := by gcongr
  have hlower : den * (2 : ℚ) ^ ((Nat.log2 num : Int) - Nat.log2 den - 1) ≤ num := by
    calc den * (2 : ℚ) ^ ((Nat.log2 num : Int) - Nat.log2 den - 1)
      _ ≤ (2 : ℚ) ^ ((Nat.log2 den : Int) + 1) *
          (2 : ℚ) ^ ((Nat.log2 num : Int) - Nat.log2 den - 1) := by gcongr
      _ = (2 : ℚ) ^ (Nat.log2 num : Int) := by
        rw [← zpow_add₀ htwo]
        congr 1
        omega
      _ ≤ num := hnum
  rw [floorLog2]
  simp only [scaled_lt_iff]
  split_ifs with hlt
  · exact ⟨hlower, by rwa [sub_add_cancel]⟩
  · exact ⟨not_lt.mp hlt, hupper⟩

lemma le_floorLog2 {num den : Nat} (hd : 0 < den) {q : Nat} (h : den * 2 ^ q ≤ num) :
    (q : Int) ≤ floorLog2 num den := by
  have hn : 0 < num := lt_of_lt_of_le (by positivity) h
  have hlt := (floorLog2_spec hn hd).2
  have hle : (den : ℚ) * (2 : ℚ) ^ (q : Int) ≤ num := by exact_mod_cast h
  have hpow : (2 : ℚ) ^ (q : Int) < (2 : ℚ) ^ (floorLog2 num den + 1) :=
    lt_of_mul_lt_mul_left (hle.trans_lt hlt) (Nat.cast_nonneg den)
  have hexp := (zpow_lt_zpow_iff_right₀ (by norm_num : (1 : ℚ) < 2)).mp hpow
  omega

/-! ### Rounding -/

lemma roundQuotient_bounds {num den m : Nat} (hd : 0 < den) (hle : m * den ≤ num)
    (hlt : num < 2 * m * den) : m ≤ roundQuotient num den ∧ roundQuotient num den ≤ 2 * m := by
  have hquot : m ≤ num / den := (Nat.le_div_iff_mul_le hd).mpr hle
  have hquot' : num / den < 2 * m := (Nat.div_lt_iff_lt_mul hd).mpr hlt
  unfold roundQuotient
  dsimp only
  split_ifs
  · omega
  · omega

theorem normal_of_ofQuotient? {negative : Bool} {num den : Nat} (hd : 0 < den) {q : Nat}
    (hq : den * 2 ^ q ≤ num) {x : Binary64} (h : ofQuotient? negative num den = some x) :
    x.IsNormal ∧ (q : Int) ≤ x.exponent + 52 ∧ x.negative = negative := by
  have hn : 0 < num := lt_of_lt_of_le (by positivity) hq
  have hlog := le_floorLog2 hd hq
  obtain ⟨hlow, hhigh⟩ := floorLog2_spec hn hd
  have hmax : max (floorLog2 num den - 52) leastExponent = floorLog2 num den - 52 := by
    rw [leastExponent]
    omega
  rw [ofQuotient?, if_neg hn.ne'] at h
  simp only [hmax] at h
  generalize he : floorLog2 num den - 52 = e at h
  -- scaled by `e`, the quotient lies between the two mantissas
  have hbounds : 2 ^ 52 * (den * Nat.pow 2 e.toNat) ≤ num * Nat.pow 2 (-e).toNat ∧
      num * Nat.pow 2 (-e).toNat < 2 * 2 ^ 52 * (den * Nat.pow 2 e.toNat) := by
    have hscale (n : Nat) : (2 : ℚ) ^ n * (2 : ℚ) ^ e = (2 : ℚ) ^ ((n : Int) + e) := by
      rw [zpow_add₀ (by norm_num), zpow_natCast]
    have hlow' := (not_congr (scaled_lt_iff num (den * 2 ^ 52) e)).mpr (by
      rw [not_lt, Nat.cast_mul, Nat.cast_pow, Nat.cast_two, mul_assoc, hscale, ← he]
      rwa [Nat.cast_ofNat, add_sub_cancel])
    have hhigh' := (scaled_lt_iff num (den * 2 ^ 53) e).mpr (by
      rw [Nat.cast_mul, Nat.cast_pow, Nat.cast_two, mul_assoc, hscale, ← he]
      convert hhigh using 3
      rw [Nat.cast_ofNat]
      ring)
    constructor
    · linarith
    · linarith
  have hpos : 0 < den * Nat.pow 2 e.toNat := Nat.mul_pos hd (Nat.pow_pos (by decide))
  obtain ⟨hm, hm'⟩ := roundQuotient_bounds hpos hbounds.1 hbounds.2
  generalize roundQuotient (num * Nat.pow 2 (-e).toNat) (den * Nat.pow 2 e.toNat) = m at h hm hm'
  have hscale : leastExponent ≤ e := by
    rw [leastExponent]
    omega
  split_ifs at h with htop hfits hfits
  · rw [← Option.some.inj h]
    refine ⟨⟨by norm_num, by norm_num, ?_⟩, ?_, rfl⟩
    · dsimp only
      omega
    · dsimp only
      omega
  · rw [← Option.some.inj h]
    refine ⟨⟨hm, ?_, hscale⟩, ?_, rfl⟩
    · dsimp only
      omega
    · dsimp only
      omega

/-- There is a number nearest to every quotient that is far below the largest one. -/
lemma exists_ofQuotient? (negative : Bool) {num den q : Nat} (hd : 0 < den) (hq : q ≤ 1023)
    (h : num < den * 2 ^ q) : ∃ x, ofQuotient? negative num den = some x := by
  by_cases hn : num = 0
  · exact ⟨_, if_pos hn⟩
  have hpow : (2 : ℚ) ^ floorLog2 num den < (2 : ℚ) ^ (q : Int) := by
    have hle := (floorLog2_spec (Nat.pos_of_ne_zero hn) hd).1
    have hlt : (num : ℚ) < den * (2 : ℚ) ^ (q : Int) := by exact_mod_cast h
    exact lt_of_mul_lt_mul_left (hle.trans_lt hlt) (Nat.cast_nonneg den)
  have hlog := (zpow_lt_zpow_iff_right₀ (by norm_num : (1 : ℚ) < 2)).mp hpow
  rw [ofQuotient?, if_neg hn, leastExponent, greatestExponent]
  dsimp only
  split_ifs with htop hfits hfits
  · exact ⟨_, rfl⟩
  · dsimp only at hfits
    omega
  · exact ⟨_, rfl⟩
  · dsimp only at hfits
    omega

/-! ### The size as a quotient -/

lemma denominator_pos (x : Binary64) : 0 < x.denominator := Nat.pow_pos (by decide)

lemma cast_numerator (x : Binary64) : (x.numerator : ℚ) = x.magnitude * x.denominator := by
  rw [numerator, denominator, magnitude, Nat.cast_mul, cast_pow_toNat (by decide) x.exponent,
    ← mul_assoc]
  rfl

lemma IsNormal.le_numerator {x : Binary64} (h : x.IsNormal) {q : Nat}
    (hq : (q : Int) ≤ x.exponent + 52) : x.denominator * 2 ^ q ≤ x.numerator := by
  have hmantissa : (2 : ℚ) ^ 52 ≤ x.mantissa := by exact_mod_cast h.least
  have hsize : (2 : ℚ) ^ q ≤ x.magnitude := by
    calc (2 : ℚ) ^ q = (2 : ℚ) ^ (q : Int) := (zpow_natCast 2 q).symm
      _ ≤ (2 : ℚ) ^ (52 + x.exponent) := zpow_le_zpow_right₀ (by norm_num) (by omega)
      _ = (2 : ℚ) ^ 52 * (2 : ℚ) ^ x.exponent := by
        rw [zpow_add₀ (by norm_num : (2 : ℚ) ≠ 0)]
        norm_num
      _ ≤ x.magnitude := by
        rw [magnitude]
        gcongr
  have hden : (0 : ℚ) ≤ x.denominator := Nat.cast_nonneg _
  have hcast : ((x.denominator * 2 ^ q : Nat) : ℚ) ≤ (x.numerator : ℚ) := by
    rw [cast_numerator, Nat.cast_mul, Nat.cast_pow, mul_comm]
    exact mul_le_mul_of_nonneg_right hsize hden
  exact Nat.cast_le.mp hcast

theorem normal_of_mul? {x y z : Binary64} {q : Nat} (hx : x.denominator * 2 ^ q ≤ x.numerator)
    (hy : y.denominator ≤ y.numerator) (h : x.mul? y = some z) :
    z.IsNormal ∧ (q : Int) ≤ z.exponent + 52 ∧ z.negative = (x.negative != y.negative) := by
  have hpos : 0 < x.denominator * y.denominator :=
    Nat.mul_pos x.denominator_pos y.denominator_pos
  refine normal_of_ofQuotient? hpos ?_ h
  calc x.denominator * y.denominator * 2 ^ q = x.denominator * 2 ^ q * y.denominator := by ring
    _ ≤ x.numerator * y.numerator := Nat.mul_le_mul hx hy

end RestGateway.Binary64
