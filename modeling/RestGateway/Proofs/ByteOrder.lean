import Mathlib
import RestGateway.Proofs.Dict
import RestGateway.Proofs.Percent

/-! Texts compare like their bytes, so that a dictionary, which is in the order of the characters of
its keys, is in the order of their bytes as well. -/
namespace RestGateway

namespace Percent

/-! ### Characters -/

lemma ofNat_lt_ofNat_iff {m n : Nat} (hm : m < 256) (hn : n < 256) :
    UInt8.ofNat m < UInt8.ofNat n ↔ m < n := by
  rw [UInt8.lt_iff_toNat_lt, UInt8.toNat_ofNat_of_lt' hm, UInt8.toNat_ofNat_of_lt' hn]

lemma ofNat_eq_ofNat_iff {m n : Nat} (hm : m < 256) (hn : n < 256) :
    UInt8.ofNat m = UInt8.ofNat n ↔ m = n := by
  rw [← UInt8.toNat_inj, UInt8.toNat_ofNat_of_lt' hm, UInt8.toNat_ofNat_of_lt' hn]

lemma lt_iff_digits (m n : Nat) : m < n ↔ m / 64 < n / 64 ∨ m / 64 = n / 64 ∧ m % 64 < n % 64 := by
  omega

/-- The first byte in which two characters differ is greater for the greater one. -/
lemma utf8EncodeChar_append_lt {c d : Char} (h : c < d) (x y : List UInt8) :
    String.utf8EncodeChar c ++ x < String.utf8EncodeChar d ++ y := by
  have hlt : c.val.toNat < d.val.toNat := h
  have hd : d.val.toNat < 0x110000 := by
    rcases d.valid with hv | hv
    · exact lt_trans hv (by decide)
    · exact hv.2
  -- the bytes of a character hold its digits to the base 64, after a mark for their number
  have hdigits := hlt
  rw [lt_iff_digits, lt_iff_digits (_ / 64), lt_iff_digits (_ / 64 / 64)] at hdigits
  simp only [Nat.div_div_eq_div_mul, Nat.reduceMul] at hdigits
  simp only [String.utf8EncodeChar]
  split_ifs
  all_goals
    simp (disch := omega) only [List.cons_append, List.nil_append, List.cons_lt_cons_iff,
      ofNat_lt_ofNat_iff, ofNat_eq_ofNat_iff, Nat.mod_eq_of_lt (b := 8)]
    omega

/-! ### Texts -/

lemma utf8_lt_utf8_of_lt {cs ds : List Char} (h : cs < ds) : utf8 cs < utf8 ds := by
  induction cs generalizing ds with
  | nil =>
    cases ds with
    | nil => exact absurd h (List.lt_irrefl [])
    | cons d ds =>
      obtain ⟨b, bs, hb⟩ := List.exists_cons_of_ne_nil (String.utf8EncodeChar_ne_nil (c := d))
      rw [utf8_nil, utf8_cons, hb]
      exact List.nil_lt_cons b _
  | cons c cs ih =>
    cases ds with
    | nil => exact absurd h (List.not_lt_nil _)
    | cons d ds =>
      rw [utf8_cons, utf8_cons]
      rcases List.cons_lt_cons_iff.mp h with hlt | ⟨rfl, hlt⟩
      · exact utf8EncodeChar_append_lt hlt _ _
      · exact List.append_left_lt (ih hlt)

theorem utf8_lt_utf8_iff {s t : String} : utf8 s.toList < utf8 t.toList ↔ s < t := by
  rw [String.lt_iff_toList_lt]
  refine ⟨fun h => ?_, utf8_lt_utf8_of_lt⟩
  rcases lt_trichotomy s.toList t.toList with hlt | heq | hgt
  · exact hlt
  · rw [heq] at h
    exact absurd h (List.lt_irrefl _)
  · exact absurd h (List.lt_asymm (utf8_lt_utf8_of_lt hgt))

theorem utf8_le_utf8_iff {s t : String} : utf8 s.toList ≤ utf8 t.toList ↔ s ≤ t := by
  rw [← List.not_lt, ← not_lt, utf8_lt_utf8_iff]

end Percent

theorem Dict.ascending_iff_bytes {α : Type} {d : Dict α} :
    d.Ascending ↔ (d.map fun entry => Percent.utf8 entry.1.toList).Pairwise (· < ·) := by
  rw [Ascending, keys, List.pairwise_map, List.pairwise_map]
  simp only [Percent.utf8_lt_utf8_iff]

end RestGateway
