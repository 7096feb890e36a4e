import Mathlib
import RestGateway.Json.Bytes
import RestGateway.Json.Reader
import RestGateway.Proofs.Percent

/-! Bytes in UTF-8 are read as their text. In a string between quotes any other byte is passed over
when the string is, and a string that is kept is refused for it. -/
namespace RestGateway.Json
open Percent

/-! ### Characters -/

lemma firstChar?_append (c : Char) (rest : List UInt8) :
    firstChar? (String.utf8EncodeChar c ++ rest) = some c := by
  have hsize : c.utf8Size ≤ 4 := c.utf8Size_le_four
  have htake : (String.utf8EncodeChar c ++ rest).take 4 =
      String.utf8EncodeChar c ++ rest.take (4 - c.utf8Size) := by
    rw [List.take_append, String.length_utf8EncodeChar,
      List.take_of_length_le (by rwa [String.length_utf8EncodeChar])]
  have hbytes : (⟨(String.utf8EncodeChar c ++ rest.take (4 - c.utf8Size)).toArray⟩ : ByteArray) =
      [c].utf8Encode ++ ⟨(rest.take (4 - c.utf8Size)).toArray⟩ :=
    ByteArray.ext (by simp [List.utf8Encode])
  rw [firstChar?, htake, hbytes]
  exact List.utf8DecodeChar?_utf8Encode_singleton_append

lemma exists_of_firstChar? {bytes : List UInt8} {c : Char} (h : firstChar? bytes = some c) :
    ∃ rest, bytes = String.utf8EncodeChar c ++ rest := by
  have heq := congrArg (fun b : ByteArray => b.data.toList)
    (ByteArray.eq_of_utf8DecodeChar?_eq_some h)
  have htake : String.utf8EncodeChar c <+: bytes.take 4 := ⟨_, by simpa using heq.symm⟩
  obtain ⟨rest, hrest⟩ := htake.trans (List.take_prefix 4 bytes)
  exact ⟨rest, hrest.symm⟩

/-! ### Texts -/

lemma readBytes_append (read : List Char) (others bytes : List UInt8) :
    readBytes read others.length (others ++ bytes) = readBytes read 0 bytes := by
  induction others with
  | nil => rfl
  | cons b others ih => exact ih

lemma readBytes_char (read : List Char) (c : Char) (bytes : List UInt8) :
    readBytes read 0 (String.utf8EncodeChar c ++ bytes) = readBytes (c :: read) 0 bytes := by
  have hfirst := firstChar?_append c bytes
  have hlen := String.length_utf8EncodeChar c
  cases he : String.utf8EncodeChar c with
  | nil => exact absurd he String.utf8EncodeChar_ne_nil
  | cons b others =>
    rw [he] at hfirst hlen
    rw [List.cons_append, readBytes, ← List.cons_append, hfirst]
    dsimp only
    rw [← hlen]
    exact readBytes_append _ others bytes

lemma readBytes_of_none (read : List Char) {b : UInt8} {bytes : List UInt8}
    (h : firstChar? (b :: bytes) = none) :
    readBytes read 0 (b :: bytes) = readBytes (blot.reverse ++ read) 0 bytes := by
  rw [readBytes, h]

theorem readBytes_utf8 (read text : List Char) :
    readBytes read 0 (utf8 text) = read.reverse ++ text := by
  induction text generalizing read with
  | nil => exact (List.append_nil _).symm
  | cons c text ih =>
    rw [utf8_cons, readBytes_char, ih, List.reverse_cons, List.append_assoc, List.singleton_append]

lemma readBytes_eq (read : List Char) (pending : Nat) (bytes : List UInt8) :
    readBytes read pending bytes = read.reverse ++ readBytes [] pending bytes := by
  induction bytes generalizing read pending with
  | nil => simp [readBytes]
  | cons b bytes ih =>
    cases pending with
    | succ pending => exact ih read pending
    | zero =>
      rw [readBytes, readBytes]
      split
      all_goals
        rw [ih]
        conv_rhs => rw [ih]
        simp

lemma readBytes_char_nil (c : Char) (bytes : List UInt8) :
    readBytes [] 0 (String.utf8EncodeChar c ++ bytes) = c :: readBytes [] 0 bytes := by
  rw [readBytes_char, readBytes_eq, List.reverse_singleton, List.singleton_append]

/-! ### Strings -/

/-- A character that stands for itself between quotes. -/
abbrev IsPlain (n : Nat) : Prop := 0x20 ≤ n ∧ n ≠ '"'.toNat ∧ n ≠ '\\'.toNat

/-- A string begins with a plain character, or with a byte that begins no character. -/
lemma plain_cases {b : UInt8} {bytes : List UInt8} (hplain : ∀ x ∈ b :: bytes, IsPlain x.toNat)
    (tail : List UInt8) :
    (∃ c others, IsPlain c.toNat ∧ b :: bytes = String.utf8EncodeChar c ++ others) ∨
      firstChar? (b :: (bytes ++ '"'.toUInt8 :: tail)) = none := by
  cases hc : firstChar? (b :: (bytes ++ '"'.toUInt8 :: tail)) with
  | none => exact Or.inr rfl
  | some c =>
    refine Or.inl ?_
    obtain ⟨rest, hrest⟩ := exists_of_firstChar? hc
    have hmem : ∀ x ∈ String.utf8EncodeChar c, x.toNat < 0x80 → x = b := by
      intro x hx hlt
      have hcx := toNat_eq_of_mem_utf8EncodeChar hx hlt
      rw [utf8EncodeChar_ascii (by omega), hcx, UInt8.ofNat_toNat] at hrest
      exact (List.cons.inj hrest).1.symm
    have hb : IsPlain b.toNat := hplain b (by simp)
    have hchar : IsPlain c.toNat := by
      by_cases hlt : c.toNat < 0x80
      · have hx : UInt8.ofNat c.toNat ∈ String.utf8EncodeChar c := by
          rw [utf8EncodeChar_ascii hlt]
          exact List.mem_singleton_self _
        have hnat : (UInt8.ofNat c.toNat).toNat = c.toNat := by
          rw [UInt8.toNat_ofNat']
          omega
        rw [← hmem _ hx (by omega), hnat] at hb
        exact hb
      · refine ⟨by omega, ?_, ?_⟩ <;> intro h <;> rw [h] at hlt <;> exact hlt (by decide)
    rw [← List.cons_append] at hrest
    rcases List.append_eq_append_iff.mp hrest with ⟨more, hmore, hquote⟩ | ⟨others, ho, -⟩
    · cases more with
      | nil => exact ⟨c, [], hchar, by rw [hmore, List.append_nil, List.append_nil]⟩
      | cons x more =>
        -- the closing quote belongs to no longer character
        obtain rfl := (List.cons.inj hquote).1
        have hquoted := hmem '"'.toUInt8 (by rw [hmore]; simp) (by decide)
        exact absurd (congrArg UInt8.toNat hquoted).symm hb.2.1
    · exact ⟨c, others, hchar, ho⟩

lemma skipQuotation_of_isPlain {c : Char} (h : IsPlain c.toNat) (rest : List Char) :
    skipQuotation (c :: rest) = skipQuotation rest := by
  have hquote : c ≠ '"' := fun hc => h.2.1 (congrArg Char.toNat hc)
  have hslash : c ≠ '\\' := fun hc => h.2.2 (congrArg Char.toNat hc)
  rw [skipQuotation, if_neg h.1.not_gt]
  all_goals intros; simp_all

lemma readQuotation_of_isPlain {c : Char} (h : IsPlain c.toNat) (read rest : List Char) :
    readQuotation read (c :: rest) = readQuotation (c :: read) rest := by
  have hquote : c ≠ '"' := fun hc => h.2.1 (congrArg Char.toNat hc)
  have hslash : c ≠ '\\' := fun hc => h.2.2 (congrArg Char.toNat hc)
  rw [readQuotation, if_neg h.1.not_gt]
  all_goals intros; simp_all

lemma skipQuotation_blot (rest : List Char) :
    skipQuotation (blot ++ rest) = skipQuotation rest := rfl

lemma readQuotation_blot (read rest : List Char) :
    readQuotation read (blot ++ rest) = .error (.here .loneSurrogate rest) := by
  have hunit : codeUnit? 'd' 'c' '0' '0' = some 0xDC00 := by decide
  have htrailing : isTrailingUnit 0xDC00 = true := by decide
  change readQuotation read ('x' :: '\\' :: 'u' :: 'd' :: 'c' :: '0' :: '0' :: rest) = _
  rw [readQuotation_of_isPlain (by decide), readQuotation, hunit]
  exact if_pos htrailing

lemma readBytes_quote (tail : List UInt8) :
    readBytes [] 0 ('"'.toUInt8 :: tail) = '"' :: readBytes [] 0 tail :=
  readBytes_char_nil '"' tail

lemma readBytes_nil_of_none {b : UInt8} {bytes : List UInt8} (h : firstChar? (b :: bytes) = none) :
    readBytes [] 0 (b :: bytes) = blot ++ readBytes [] 0 bytes := by
  rw [readBytes_of_none [] h, readBytes_eq, List.append_nil, List.reverse_reverse]

/-- A string before a quote is taken character by character, and what begins none byte by byte. -/
inductive Spells (tail : List UInt8) : List UInt8 → Prop
  | nil : Spells tail []
  | char (c : Char) (bytes : List UInt8) : IsPlain c.toNat → Spells tail bytes →
      Spells tail (String.utf8EncodeChar c ++ bytes)
  | other (b : UInt8) (bytes : List UInt8) :
      firstChar? (b :: (bytes ++ '"'.toUInt8 :: tail)) = none → Spells tail bytes →
      Spells tail (b :: bytes)

lemma spells_of_isPlain {bytes : List UInt8} (hplain : ∀ b ∈ bytes, IsPlain b.toNat)
    (tail : List UInt8) : Spells tail bytes := by
  induction hn : bytes.length using Nat.strong_induction_on generalizing bytes with
  | _ n ih =>
    cases bytes with
    | nil => exact .nil
    | cons b bytes =>
      rcases plain_cases hplain tail with ⟨c, others, hc, ho⟩ | hnone
      · have hlen := congrArg List.length ho
        rw [hn, List.length_append, String.length_utf8EncodeChar] at hlen
        have hpos := c.utf8Size_pos
        rw [ho] at hplain ⊢
        refine .char c others hc (ih _ (by omega) (fun x hx => hplain x ?_) rfl)
        exact List.mem_append_right _ hx
      · refine .other b bytes hnone (ih _ (hn ▸ Nat.lt_succ_self _) (fun x hx => hplain x ?_) rfl)
        exact List.mem_cons_of_mem _ hx

section
variable {bytes : List UInt8} (hplain : ∀ b ∈ bytes, IsPlain b.toNat) (tail : List UInt8)
include hplain

/-- Whatever bytes are between the quotes, they are passed over. -/
theorem skipQuotation_readBytes : skipQuotation (readBytes [] 0 (bytes ++ '"'.toUInt8 :: tail)) =
    .ok (readBytes [] 0 tail) := by
  induction spells_of_isPlain hplain tail with
  | nil =>
    rw [List.nil_append, readBytes_quote]
    rfl
  | char c bytes hc _ ih =>
    rw [List.append_assoc, readBytes_char_nil, skipQuotation_of_isPlain hc]
    exact ih fun x hx => hplain x (List.mem_append_right _ hx)
  | other b bytes hnone _ ih =>
    rw [List.cons_append, readBytes_nil_of_none hnone, skipQuotation_blot]
    exact ih fun x hx => hplain x (List.mem_cons_of_mem _ hx)

/-- A string is kept when the bytes between the quotes are UTF-8, and then it is their text. -/
theorem readQuotation_readBytes_iff (read text rest : List Char) :
    readQuotation read (readBytes [] 0 (bytes ++ '"'.toUInt8 :: tail)) = .ok (text, rest) ↔
      ∃ kept, bytes = utf8 kept ∧ text = read.reverse ++ kept ∧ rest = readBytes [] 0 tail := by
  induction spells_of_isPlain hplain tail generalizing read with
  | nil =>
    have hread : readQuotation read ('"' :: readBytes [] 0 tail) =
        .ok (read.reverse, readBytes [] 0 tail) := rfl
    rw [List.nil_append, readBytes_quote, hread]
    constructor
    · intro h
      obtain ⟨rfl, rfl⟩ := Prod.mk.inj (Except.ok.inj h)
      exact ⟨[], rfl, (List.append_nil _).symm, rfl⟩
    · rintro ⟨kept, hkept, rfl, rfl⟩
      cases kept with
      | nil => rw [List.append_nil]
      | cons c kept => simp [utf8_cons, String.utf8EncodeChar_ne_nil] at hkept
  | char c bytes hc _ ih =>
    have hrest : ∀ b ∈ bytes, IsPlain b.toNat := fun x hx => hplain x (List.mem_append_right _ hx)
    rw [List.append_assoc, readBytes_char_nil, readQuotation_of_isPlain hc, ih hrest,
      List.reverse_cons]
    constructor
    · rintro ⟨kept, rfl, rfl, rfl⟩
      exact ⟨c :: kept, rfl, List.append_assoc _ _ _, rfl⟩
    · rintro ⟨kept, hkept, rfl, rfl⟩
      cases kept with
      | nil => simp [utf8_nil, String.utf8EncodeChar_ne_nil] at hkept
      | cons d kept =>
        have hfirst := congrArg firstChar? hkept
        rw [utf8_cons, firstChar?_append, firstChar?_append, Option.some.injEq] at hfirst
        subst hfirst
        exact ⟨kept, List.append_cancel_left hkept, List.append_cons _ _ _, rfl⟩
  | other b bytes hnone _ ih =>
    rw [List.cons_append, readBytes_nil_of_none hnone, readQuotation_blot]
    refine iff_of_false (by simp) ?_
    rintro ⟨kept, hkept, -⟩
    cases kept with
    | nil => simp [utf8_nil] at hkept
    | cons c kept =>
      rw [← List.cons_append, hkept, utf8_cons, List.append_assoc, firstChar?_append] at hnone
      simp at hnone

end

end RestGateway.Json
