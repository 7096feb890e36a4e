import Mathlib
import RestGateway.Proofs.Percent

/-! A text that is encoded as a segment of a path is read back byte for byte, and consists of
letters, digits, a few marks and escapes. Full stops are never escaped. -/
namespace RestGateway.Form
open Percent

/-! ### Bytes -/

lemma encodeByte_plain {b : UInt8} (h : isPlain b = true) (blank : List Char) :
    encodeByte blank b = [Char.ofNat b.toNat] := by
  simp [encodeByte, h]

lemma encodeByte_not_plain {b : UInt8} (h : isPlain b = false) :
    encodeByte (escape 0x20) b = escape b := by
  unfold encodeByte
  rw [if_neg (by simp [h])]
  split_ifs with hb
  · rw [hb]
  · rfl

def isSegmentChar (c : Char) : Bool :=
  Text.isLetter c || Text.isDigit c || ['*', '-', '.', '_', '%'].contains c

lemma plain_spec : ∀ n < 256, isPlain (UInt8.ofNat n) = true →
    n < 0x80 ∧ Char.ofNat n ≠ '%' ∧ isSegmentChar (Char.ofNat n) = true := by decide +kernel

lemma of_isPlain {b : UInt8} (hb : isPlain b = true) :
    b.toNat < 0x80 ∧ Char.ofNat b.toNat ≠ '%' ∧ isSegmentChar (Char.ofNat b.toNat) = true :=
  plain_spec b.toNat b.toNat_lt (by rwa [UInt8.ofNat_toNat])

lemma toNat_char (b : UInt8) : (Char.ofNat b.toNat).toNat = b.toNat := by
  have hb : b.toNat < 256 := b.toNat_lt
  have hv : b.toNat.isValidChar := Or.inl (by omega)
  rw [Char.ofNat, dif_pos hv]
  rfl

lemma utf8EncodeChar_plain {b : UInt8} (hb : isPlain b = true) :
    String.utf8EncodeChar (Char.ofNat b.toNat) = [b] := by
  have hlt : (Char.ofNat b.toNat).toNat < 0x80 := by
    rw [toNat_char]
    exact (of_isPlain hb).1
  rw [utf8EncodeChar_ascii hlt, toNat_char, UInt8.ofNat_toNat]

lemma decode_encodeByte_append (b : UInt8) (rest : List Char) :
    Percent.decode (encodeByte (escape 0x20) b ++ rest) = b :: Percent.decode rest := by
  cases hb : isPlain b with
  | false => rw [encodeByte_not_plain hb, decode_escape_append]
  | true =>
    rw [encodeByte_plain hb, List.singleton_append, decode_cons_of_ne (of_isPlain hb).2.1,
      utf8EncodeChar_plain hb, List.singleton_append]

lemma decode_encodeBytes (bs : List UInt8) :
    Percent.decode (encodeBytes (escape 0x20) bs) = bs := by
  induction bs with
  | nil => simp [encodeBytes, Percent.decode]
  | cons b bs ih =>
    change Percent.decode (encodeByte (escape 0x20) b ++ encodeBytes (escape 0x20) bs) = b :: bs
    rw [decode_encodeByte_append, ih]

/-! ### Texts -/

lemma decode_encode (s : String) : Percent.decode (encode (escape 0x20) s) = utf8 s.toList :=
  decode_encodeBytes _

/-- A character of a segment that is no plain one belongs to an escape in it. -/
lemma mem_encode_cases {s : String} {c : Char} (h : c ∈ encode (escape 0x20) s) :
    (∃ b, isPlain b = true ∧ b ∈ utf8 s.toList ∧ c = Char.ofNat b.toNat) ∨
      ∃ b, isPlain b = false ∧ c ∈ escape b ∧ escape b <:+: encode (escape 0x20) s := by
  obtain ⟨b, hb, hc⟩ := List.mem_flatMap.mp h
  cases hp : isPlain b with
  | true =>
    rw [encodeByte_plain hp] at hc
    exact Or.inl ⟨b, hp, hb, List.mem_singleton.mp hc⟩
  | false =>
    have hi : encodeByte (escape 0x20) b <:+: encode (escape 0x20) s := infix_flatMap_of_mem hb
    rw [encodeByte_not_plain hp] at hc hi
    exact Or.inr ⟨b, hp, hc, hi⟩

theorem isSegmentChar_of_mem_encode {s : String} {c : Char} (h : c ∈ encode (escape 0x20) s) :
    isSegmentChar c = true := by
  rcases mem_encode_cases h with ⟨b, hb, -, rfl⟩ | ⟨b, -, hc, -⟩
  · exact (of_isPlain hb).2.2
  · exact capitalDigit_cases (p := fun c => isSegmentChar c = true) (by decide) (by decide) hc

/-! ### Full stops -/

lemma utf8_dots {cs : List Char} (h : ∀ c ∈ cs, c = '.') :
    utf8 cs = List.replicate cs.length 0x2E := by
  induction cs with
  | nil => rfl
  | cons c cs ih =>
    rw [utf8_cons, h c (by simp), ih fun d hd => h d (List.mem_cons_of_mem _ hd)]
    rfl

lemma decode_dots {cs : List Char} (h : ∀ c ∈ cs, c = '.') : Percent.decode cs = utf8 cs := by
  induction cs with
  | nil => simp [Percent.decode, utf8_nil]
  | cons c cs ih =>
    have hc : c ≠ '%' := by rw [h c (by simp)]; decide
    rw [decode_cons_of_ne hc, utf8_cons, ih fun d hd => h d (List.mem_cons_of_mem _ hd)]

lemma byte_eq_of_encode_dots {s : String} (h : ∀ c ∈ encode (escape 0x20) s, c = '.') {b : UInt8}
    (hb : b ∈ utf8 s.toList) : b.toNat = 0x2E := by
  have hsub : ∀ c ∈ encodeByte (escape 0x20) b, c = '.' :=
    fun c hc => h c (List.mem_flatMap.mpr ⟨b, hb, hc⟩)
  cases hp : isPlain b with
  | false =>
    rw [encodeByte_not_plain hp] at hsub
    exact absurd (hsub '%' (by simp [escape])) (by decide)
  | true =>
    rw [encodeByte_plain hp] at hsub
    rw [← toNat_char b, hsub _ (List.mem_singleton_self _)]
    rfl

/-- A text whose segment consists of full stops is the same full stops. -/
theorem toList_eq_of_encode_dots {s : String} (h : ∀ c ∈ encode (escape 0x20) s, c = '.') :
    s.toList = encode (escape 0x20) s := by
  have hs : ∀ c ∈ s.toList, c = '.' := by
    intro c hc
    obtain ⟨b, hb⟩ := List.exists_mem_of_ne_nil _ (String.utf8EncodeChar_ne_nil (c := c))
    have hn := byte_eq_of_encode_dots h (List.mem_flatMap.mpr ⟨c, hc, hb⟩)
    have hcn := toNat_eq_of_mem_utf8EncodeChar hb (by omega)
    exact Char.toNat_inj.mp (hcn.trans hn)
  -- both are runs of full stops, and decoding keeps the length
  have he := decode_encode s
  rw [decode_dots h, utf8_dots h, utf8_dots hs] at he
  have hl : (encode (escape 0x20) s).length = s.toList.length := by
    simpa using congrArg List.length he
  rw [List.eq_replicate_of_mem hs, List.eq_replicate_of_mem h, hl]

end RestGateway.Form
