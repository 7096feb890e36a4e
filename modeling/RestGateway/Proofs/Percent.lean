import Mathlib
import RestGateway.Form

/-! Escapes are read back as the bytes they stand for, and a character that is not kept leaves an
escape of one of its bytes behind. -/
namespace RestGateway.Percent
open Text

/-! ### Bytes of characters -/

lemma utf8EncodeChar_ascii {c : Char} (h : c.toNat < 0x80) :
    String.utf8EncodeChar c = [UInt8.ofNat c.toNat] :=
  if_pos (Nat.le_of_lt_succ h)

/-- A byte below 128 is the form of one character only. -/
lemma toNat_eq_of_mem_utf8EncodeChar {c : Char} {b : UInt8} (hb : b ∈ String.utf8EncodeChar c)
    (h : b.toNat < 0x80) : c.toNat = b.toNat := by
  change c.val.toNat = b.toNat
  simp only [String.utf8EncodeChar] at hb
  split_ifs at hb <;> simp only [List.mem_cons, List.not_mem_nil, or_false] at hb
  · subst hb
    rw [UInt8.toNat_ofNat']
    omega
  all_goals
    exfalso
    rcases hb with rfl | rfl | rfl | rfl <;> rw [UInt8.toNat_ofNat'] at h <;> omega

lemma utf8_nil : utf8 [] = [] := rfl

lemma utf8_cons (c : Char) (cs : List Char) :
    utf8 (c :: cs) = String.utf8EncodeChar c ++ utf8 cs := rfl

/-! ### Escapes -/

/-- The sixteen digits, for checks that look at each of them. -/
lemma capitalDigit_cases {p : Char → Prop} (h : ∀ n < 16, p (capitalDigit n)) {b : UInt8} {c : Char}
    (hp : p '%') (hc : c ∈ escape b) : p c := by
  have hb : b.toNat < 256 := b.toNat_lt
  simp only [escape, List.mem_cons, List.not_mem_nil, or_false] at hc
  rcases hc with rfl | rfl | rfl
  · exact hp
  · exact h _ (by omega)
  · exact h _ (by omega)

lemma hexDigit?_capitalDigit : ∀ n < 16, hexDigit? (capitalDigit n) = some n := by decide

lemma byte?_capitalDigit (b : UInt8) :
    byte? (capitalDigit (b.toNat / 16)) (capitalDigit (b.toNat % 16)) = some b := by
  have hb : b.toNat < 256 := b.toNat_lt
  have hn : b.toNat / 16 * 16 + b.toNat % 16 = b.toNat := Nat.div_add_mod' _ _
  unfold byte?
  rw [hexDigit?_capitalDigit _ (show b.toNat / 16 < 16 by omega),
    hexDigit?_capitalDigit _ (show b.toNat % 16 < 16 by omega)]
  change some (UInt8.ofNat (b.toNat / 16 * 16 + b.toNat % 16)) = some b
  rw [hn, UInt8.ofNat_toNat]

lemma decode_escape_append (b : UInt8) (rest : List Char) :
    decode (escape b ++ rest) = b :: decode rest := by
  simp [escape, decode, byte?_capitalDigit]

lemma decode_cons_of_ne {c : Char} (h : c ≠ '%') (rest : List Char) :
    decode (c :: rest) = String.utf8EncodeChar c ++ decode rest := by
  rw [decode]
  rintro a b rest' rfl
  exact absurd rfl h

/-! ### Characters that are kept -/

lemma encode_cons (kept : Char → Bool) (c : Char) (cs : List Char) :
    encode kept (c :: cs) = encodeChar kept c ++ encode kept cs := rfl

lemma encode_of_kept {kept : Char → Bool} {cs : List Char} (h : ∀ c ∈ cs, kept c = true) :
    encode kept cs = cs := by
  induction cs with
  | nil => rfl
  | cons c cs ih =>
    rw [encode_cons, ih fun d hd => h d (List.mem_cons_of_mem _ hd)]
    simp [encodeChar, h c (by simp)]

lemma mem_encode {kept : Char → Bool} {cs : List Char} {d : Char} (h : d ∈ encode kept cs) :
    (d ∈ cs ∧ kept d = true) ∨ ∃ b, d ∈ escape b := by
  obtain ⟨c, hc, hd⟩ := List.mem_flatMap.mp h
  unfold encodeChar at hd
  split_ifs at hd with hk
  · rw [List.mem_singleton.mp hd]
    exact Or.inl ⟨hc, hk⟩
  · obtain ⟨b, -, hb⟩ := List.mem_flatMap.mp hd
    exact Or.inr ⟨b, hb⟩

lemma infix_flatMap_of_mem {α β : Type} {f : α → List β} {xs : List α} {x : α} (h : x ∈ xs) :
    f x <:+: xs.flatMap f := by
  obtain ⟨before, after, rfl⟩ := List.append_of_mem h
  exact ⟨before.flatMap f, after.flatMap f, by simp⟩

lemma exists_escape_infix {kept : Char → Bool} {cs : List Char} {c : Char} (hc : c ∈ cs)
    (hk : kept c = false) : ∃ b ∈ String.utf8EncodeChar c, escape b <:+: encode kept cs := by
  obtain ⟨b, hb⟩ := List.exists_mem_of_ne_nil _ (String.utf8EncodeChar_ne_nil (c := c))
  refine ⟨b, hb, (infix_flatMap_of_mem hb).trans ?_⟩
  have h : encodeChar kept c <:+: encode kept cs := infix_flatMap_of_mem hc
  simpa [encodeChar, hk] using h

end RestGateway.Percent
