import Mathlib
import RestGateway.Proofs.BoundSegment
import RestGateway.Proofs.Query
import RestGateway.Proofs.Url.Host

/-! The segment for a text has one form only: some characters stand for themselves, and every other
byte is an escape. So the segment tells the text, it is never read as dots, and nothing in it means
anything else in a URL. -/
namespace RestGateway.Form
open Percent

/-! ### The form of a segment -/

/-- The characters that stand for themselves. -/
def isKept (c : Char) : Bool :=
  Text.isLetter c || Text.isDigit c || ['*', '-', '.', '_'].contains c

def isCapitalDigit (c : Char) : Bool := Text.isDigit c || ('A' ≤ c && c ≤ 'F')

/-- Characters that stand for themselves, and escapes of the bytes that have no such character. -/
inductive IsCanonical : List Char → Prop where
  | nil : IsCanonical []
  | kept {c : Char} {rest : List Char} :
      isKept c = true → IsCanonical rest → IsCanonical (c :: rest)
  | escape {a b : Char} {byte : UInt8} {rest : List Char} :
      isCapitalDigit a = true → isCapitalDigit b = true → byte? a b = some byte →
      isKept (Char.ofNat byte.toNat) = false → IsCanonical rest →
      IsCanonical ('%' :: a :: b :: rest)

lemma isKept_char (b : UInt8) : isKept (Char.ofNat b.toNat) = isPlain b := by
  have hall : ∀ n < 256, isKept (Char.ofNat n) = isPlain (UInt8.ofNat n) := by decide +kernel
  rw [hall b.toNat b.toNat_lt, UInt8.ofNat_toNat]

lemma toNat_lt_of_isKept {c : Char} (h : isKept c = true) : c.toNat < 128 := by
  have := Template.of_letter_or_mark (q := fun c => decide (c.toNat < 128)) (by simp)
    (by decide +kernel) h
  simpa using this

lemma exists_byte_of_isKept {c : Char} (h : isKept c = true) :
    ∃ b, isPlain b = true ∧ c = Char.ofNat b.toNat := by
  have hlt := toNat_lt_of_isKept h
  refine ⟨UInt8.ofNat c.toNat, ?_, ?_⟩
  · exact Template.of_letter_or_mark (q := fun c => isPlain (UInt8.ofNat c.toNat)) (by simp)
      (by decide +kernel) h
  · rw [UInt8.toNat_ofNat', Nat.mod_eq_of_lt (by omega), Char.ofNat_toNat]

lemma isCapitalDigit_capitalDigit : ∀ n < 16, isCapitalDigit (capitalDigit n) = true := by decide

lemma exists_capitalDigit {c : Char} (h : isCapitalDigit c = true) :
    ∃ n < 16, c = capitalDigit n := by
  have hall : ∀ n < 128, isCapitalDigit (Char.ofNat n) = true →
      ∃ k < 16, Char.ofNat n = capitalDigit k := by decide +kernel
  have hlt : c.toNat < 128 := by
    rw [isCapitalDigit, Bool.or_eq_true] at h
    rcases h with h | h
    · exact Template.ascii_of_isLetter (Or.inr h)
    · simp only [Bool.and_eq_true, decide_eq_true_eq, Char.le_def, UInt32.le_iff_toNat_le] at h
      exact lt_of_le_of_lt h.2 (by decide)
  simpa using hall c.toNat hlt (by simpa using h)

/-- Capital digits are the ones that the escape of a byte is written with. -/
lemma escape_eq_of_byte? {a b : Char} {byte : UInt8} (ha : isCapitalDigit a = true)
    (hb : isCapitalDigit b = true) (h : byte? a b = some byte) : escape byte = ['%', a, b] := by
  obtain ⟨m, hm, rfl⟩ := exists_capitalDigit ha
  obtain ⟨n, hn, rfl⟩ := exists_capitalDigit hb
  have hbyte : UInt8.ofNat (m * 16 + n) = byte := by
    simpa [byte?, hexDigit?_capitalDigit m hm, hexDigit?_capitalDigit n hn] using h
  have hnat : byte.toNat = m * 16 + n := by
    rw [← hbyte, UInt8.toNat_ofNat', Nat.mod_eq_of_lt (by omega)]
  rw [escape, hnat, show (m * 16 + n) / 16 = m by omega, show (m * 16 + n) % 16 = n by omega]

/-! ### One form only -/

lemma isCanonical_encodeBytes (bs : List UInt8) : IsCanonical (encodeBytes (escape 0x20) bs) := by
  induction bs with
  | nil => exact .nil
  | cons b bs ih =>
    change IsCanonical (encodeByte (escape 0x20) b ++ encodeBytes (escape 0x20) bs)
    cases hb : isPlain b with
    | true =>
      rw [encodeByte_plain hb]
      exact .kept (by rw [isKept_char, hb]) ih
    | false =>
      have hlt : b.toNat < 256 := b.toNat_lt
      rw [encodeByte_not_plain hb]
      exact .escape (isCapitalDigit_capitalDigit _ (by omega))
        (isCapitalDigit_capitalDigit _ (by omega)) (byte?_capitalDigit b)
        (by rw [isKept_char, hb]) ih

/-- A text of this form is written from the bytes that it is read as. -/
theorem IsCanonical.encodeBytes_decode {cs : List Char} (h : IsCanonical cs) :
    encodeBytes (Percent.escape 0x20) (Percent.decode cs) = cs := by
  induction h with
  | nil => simp [Percent.decode, encodeBytes]
  | @kept c rest hc _ ih =>
    obtain ⟨b, hb, rfl⟩ := exists_byte_of_isKept hc
    rw [decode_cons_of_ne (of_isPlain hb).2.1, utf8EncodeChar_plain hb]
    change encodeByte (Percent.escape 0x20) b ++ encodeBytes _ (Percent.decode rest) = _
    rw [ih, encodeByte_plain hb, List.singleton_append]
  | @escape a b byte rest ha hb hbyte hkept _ ih =>
    have hescape := escape_eq_of_byte? ha hb hbyte
    have hdecode := decode_escape_append byte rest
    rw [hescape] at hdecode
    change encodeBytes _ (Percent.decode (['%', a, b] ++ rest)) = _
    rw [hdecode]
    change encodeByte (Percent.escape 0x20) byte ++ encodeBytes _ (Percent.decode rest) = _
    rw [ih, encodeByte_not_plain (by rwa [isKept_char] at hkept), hescape]
    rfl

lemma IsCanonical.eq_of_decode_eq {cs ds : List Char} (hc : IsCanonical cs) (hd : IsCanonical ds)
    (h : Percent.decode cs = Percent.decode ds) : cs = ds := by
  rw [← hc.encodeBytes_decode, h, hd.encodeBytes_decode]

/-! ### What is not in a segment -/

/-- What is said of kept characters and of the percent sign holds of all that is in a segment. -/
lemma of_isSegmentChar {p : Char → Prop} [DecidablePred p]
    (h : ∀ n < 128, isSegmentChar (Char.ofNat n) = true → p (Char.ofNat n)) {c : Char}
    (hc : isSegmentChar c = true) : p c := by
  have := Template.of_letter_or_mark (q := fun c => decide (p c)) (by simp)
    (fun n hn hs => decide_eq_true (h n hn hs)) hc
  simpa using this

/-- The characters with a meaning of their own in a URL or in a template. -/
def delimiters : List Char := ['/', '\\', '?', '#', '{', '}', '+', '&', '=']

lemma isDots_encode {s : String} (hdot : s ≠ ".") (hdots : s ≠ "..") :
    Url.isDots (encode (escape 0x20) s) = false := by
  rw [Bool.eq_false_iff]
  intro hd
  -- an escape in it would be that of a full stop, and full stops are kept
  have hpercent : '%' ∉ encode (escape 0x20) s := by
    intro hm
    rcases mem_encode_cases hm with ⟨b, hb, -, he⟩ | ⟨b, hb, -, hi⟩
    · exact (of_isPlain hb).2.1 he.symm
    · have hn : b = 0x2E := UInt8.toNat_inj.mp (Url.eq_dot_of_escape_infix hd hi)
      rw [hn] at hb
      exact absurd hb (by decide)
  have hcases := Template.eq_dots_of_isDots hd hpercent
  have hall : ∀ c ∈ encode (escape 0x20) s, c = '.' := by
    rcases hcases with h | h <;> simp [h]
  rw [← toList_eq_of_encode_dots hall] at hcases
  rcases hcases with h | h
  · exact hdot (String.toList_inj.mp h)
  · exact hdots (String.toList_inj.mp h)

/-- A segment is a component of a query with escapes in place of its plus signs. -/
theorem encode_eq_component (s : String) : encode (escape 0x20) s =
    (component s).flatMap fun c => if c = '+' then escape 0x20 else [c] := by
  rw [component, encode, encode, encodeBytes, encodeBytes, List.flatMap_assoc]
  refine List.flatMap_congr fun b _ => ?_
  by_cases hb : b = 0x20
  · rw [hb]
    decide
  · -- all other plus signs are written as escapes
    rw [List.flatMap_congr fun c hc => if_neg (ne_plus_of_mem_encodeByte hb hc),
      List.flatMap_singleton']
    simp [encodeByte, hb]

/-- Every text but the two that stand for a place has a segment, and no other text has the same. The
segment is the only one of its form for the bytes of the text, and a part of a path as it stands. -/
theorem segment_lossless {s : String} (hdot : s ≠ ".") (hdots : s ≠ "..") :
    ∃ e, segment? s = some e ∧ IsCanonical e ∧ Percent.decode e = utf8 s.toList ∧
      (∀ cs, IsCanonical cs → Percent.decode cs = utf8 s.toList → cs = e) ∧
      (∀ t, segment? t = some e → t = s) ∧ Url.isDots e = false ∧
      (∀ c ∈ e, 0x20 < c.toNat ∧ c.toNat < 0x7F ∧ c ∉ delimiters) ∧
      e = (component s).flatMap fun c => if c = '+' then escape 0x20 else [c] := by
  have hform := isCanonical_encodeBytes (utf8 s.toList)
  refine ⟨encode (escape 0x20) s, by simp [segment?, hdot, hdots], hform, decode_encode s, ?_, ?_,
    isDots_encode hdot hdots, ?_, encode_eq_component s⟩
  · intro cs hcs hdecode
    exact hcs.eq_of_decode_eq hform (hdecode.trans (decode_encode s).symm)
  · intro t ht
    rw [segment?] at ht
    split_ifs at ht
    have hbytes := congrArg Percent.decode (Option.some.inj ht)
    rw [decode_encode, decode_encode] at hbytes
    have htext := congrArg Url.utf8Text? hbytes
    rw [Url.utf8Text?_utf8, Url.utf8Text?_utf8] at htext
    exact String.toList_inj.mp (Option.some.inj htext)
  · intro c hc
    exact of_isSegmentChar (p := fun c => 0x20 < c.toNat ∧ c.toNat < 0x7F ∧ c ∉ delimiters)
      (by decide +kernel) (isSegmentChar_of_mem_encode hc)

theorem segment_of_note : "../a b+é%2E" ≠ "." ∧ "../a b+é%2E" ≠ ".." ∧
    segment? "../a b+é%2E" = some "..%2Fa%20b%2B%C3%A9%252E".toList ∧
    IsCanonical "..%2Fa%20b%2B%C3%A9%252E".toList ∧
    Url.isDots "..%2Fa%20b%2B%C3%A9%252E".toList = false ∧
    ∀ t, segment? t = some "..%2Fa%20b%2B%C3%A9%252E".toList → t = "../a b+é%2E" := by
  have hdot : "../a b+é%2E" ≠ "." := by decide
  have hdots : "../a b+é%2E" ≠ ".." := by decide
  obtain ⟨e, he, hform, -, -, hinj, hnoDots, -⟩ := segment_lossless hdot hdots
  have hnote : segment? "../a b+é%2E" = some "..%2Fa%20b%2B%C3%A9%252E".toList := by
    decide +kernel
  obtain rfl := Option.some.inj (he.symm.trans hnote)
  exact ⟨hdot, hdots, hnote, hform, hnoDots, hinj⟩

end RestGateway.Form
