import Mathlib
import RestGateway.Proofs.Form

/-! A query that is written from pairs is read as the same pairs, byte for byte: no separator is
left in a name or in a value, and no pair is written as nothing. -/
namespace RestGateway.Form
open Percent

/-! ### Names and values -/

lemma ne_plus_of_mem_encodeByte {b : UInt8} (hb : b ≠ 0x20) {c : Char}
    (hc : c ∈ encodeByte ['+'] b) : c ≠ '+' := by
  unfold encodeByte at hc
  split_ifs at hc with hplain
  · rintro rfl
    have hchar := (of_isPlain hplain).2.2
    rw [← List.mem_singleton.mp hc] at hchar
    exact absurd hchar (by decide)
  · exact capitalDigit_cases (p := (· ≠ '+')) (by decide) (by decide) hc

lemma decode_encodeByte_plus_append (b : UInt8) (rest : List Char) :
    decode (encodeByte ['+'] b ++ rest) = b :: decode rest := by
  unfold decode
  rw [List.map_append]
  by_cases hb : b = 0x20
  · -- a plus sign stands for a blank, and only for a blank
    subst hb
    change Percent.decode (' ' :: List.map _ rest) = _
    rw [decode_cons_of_ne (by decide)]
    rfl
  · have hsame : encodeByte ['+'] b = encodeByte (escape 0x20) b := by simp [encodeByte, hb]
    rw [List.map_congr_left fun c hc => if_neg (ne_plus_of_mem_encodeByte hb hc), List.map_id',
      hsame, decode_encodeByte_append]

lemma decode_encodeBytes_plus (bs : List UInt8) : decode (encodeBytes ['+'] bs) = bs := by
  induction bs with
  | nil => simp [encodeBytes, decode, Percent.decode]
  | cons b bs ih =>
    change decode (encodeByte ['+'] b ++ encodeBytes ['+'] bs) = b :: bs
    rw [decode_encodeByte_plus_append, ih]

lemma decode_component (s : String) : decode (component s) = utf8 s.toList :=
  decode_encodeBytes_plus _

lemma mem_component {s : String} {c : Char} (h : c ∈ component s) :
    c = '+' ∨ isSegmentChar c = true := by
  obtain ⟨b, -, hc⟩ := List.mem_flatMap.mp h
  unfold encodeByte at hc
  split_ifs at hc with hp hb
  · rw [List.mem_singleton.mp hc]
    exact Or.inr (of_isPlain hp).2.2
  · exact Or.inl (List.mem_singleton.mp hc)
  · exact Or.inr (capitalDigit_cases (p := fun c => isSegmentChar c = true) (by decide) (by decide)
      hc)

lemma ne_of_mem_component {s : String} {c : Char} (h : c ∈ component s) : c ≠ '=' ∧ c ≠ '&' := by
  rcases mem_component h with rfl | hs
  · decide
  · constructor
    · rintro rfl
      exact absurd hs (by decide)
    · rintro rfl
      exact absurd hs (by decide)

/-! ### Pairs -/

/-- The pair in bytes. -/
def pairBytes (pair : String × String) : List UInt8 × List UInt8 :=
  (utf8 pair.1.toList, utf8 pair.2.toList)

lemma decodePair_pairText (pair : String × String) :
    decodePair (pairText pair) = pairBytes pair := by
  have hname : ∀ c ∈ component pair.1, (c != '=') = true := fun c hc => by
    simpa using (ne_of_mem_component hc).1
  have htake : (pairText pair).takeWhile (· != '=') = component pair.1 := by
    rw [pairText, List.takeWhile_append_of_pos hname]
    simp
  have hdrop : (pairText pair).dropWhile (· != '=') = '=' :: component pair.2 := by
    rw [pairText, List.dropWhile_append_of_pos hname]
    simp
  rw [decodePair, htake, hdrop, List.drop_succ_cons, List.drop_zero, decode_component,
    decode_component]
  rfl

lemma pairText_ne_nil (pair : String × String) : pairText pair ≠ [] := by
  simp [pairText]

lemma ampersand_notMem_pairText (pair : String × String) : '&' ∉ pairText pair := by
  simp only [pairText, List.mem_append, List.mem_cons, not_or]
  exact ⟨fun h => (ne_of_mem_component h).2 rfl, by decide,
    fun h => (ne_of_mem_component h).2 rfl⟩

/-! ### Queries -/

lemma query_eq_intercalate (pairs : List (String × String)) :
    query pairs = ['&'].intercalate (pairs.map pairText) := by
  induction pairs with
  | nil => rfl
  | cons pair pairs ih =>
    cases pairs with
    | nil => simp [query]
    | cons next pairs =>
      rw [query, ih]
      · simp [List.intercalate]
      · simp

/-- A query is read as the pairs that it is written from. -/
theorem decodeQuery_query (pairs : List (String × String)) :
    decodeQuery (query pairs) = pairs.map pairBytes := by
  by_cases hp : pairs = []
  · subst hp
    decide
  have hsplit : (query pairs).splitOn '&' = pairs.map pairText := by
    rw [query_eq_intercalate]
    refine List.splitOn_intercalate '&' ?_ (by simpa using hp)
    rw [List.forall_mem_map]
    exact fun pair _ => ampersand_notMem_pairText pair
  have hfull : ∀ part ∈ pairs.map pairText, (!part.isEmpty) = true := by
    rw [List.forall_mem_map]
    exact fun pair _ => by simpa using pairText_ne_nil pair
  rw [decodeQuery, hsplit, List.filter_eq_self.mpr hfull, List.map_map]
  exact List.map_congr_left fun pair _ => decodePair_pairText pair

end RestGateway.Form
