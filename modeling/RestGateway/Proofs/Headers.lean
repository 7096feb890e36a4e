import Mathlib
import RestGateway.Headers
import RestGateway.Proofs.Dict

/-! Headers that are put one after the other. Of those with one name the last one is found, and
nothing more can be put once there are as many names as there is room for. -/
namespace RestGateway.Headers

/-! ### What is found -/

lemma find?_set (name value : String) (headers : Headers) (k : String) :
    Dict.find? (set name value headers) k = if k = name then some value else headers.find? k := by
  induction headers with
  | nil => rfl
  | cons header headers ih =>
    obtain ⟨n, v⟩ := header
    rw [set]
    split_ifs with hn hk hk
    all_goals simp_all [Dict.find?_cons]

lemma find?_put? {headers full : Headers} {name value : String}
    (h : headers.put? name value = some full) (k : String) :
    full.find? k = if k = name then some value else headers.find? k := by
  unfold put? at h
  split_ifs at h
  rw [← Option.some.inj h, find?_set]

lemma find?_put?_of_notMem {headers full : Headers} {name value : String}
    (h : headers.put? name value = some full) (hnew : name ∉ headers.keys) (k : String) :
    full.find? k = (headers.find? k).or (Dict.find? [(name, value)] k) := by
  rw [find?_put? h, Dict.find?_cons]
  by_cases hk : k = name
  · rw [if_pos hk, if_pos hk, hk, Dict.find?_eq_none_of_notMem hnew, Option.none_or]
  · rw [if_neg hk, if_neg hk]
    exact Option.or_none.symm

/-- What is there stays. -/
lemma find?_offer? {headers full : Headers} {name value : String}
    (h : headers.offer? name value = some full) (k : String) :
    full.find? k = (headers.find? k).or (Dict.find? [(name, value)] k) := by
  rw [find?_put? h, Dict.find?_cons]
  by_cases hk : k = name
  · rw [if_pos hk, if_pos hk, hk]
    cases headers.find? name <;> rfl
  · rw [if_neg hk, if_neg hk]
    exact Option.or_none.symm

/-- Of the headers with one name the last one counts. -/
theorem find?_putAll? {entries : List (String × String)} {headers full : Headers}
    (h : putAll? headers entries = some full) (k : String) :
    full.find? k = (Dict.find? entries.reverse k).or (headers.find? k) := by
  induction entries generalizing headers with
  | nil => rw [← Option.some.inj h]; rfl
  | cons entry entries ih =>
    obtain ⟨name, value⟩ := entry
    obtain ⟨next, hput, hrest⟩ := Option.bind_eq_some_iff.mp h
    rw [ih hrest, List.reverse_cons, Dict.find?_append, find?_put? hput, Option.or_assoc,
      Dict.find?_cons]
    split_ifs <;> rfl

/-! ### Names and room -/

lemma mem_keys_set_iff {name value : String} {headers : Headers} {k : String} :
    k ∈ Dict.keys (set name value headers) ↔ k = name ∨ k ∈ headers.keys := by
  rw [← not_iff_not, not_or, ← Dict.find?_eq_none_iff, ← Dict.find?_eq_none_iff, find?_set]
  split_ifs with hk <;> simp [hk]

lemma nodup_set {headers : Headers} (h : headers.keys.Nodup) (name value : String) :
    (Dict.keys (set name value headers)).Nodup := by
  induction headers with
  | nil => exact List.nodup_singleton name
  | cons header headers ih =>
    obtain ⟨n, v⟩ := header
    obtain ⟨hn, hnodup⟩ := List.nodup_cons.mp h
    rw [set]
    split_ifs with hname
    · rw [hname]
      exact h
    · refine List.nodup_cons.mpr ⟨fun hm => ?_, ih hnodup⟩
      exact (mem_keys_set_iff.mp hm).elim (Ne.symm hname) hn

/-- There is no room for the last of the names when they are put in their order. It does not matter
whether it is there already. -/
def IsOverfull (names : List String) : Prop := room ≤ names.dropLast.toFinset.card

lemma card_dropLast_le (names : List String) :
    names.dropLast.toFinset.card ≤ names.toFinset.card :=
  Finset.card_le_card fun _ hk =>
    List.mem_toFinset.mpr ((List.dropLast_sublist names).subset (List.mem_toFinset.mp hk))

/-- The result of putting headers with these names in their order. -/
structure Follows (result : Option Headers) (names : List String) : Prop where
  eq_none_iff : result = none ↔ IsOverfull names
  nodup : ∀ headers, result = some headers → headers.keys.Nodup
  keys : ∀ headers, result = some headers → headers.keys.toFinset = names.toFinset

lemma follows_nil : Follows (some []) [] where
  eq_none_iff := by simp [IsOverfull, room]
  nodup := by simp [Dict.keys]
  keys := by simp [Dict.keys]

namespace Follows
variable {result : Option Headers} {names : List String} (h : Follows result names)
include h

lemma length_eq {headers : Headers} (hr : result = some headers) :
    headers.length = names.toFinset.card := by
  rw [← h.keys headers hr, List.toFinset_card_of_nodup (h.nodup headers hr), Dict.keys,
    List.length_map]

/-- Whatever the value depends on, the name is put behind the others. -/
theorem put? (name : String) (value : Headers → String) :
    Follows (result.bind fun headers => headers.put? name (value headers)) (names ++ [name]) := by
  cases hr : result with
  | none =>
    refine ⟨iff_of_true rfl ?_, by simp, by simp⟩
    rw [IsOverfull, List.dropLast_concat]
    exact (h.eq_none_iff.mp hr).trans (card_dropLast_le names)
  | some headers =>
    have hlen := h.length_eq hr
    rw [Option.bind_some, Headers.put?]
    refine ⟨?_, fun full hfull => ?_, fun full hfull => ?_⟩
    · rw [IsOverfull, List.dropLast_concat, ← hlen]
      split_ifs <;> simp_all
    all_goals
      split_ifs at hfull
      rw [← Option.some.inj hfull]
    · exact nodup_set (h.nodup headers hr) name _
    · ext k
      rw [List.mem_toFinset, mem_keys_set_iff, ← List.mem_toFinset, h.keys headers hr]
      simp

lemma offer? (name value : String) :
    Follows (result.bind fun headers => headers.offer? name value) (names ++ [name]) :=
  h.put? name fun headers => (headers.find? name).getD value

theorem putAll? (entries : List (String × String)) :
    Follows (result.bind (Headers.putAll? · entries)) (names ++ entries.map Prod.fst) := by
  induction entries generalizing result names with
  | nil => simpa [Headers.putAll?] using h
  | cons entry entries ih =>
    have hnext := ih (h.put? entry.1 fun _ => entry.2)
    rwa [Option.bind_assoc, ← List.append_cons] at hnext

end Follows

lemma follows_putAll? (entries : List (String × String)) :
    Follows (putAll? [] entries) (entries.map Prod.fst) := follows_nil.putAll? entries

lemma not_isOverfull_of_card_lt {names : List String} (h : names.toFinset.card < room) :
    ¬IsOverfull names := not_le.mpr ((card_dropLast_le names).trans_lt h)

lemma not_isOverfull_of_length {names : List String} (h : names.length ≤ room) :
    ¬IsOverfull names := by
  have hcard := List.toFinset_card_le names.dropLast
  rw [List.length_dropLast] at hcard
  have hpos : 0 < room := by decide
  rw [IsOverfull]
  omega

/-- A name that is not there yet can be put when there is room for all of them. -/
lemma not_isOverfull_concat {names : List String} {name : String} (hnew : name ∉ names)
    (hroom : (names ++ [name]).toFinset.card ≤ room) : ¬IsOverfull (names ++ [name]) := by
  have hcard : (names ++ [name]).toFinset.card = names.toFinset.card + 1 := by
    rw [List.toFinset_append, List.toFinset_cons, List.toFinset_nil, insert_empty_eq,
      Finset.card_union_of_disjoint (by simpa using hnew), Finset.card_singleton]
  rw [IsOverfull, List.dropLast_concat]
  omega

lemma exists_putAll? {entries : List (String × String)} (h : entries.length ≤ room) :
    ∃ full, putAll? [] entries = some full := by
  refine Option.ne_none_iff_exists'.mp fun hnone => ?_
  refine not_isOverfull_of_length ?_ ((follows_putAll? entries).eq_none_iff.mp hnone)
  rwa [List.length_map]

end RestGateway.Headers
