import Mathlib
import RestGateway.Dict

/-! Dictionaries keep their order, and putting an entry into one changes what is found under its own
key only. -/
namespace RestGateway

namespace Dict
variable {α : Type}

lemma ascending_nil : Ascending ([] : Dict α) := List.Pairwise.nil

lemma ascending_cons {k : String} {v : α} {d : Dict α} :
    Ascending ((k, v) :: d) ↔ (∀ key ∈ d.keys, k < key) ∧ d.Ascending := List.pairwise_cons

lemma find?_cons (k : String) (v : α) (d : Dict α) (key : String) :
    find? ((k, v) :: d) key = if key = k then some v else d.find? key := rfl

lemma find?_eq_none_of_notMem {d : Dict α} {key : String} (h : key ∉ d.keys) :
    d.find? key = none := by
  induction d with
  | nil => rfl
  | cons entry d ih =>
    obtain ⟨hk, hd⟩ := List.ne_and_not_mem_of_not_mem_cons h
    rw [find?_cons, if_neg hk, ih hd]

lemma contains_of_mem {d : Dict α} {entry : String × α} (h : entry ∈ d) :
    d.contains entry.1 = true := by
  induction d with
  | nil => simp at h
  | cons first d ih =>
    obtain ⟨k, v⟩ := first
    rw [contains, find?_cons]
    split_ifs with hk
    · rfl
    · rcases List.mem_cons.mp h with rfl | h
      · exact absurd rfl hk
      · exact ih h

lemma find?_append (d e : Dict α) (key : String) :
    find? (d ++ e) key = (d.find? key).or (e.find? key) := by
  induction d with
  | nil => rfl
  | cons entry d ih =>
    obtain ⟨k, v⟩ := entry
    rw [List.cons_append, find?_cons, find?_cons, ih]
    split_ifs <;> rfl

lemma find?_eq_none_iff {d : Dict α} {key : String} : d.find? key = none ↔ key ∉ d.keys := by
  refine ⟨fun h hm => ?_, find?_eq_none_of_notMem⟩
  obtain ⟨entry, he, rfl⟩ := List.mem_map.mp hm
  have hc := contains_of_mem he
  rw [contains, h] at hc
  simp at hc

/-- When no key has two values, it does not matter from which end one looks. -/
lemma find?_reverse {d : Dict α} (h : d.keys.Nodup) (key : String) :
    find? d.reverse key = d.find? key := by
  induction d with
  | nil => rfl
  | cons entry d ih =>
    obtain ⟨k, v⟩ := entry
    obtain ⟨hk, hd⟩ := List.nodup_cons.mp h
    rw [List.reverse_cons, find?_append, ih hd, find?_cons, find?_cons]
    split_ifs with heq
    · rw [heq, find?_eq_none_of_notMem hk, Option.none_or]
    · exact Option.or_none

lemma mem_of_find? {d : Dict α} {key : String} {value : α} (h : d.find? key = some value) :
    (key, value) ∈ d := by
  induction d with
  | nil => simp [find?] at h
  | cons entry d ih =>
    obtain ⟨k, v⟩ := entry
    rw [find?_cons] at h
    split_ifs at h with hk
    · rw [hk, Option.some.inj h]
      exact List.mem_cons_self
    · exact List.mem_cons_of_mem _ (ih h)

lemma find?_of_mem {d : Dict α} (h : d.Ascending) {entry : String × α} (he : entry ∈ d) :
    d.find? entry.1 = some entry.2 := by
  induction d with
  | nil => simp at he
  | cons first d ih =>
    obtain ⟨k, v⟩ := first
    obtain ⟨hk, hd⟩ := ascending_cons.mp h
    rw [find?_cons]
    rcases List.mem_cons.mp he with rfl | he
    · exact if_pos rfl
    · rw [if_neg (hk _ (List.mem_map_of_mem he)).ne', ih hd he]

/-- Dictionaries in which the same is found are the same. -/
lemma eq_of_find?_eq {d e : Dict α} (hd : d.Ascending) (he : e.Ascending)
    (h : ∀ key, d.find? key = e.find? key) : d = e := by
  have hmem : ∀ entry, entry ∈ d ↔ entry ∈ e := fun entry =>
    ⟨fun hm => mem_of_find? ((h entry.1).symm.trans (find?_of_mem hd hm)),
      fun hm => mem_of_find? ((h entry.1).trans (find?_of_mem he hm))⟩
  have hirrefl : Std.Irrefl fun a b : String × α => a.1 < b.1 := ⟨fun _ => lt_irrefl _⟩
  have hantisymm : Std.Antisymm fun a b : String × α => a.1 < b.1 :=
    ⟨fun _ _ hab hba => absurd hba hab.not_gt⟩
  exact (List.pairwise_map.mp hd).eq_of_mem_iff (List.pairwise_map.mp he) hmem

/-- What is found under the keys that are kept. -/
lemma find?_filter_key (p : String → Bool) (d : Dict α) (key : String) :
    find? (d.filter (p ·.1)) key = if p key then d.find? key else none := by
  induction d with
  | nil => simp [find?]
  | cons entry d ih =>
    obtain ⟨k, v⟩ := entry
    by_cases hk : key = k
    · subst hk
      cases hp : p key with
      | true => rw [List.filter_cons_of_pos (by exact hp), find?_cons, find?_cons]; simp
      | false => rw [List.filter_cons_of_neg (by simpa using hp), ih, hp]; simp
    · cases hp : p k with
      | true => rw [List.filter_cons_of_pos (by exact hp), find?_cons, find?_cons, ih]; simp [hk]
      | false =>
        rw [List.filter_cons_of_neg (by simpa using hp), ih, find?_cons, if_neg hk]

lemma ascending_filter {d : Dict α} (h : d.Ascending) (p : String × α → Bool) :
    Ascending (d.filter p) := by
  have hsub : (keys (d.filter p)).Sublist d.keys := List.filter_sublist.map Prod.fst
  exact List.Pairwise.sublist hsub h

/-- When keys get other names, then of the entries with one name the last one counts that had the
greatest key. -/
theorem find?_reverse_map_iff {d : Dict α} (h : d.Ascending) (rename : String → String)
    {name : String} {value : α} :
    find? (d.map fun entry => (rename entry.1, entry.2)).reverse name = some value ↔
      ∃ key, (key, value) ∈ d ∧ rename key = name ∧
        ∀ other ∈ d, rename other.1 = name → other.1 ≤ key := by
  induction d generalizing value with
  | nil => simp [find?]
  | cons entry d ih =>
    obtain ⟨k, v⟩ := entry
    obtain ⟨hk, hd⟩ := ascending_cons.mp h
    have hless : ∀ other ∈ d, k < other.1 := fun other ho => hk _ (List.mem_map_of_mem ho)
    rw [List.map_cons, List.reverse_cons, find?_append]
    cases hr : find? (d.map fun entry => (rename entry.1, entry.2)).reverse name with
    | some w =>
      -- an entry behind the first one has the name, and so the first one does not count
      obtain ⟨key, hkey, hname, -⟩ := (ih hd).mp hr
      rw [Option.some_or, ← hr, ih hd]
      constructor
      · rintro ⟨last, hlast, hl, hmax⟩
        refine ⟨last, List.mem_cons_of_mem _ hlast, hl, List.forall_mem_cons.mpr ⟨?_, hmax⟩⟩
        exact fun _ => (hless _ hlast).le
      · rintro ⟨last, hlast, hl, hmax⟩
        have hrest := (List.forall_mem_cons.mp hmax).2
        rcases List.mem_cons.mp hlast with he | hlast
        · obtain ⟨rfl, rfl⟩ := Prod.mk.inj he
          exact absurd (hless _ hkey) (hrest _ hkey hname).not_gt
        · exact ⟨last, hlast, hl, hrest⟩
    | none =>
      have hnone : ∀ other ∈ d, rename other.1 ≠ name := by
        intro other ho hname
        refine find?_eq_none_iff.mp hr (List.mem_map.mpr ⟨(rename other.1, other.2), ?_, hname⟩)
        exact List.mem_reverse.mpr (List.mem_map_of_mem ho)
      rw [Option.none_or, find?_cons]
      constructor
      · intro hv
        split_ifs at hv with hname
        · obtain rfl := Option.some.inj hv
          refine ⟨k, List.mem_cons_self, hname.symm, List.forall_mem_cons.mpr ⟨fun _ => le_rfl, ?_⟩⟩
          exact fun other ho hname => absurd hname (hnone other ho)
        · simp [find?] at hv
      · rintro ⟨last, hlast, hl, -⟩
        rcases List.mem_cons.mp hlast with he | hlast
        · obtain ⟨rfl, rfl⟩ := Prod.mk.inj he
          rw [if_pos hl.symm]
        · exact absurd hl (hnone _ hlast)

/-! ### Putting an entry -/

lemma mem_insert {key : String} {value : α} {d : Dict α} {entry : String × α}
    (h : entry ∈ d.insert key value) : entry = (key, value) ∨ entry ∈ d := by
  induction d with
  | nil => exact Or.inl (List.mem_singleton.mp h)
  | cons first d ih =>
    obtain ⟨k, v⟩ := first
    rw [insert] at h
    split_ifs at h with hlt heq
    · exact List.mem_cons.mp h
    · exact (List.mem_cons.mp h).imp_right (List.mem_cons_of_mem _)
    · rcases List.mem_cons.mp h with he | he
      · exact Or.inr (he ▸ List.mem_cons_self)
      · exact (ih he).imp_right (List.mem_cons_of_mem _)

lemma mem_keys_insert {key : String} {value : α} {d : Dict α} {k : String}
    (h : k ∈ (d.insert key value).keys) : k = key ∨ k ∈ d.keys := by
  obtain ⟨entry, he, rfl⟩ := List.mem_map.mp h
  rcases mem_insert he with rfl | he
  · exact Or.inl rfl
  · exact Or.inr (List.mem_map_of_mem he)

lemma ascending_insert {d : Dict α} (h : d.Ascending) (key : String) (value : α) :
    (d.insert key value).Ascending := by
  induction d with
  | nil => exact ascending_cons.mpr ⟨by simp [keys], h⟩
  | cons entry d ih =>
    obtain ⟨k, v⟩ := entry
    obtain ⟨hk, hd⟩ := ascending_cons.mp h
    rw [insert]
    split_ifs with hlt heq
    · refine ascending_cons.mpr ⟨fun other hm => ?_, h⟩
      rcases List.mem_cons.mp hm with rfl | hm
      · exact hlt
      · exact hlt.trans (hk other hm)
    · exact ascending_cons.mpr ⟨heq ▸ hk, hd⟩
    · refine ascending_cons.mpr ⟨fun other hm => ?_, ih hd⟩
      rcases mem_keys_insert hm with rfl | hm
      · exact lt_of_le_of_ne (not_lt.mp hlt) (Ne.symm heq)
      · exact hk other hm

/-- Whether an entry is put in place of another or left as it was, the keys are the same. -/
lemma keys_insertNew (key : String) (value : α) (d : Dict α) :
    (d.insertNew key value).keys = (d.insert key value).keys := by
  induction d with
  | nil => rfl
  | cons entry d ih =>
    obtain ⟨k, v⟩ := entry
    rw [insertNew, insert]
    split_ifs with hlt heq
    · rfl
    · rw [heq]; rfl
    · exact congrArg (k :: ·) ih

lemma ascending_insertNew {d : Dict α} (h : d.Ascending) (key : String) (value : α) :
    (d.insertNew key value).Ascending := by
  rw [Ascending, keys_insertNew]
  exact ascending_insert h key value

lemma find?_insert (key : String) (value : α) (d : Dict α) (name : String) :
    (d.insert key value).find? name = if name = key then some value else d.find? name := by
  induction d with
  | nil => rfl
  | cons entry d ih =>
    obtain ⟨k, v⟩ := entry
    rw [insert]
    split_ifs with hlt heq hname hname
    all_goals simp_all [find?_cons]

/-- A new entry is found where the key had no value, and nothing else changes. -/
theorem find?_insertNew {d : Dict α} (h : d.Ascending) (key : String) (value : α) (name : String) :
    (d.insertNew key value).find? name =
      (d.find? name).or (if name = key then some value else none) := by
  induction d with
  | nil => simp [insertNew, find?]
  | cons entry d ih =>
    obtain ⟨k, v⟩ := entry
    obtain ⟨hk, hd⟩ := ascending_cons.mp h
    rcases lt_trichotomy key k with hlt | rfl | hgt
    · rw [insertNew, if_pos hlt, find?_cons key]
      by_cases hname : name = key
      · -- all keys of the dictionary are greater, so that the new one is none of them
        have hnone : find? ((k, v) :: d) name = none := by
          refine find?_eq_none_of_notMem fun hm => ?_
          have hall : ∀ other ∈ keys ((k, v) :: d), key < other :=
            List.forall_mem_cons.mpr ⟨hlt, fun other ho => hlt.trans (hk other ho)⟩
          exact absurd (hall name hm) (hname ▸ lt_irrefl name)
        rw [hnone, if_pos hname, Option.none_or]
      · rw [if_neg hname, if_neg hname, Option.or_none]
    · rw [insertNew, if_neg (lt_irrefl key), if_pos rfl, find?_cons]
      by_cases hname : name = key
      · rw [if_pos hname, if_pos hname, Option.some_or]
      · rw [if_neg hname, if_neg hname, Option.or_none]
    · rw [insertNew, if_neg hgt.not_gt, if_neg hgt.ne', find?_cons, find?_cons, ih hd]
      by_cases hname : name = k
      · rw [if_pos hname, if_pos hname, Option.some_or]
      · rw [if_neg hname, if_neg hname]

lemma insertNew_perm {d : Dict α} {key : String} (h : key ∉ d.keys) (value : α) :
    (d.insertNew key value).Perm ((key, value) :: d) := by
  induction d with
  | nil => exact List.Perm.refl _
  | cons entry d ih =>
    obtain ⟨k, v⟩ := entry
    obtain ⟨hk, hd⟩ := List.ne_and_not_mem_of_not_mem_cons h
    rw [insertNew, if_neg hk]
    split_ifs with hlt
    · exact List.Perm.refl _
    · exact ((ih hd).cons (k, v)).trans (List.Perm.swap _ _ _)

/-- Entries with different keys are all kept. -/
lemma ofList_perm {entries : List (String × α)} (h : (entries.map Prod.fst).Nodup) :
    (ofList entries).Perm entries := by
  induction entries with
  | nil => exact List.Perm.refl _
  | cons entry entries ih =>
    obtain ⟨hnew, hrest⟩ := List.nodup_cons.mp h
    have hperm := ih hrest
    have hkey : entry.1 ∉ keys (ofList entries) := fun hm =>
      hnew ((hperm.map Prod.fst).mem_iff.mp hm)
    exact (insertNew_perm hkey entry.2).trans (hperm.cons entry)

end Dict

end RestGateway
