import Mathlib
import RestGateway.Proofs.Splitting

/-! Binding leaves nothing unaccounted for: of the names in a template each has one lot, which it
has wherever it stands, and an entry of the payload is gone exactly when its name is consumed. -/
namespace RestGateway.Template

/-- What can become of a name that is not empty. -/
inductive Lot where
  | consumed
  | rejected
  | unresolved
  deriving DecidableEq

/-- The name has this lot by what binding gives. -/
def Bound.Tells (b : Bound) (payload : Dict Json) (name : String) : Lot → Prop
  | .consumed => payload.contains name = true ∧ b.remaining.contains name = false
  | .rejected => name ∈ b.rejected
  | .unresolved => name ∈ b.unresolved

/-- The payload has a value for the name, and it can be a segment. -/
def IsUsable (payload : Dict Json) (name : String) : Prop :=
  name ≠ "" ∧ ∃ v, payload.find? name = some v ∧ v.rendered ≠ "." ∧ v.rendered ≠ ".."

/-- The payload has a value for the name, and it is a step in a path. -/
def IsStep (payload : Dict Json) (name : String) : Prop :=
  name ≠ "" ∧ ∃ v, payload.find? name = some v ∧ (v.rendered = "." ∨ v.rendered = "..")

def IsMissing (payload : Dict Json) (name : String) : Prop :=
  name ≠ "" ∧ payload.find? name = none

/-- The names of the parts, with one entry for every part. -/
def partNames (parts : List (List Char × List Char)) : List String :=
  parts.map fun part => String.ofList part.1

section
variable {payload : Dict Json} {name : String}

instance : Decidable (IsUsable payload name) := decidable_of_iff _ isConsumed_iff

instance : Decidable (IsStep payload name) := decidable_of_iff _ use_eq_rejected_iff

lemma use_eq_unresolved_iff : use payload name = .unresolved ↔ IsMissing payload name := by
  unfold IsMissing
  by_cases hn : name = ""
  · simp [use, hn]
  · cases hv : payload.find? name with
    | none => simp [use, hn, hv]
    | some v =>
      rw [use_of_find? hn hv]
      split_ifs <;> simp

instance : Decidable (IsMissing payload name) := decidable_of_iff _ use_eq_unresolved_iff

end

/-! ### The lists of names -/

lemma names_writtenPieces (first : List Char) (parts : List (List Char × List Char)) :
    names (writtenPieces first parts) = partNames parts := by
  have hliteral (cs : List Char) : names (cs.map .literal) = [] :=
    List.filterMap_eq_nil_iff.mpr fun p hp => by
      obtain ⟨c, -, rfl⟩ := List.mem_map.mp hp
      rfl
  have happend (ps qs : List Piece) : names (ps ++ qs) = names ps ++ names qs :=
    List.filterMap_append
  rw [writtenPieces, happend, hliteral, List.nil_append]
  induction parts with
  | nil => rfl
  | cons part parts ih =>
    rw [List.flatMap_cons, happend, ih]
    change String.ofList part.1 :: names (part.2.map .literal) ++ _ = _
    rw [hliteral]
    rfl

section
variable {template : String} {first : List Char} {parts : List (List Char × List Char)}
  (h : IsSplit template.toList first parts) (payload : Dict Json)
include h

lemma IsSplit.names_eq : names (pieces template) = partNames parts := by
  rw [pieces, h.scan_eq, names_writtenPieces]

lemma IsSplit.unresolved_eq :
    (bind template payload).unresolved = (partNames parts).filter (IsMissing payload ·) := by
  change (names (pieces template)).filter _ = _
  rw [h.names_eq]
  exact List.filter_congr fun name _ => decide_eq_decide.mpr use_eq_unresolved_iff

lemma IsSplit.rejected_eq :
    (bind template payload).rejected = (partNames parts).filter (IsStep payload ·) := by
  change (names (pieces template)).filter _ = _
  rw [h.names_eq]
  exact List.filter_congr fun name _ => decide_eq_decide.mpr use_eq_rejected_iff

lemma IsSplit.remaining_eq : (bind template payload).remaining =
    payload.filter fun entry => ¬(entry.1 ∈ partNames parts ∧ IsUsable payload entry.1) := by
  change payload.without _ = _
  refine List.filter_congr fun entry _ => ?_
  rw [h.names_eq, Bool.eq_iff_iff, Bool.not_eq_true', decide_eq_true_iff, ← Bool.not_eq_true,
    List.contains_iff_mem, List.mem_filter, isConsumed_iff]
  rfl

lemma IsSplit.find?_remaining (key : String) : (bind template payload).remaining.find? key =
    if key ∈ partNames parts ∧ IsUsable payload key then none else payload.find? key := by
  rw [h.remaining_eq,
    Dict.find?_filter_key fun name => ¬(name ∈ partNames parts ∧ IsUsable payload name)]
  by_cases hk : key ∈ partNames parts ∧ IsUsable payload key <;> simp [hk]

lemma IsSplit.mem_partNames {name : String} : name ∈ partNames parts ↔ Occurs template name := by
  rw [← h.names_eq, mem_names_pieces_iff]

lemma IsSplit.tells_consumed {name : String} (hn : name ∈ partNames parts) :
    (bind template payload).Tells payload name .consumed ↔ IsUsable payload name := by
  rw [Bound.Tells, Dict.contains, Dict.contains, h.find?_remaining]
  constructor
  · rintro ⟨hin, hout⟩
    by_contra hu
    rw [if_neg fun hk => hu hk.2, hin] at hout
    simp at hout
  · intro hu
    obtain ⟨v, hv, -⟩ := hu.2
    rw [if_pos ⟨hn, hu⟩, hv]
    exact ⟨rfl, rfl⟩

lemma IsSplit.tells_rejected {name : String} (hn : name ∈ partNames parts) :
    (bind template payload).Tells payload name .rejected ↔ IsStep payload name := by
  rw [Bound.Tells, h.rejected_eq, List.mem_filter, decide_eq_true_iff, and_iff_right hn]

lemma IsSplit.tells_unresolved {name : String} (hn : name ∈ partNames parts) :
    (bind template payload).Tells payload name .unresolved ↔ IsMissing payload name := by
  rw [Bound.Tells, h.unresolved_eq, List.mem_filter, decide_eq_true_iff, and_iff_right hn]

end

/-- The payload alone decides between the three lots, so it does not matter where a name stands. -/
lemma IsSplit.existsUnique_lot {template : String} {first : List Char}
    {parts : List (List Char × List Char)} (h : IsSplit template.toList first parts)
    (payload : Dict Json) {name : String} (hn : name ∈ partNames parts) (hne : name ≠ "") :
    ∃! lot, (bind template payload).Tells payload name lot := by
  have hconsumed := h.tells_consumed payload hn
  have hrejected := h.tells_rejected payload hn
  have hunresolved := h.tells_unresolved payload hn
  unfold IsUsable at hconsumed
  unfold IsStep at hrejected
  unfold IsMissing at hunresolved
  cases hv : payload.find? name with
  | none =>
    refine ⟨.unresolved, hunresolved.mpr ⟨hne, hv⟩, fun lot hlot => ?_⟩
    cases lot with
    | consumed => simp [hconsumed, hv] at hlot
    | rejected => simp [hrejected, hv] at hlot
    | unresolved => rfl
  | some v =>
    by_cases hd : v.rendered = "." ∨ v.rendered = ".."
    · refine ⟨.rejected, hrejected.mpr ⟨hne, v, hv, hd⟩, fun lot hlot => ?_⟩
      cases lot with
      | consumed =>
        obtain ⟨-, w, hw, hone, htwo⟩ := hconsumed.mp hlot
        obtain rfl : v = w := Option.some.inj (hv.symm.trans hw)
        exact absurd hd (not_or.mpr ⟨hone, htwo⟩)
      | rejected => rfl
      | unresolved => simp [hunresolved, hv] at hlot
    · refine ⟨.consumed, hconsumed.mpr ⟨hne, v, hv, not_or.mp hd⟩, fun lot hlot => ?_⟩
      cases lot with
      | consumed => rfl
      | rejected =>
        obtain ⟨-, w, hw, hdots⟩ := hrejected.mp hlot
        obtain rfl : v = w := Option.some.inj (hv.symm.trans hw)
        exact absurd hdots hd
      | unresolved => simp [hunresolved, hv] at hlot

/-- Each name in the split of a template has exactly one lot, unless it is empty. The lists have the
names in the order of the template, one for every part, and what remains of the payload is all but
the entries of consumed names. A key that does not occur between braces keeps its entry, and so does
the empty key. -/
theorem bind_accounts (template : String) (payload : Dict Json) :
    ∃ first parts, IsSplit template.toList first parts ∧
      (∀ name ∈ partNames parts, name ≠ "" →
        ∃! lot, (bind template payload).Tells payload name lot) ∧
      (bind template payload).unresolved = (partNames parts).filter (IsMissing payload ·) ∧
      (bind template payload).rejected = (partNames parts).filter (IsStep payload ·) ∧
      (bind template payload).remaining = payload.filter (fun entry =>
        ¬(entry.1 ∈ partNames parts ∧ IsUsable payload entry.1)) ∧
      (∀ key, (bind template payload).remaining.find? key =
        if key ∈ partNames parts ∧ IsUsable payload key then none else payload.find? key) ∧
      (∀ key, ¬Occurs template key →
        (bind template payload).remaining.find? key = payload.find? key) ∧
      "" ∉ (bind template payload).unresolved ∧ "" ∉ (bind template payload).rejected ∧
      (bind template payload).remaining.find? "" = payload.find? "" := by
  obtain ⟨first, parts, h⟩ := exists_isSplit template.toList
  have hempty : ¬("" ∈ partNames parts ∧ IsUsable payload "") := fun hk => hk.2.1 rfl
  refine ⟨first, parts, h, fun name hn hne => h.existsUnique_lot payload hn hne,
    h.unresolved_eq payload, h.rejected_eq payload, h.remaining_eq payload,
    h.find?_remaining payload, fun key hk => ?_, ?_, ?_, ?_⟩
  · rw [h.find?_remaining, if_neg fun hu => hk (h.mem_partNames.mp hu.1)]
  · rw [h.unresolved_eq, List.mem_filter, decide_eq_true_iff]
    exact fun hm => hm.2.1 rfl
  · rw [h.rejected_eq, List.mem_filter, decide_eq_true_iff]
    exact fun hm => hm.2.1 rfl
  · rw [h.find?_remaining, if_neg hempty]

/-! ### Names that stand twice, and a brace that stays open -/

def crowdedTemplate : String :=
  "/\x7bid\x7d/\x7bdir\x7d/\x7b\x7d/\x7b\x7bid\x7d/\x7bno\x7d/\x7bdir\x7d/\x7bopen"

def crowdedParts : List (List Char × List Char) :=
  [("id".toList, "/".toList), ("dir".toList, "/".toList), ([], "/\x7b".toList),
    ("id".toList, "/".toList), ("no".toList, "/".toList), ("dir".toList, "/\x7bopen".toList)]

def crowdedPayload : Dict Json :=
  [("", .null), ("dir", .string ".."), ("id", .number (.integer 7)), ("open", .bool true)]

/-- Both entries of the name that is rejected are counted, and its value stays in the payload. -/
theorem crowded_accounts :
    IsSplit crowdedTemplate.toList "/".toList crowdedParts ∧ "dir" ∈ partNames crowdedParts ∧
    (∃! lot, (bind crowdedTemplate crowdedPayload).Tells crowdedPayload "dir" lot) ∧
    (bind crowdedTemplate crowdedPayload).unresolved = ["no"] ∧
    (bind crowdedTemplate crowdedPayload).rejected = ["dir", "dir"] ∧
    (bind crowdedTemplate crowdedPayload).remaining =
      [("", .null), ("dir", .string ".."), ("open", .bool true)] ∧
    ¬Occurs crowdedTemplate "open" ∧
    (bind crowdedTemplate crowdedPayload).remaining.find? "open" = some (.bool true) := by
  obtain ⟨first, parts, hsplit, hlot, hunresolved, hrejected, hremaining, -, hother, -⟩ :=
    bind_accounts crowdedTemplate crowdedPayload
  have hcrowded : IsSplit crowdedTemplate.toList "/".toList crowdedParts :=
    ⟨by decide, by decide, by decide, by decide⟩
  obtain ⟨rfl, rfl⟩ := hsplit.unique hcrowded
  have hdir : "dir" ∈ partNames crowdedParts := by decide
  have hopen : ¬Occurs crowdedTemplate "open" := by
    rw [← mem_names_pieces_iff]
    decide
  exact ⟨hcrowded, hdir, hlot "dir" hdir (by decide), hunresolved.trans (by decide),
    hrejected.trans (by decide), hremaining.trans rfl, hopen, hother "open" hopen⟩

end RestGateway.Template
