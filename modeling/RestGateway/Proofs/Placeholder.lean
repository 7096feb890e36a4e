import Mathlib
import RestGateway.Proofs.Dict
import RestGateway.Proofs.Template

/-! Where a name without braces stands between braces there is a placeholder, whatever the text
around it, and there is no other. Binding puts the segment of the value in each of these places, and
the entries that remain are those that no placeholder is named after. -/
namespace RestGateway.Template

def IsBraceless (cs : List Char) : Prop := ∀ c ∈ cs, c ≠ '{' ∧ c ≠ '}'

/-- The name stands between braces somewhere in the template. -/
def Occurs (template name : String) : Prop :=
  IsBraceless name.toList ∧ '{' :: (name.toList ++ ['}']) <:+: template.toList

/-- A placeholder asks for the value of the key. -/
def AsksFor (template key : String) : Prop := key ≠ "" ∧ Occurs template key

/-! ### Occurrences -/

/-- An open brace ends whatever was read before it. -/
lemma scan_append_open (opened : Option (List Char)) (before rest : List Char) :
    scan opened (before ++ '{' :: rest) = scan opened before ++ scan (some []) rest := by
  induction before generalizing opened with
  | nil => simp [scan]
  | cons c before ih =>
    rw [List.cons_append]
    by_cases ho : c = '{'
    · rw [ho, scan, scan, ih, List.append_assoc]
    cases opened with
    | none => rw [scan_none_cons ho, scan_none_cons ho, ih, List.cons_append]
    | some name =>
      by_cases hc : c = '}'
      · rw [hc, scan, scan, ih, List.cons_append]
      · rw [scan_some_cons ho hc, scan_some_cons ho hc, ih]

theorem scan_append_placeholder {name : List Char} (h : IsBraceless name)
    (before after : List Char) :
    scan none (before ++ '{' :: (name ++ '}' :: after)) =
      scan none before ++ .placeholder name :: scan none after := by
  rw [scan_append_open, scan_some_append h, List.nil_append]

lemma braceless_of_mem_scan {opened : Option (List Char)} {cs name : List Char}
    (ho : ∀ cs, opened = some cs → IsBraceless cs) (h : .placeholder name ∈ scan opened cs) :
    IsBraceless name := by
  induction cs generalizing opened with
  | nil => cases opened <;> simp [scan, literals] at h
  | cons c cs ih =>
    by_cases hopen : c = '{'
    · rw [hopen, scan, List.mem_append] at h
      rcases h with h | h
      · cases opened <;> simp [literals] at h
      · exact ih (by simp [IsBraceless]) h
    cases opened with
    | none =>
      rw [scan_none_cons hopen, List.mem_cons] at h
      exact ih (by simp) (h.resolve_left (by simp))
    | some read =>
      have hread := ho read rfl
      by_cases hclose : c = '}'
      · rw [hclose, scan, List.mem_cons] at h
        rcases h with h | h
        · exact Piece.placeholder.inj h ▸ hread
        · exact ih (by simp) h
      · -- the name goes on with a character that is no brace
        rw [scan_some_cons hopen hclose] at h
        refine ih (fun longer hl => ?_) h
        rw [← Option.some.inj hl]
        exact List.forall_mem_append.mpr ⟨hread, by simp [hopen, hclose]⟩

/-- The names of the placeholders are the names that occur between braces. -/
theorem mem_names_pieces_iff {template name : String} :
    name ∈ names (pieces template) ↔ Occurs template name := by
  rw [mem_names, pieces]
  constructor
  · intro h
    have hi := Percent.infix_flatMap_of_mem (f := Piece.text) h
    rw [text_scan, openText, List.nil_append] at hi
    exact ⟨braceless_of_mem_scan (by simp) h, hi⟩
  · rintro ⟨hname, before, after, ht⟩
    have hs := scan_append_placeholder hname before after
    rw [show before ++ '{' :: (name.toList ++ '}' :: after) = template.toList by simpa using ht]
      at hs
    rw [hs]
    exact List.mem_append_right _ List.mem_cons_self

lemma asksFor_iff {template key : String} :
    AsksFor template key ↔ key ≠ "" ∧ key ∈ names (pieces template) :=
  and_congr_right fun _ => mem_names_pieces_iff.symm

instance (template key : String) : Decidable (AsksFor template key) :=
  decidable_of_iff _ asksFor_iff.symm

/-! ### Characters of the path -/

lemma isSegmentChar_of_use {payload : Dict Json} {name : String} {segment : List Char}
    (h : use payload name = .consumed segment) {c : Char} (hc : c ∈ segment) :
    Form.isSegmentChar c = true := by
  by_cases hn : name = ""
  · simp [use, hn] at h
  cases hv : payload.find? name with
  | none => simp [use, hn, hv] at h
  | some v =>
    rw [use_of_find? hn hv] at h
    split_ifs at h
    rw [← Use.consumed.inj h] at hc
    exact Form.isSegmentChar_of_mem_encode hc

lemma mem_boundText {payload : Dict Json} {p : Piece} {c : Char} (h : c ∈ boundText payload p) :
    c ∈ p.text ∨ Form.isSegmentChar c = true := by
  cases p with
  | literal d => exact Or.inl h
  | placeholder name =>
    rw [boundText] at h
    split at h
    next hu => exact Or.inr (isSegmentChar_of_use hu h)
    · exact Or.inl h

theorem mem_bind_path {template : String} {payload : Dict Json} {c : Char}
    (h : c ∈ (bind template payload).path.toList) :
    c ∈ template.toList ∨ Form.isSegmentChar c = true := by
  change c ∈ (String.ofList _).toList at h
  rw [String.toList_ofList] at h
  obtain ⟨p, hp, hc⟩ := List.mem_flatMap.mp h
  refine (mem_boundText hc).imp_left fun hm => ?_
  have hi := Percent.infix_flatMap_of_mem (f := Piece.text) hp
  rw [pieces, text_scan, openText, List.nil_append] at hi
  exact hi.subset hm

/-! ### Binding -/

/-- The path around a placeholder is bound as if it stood alone. -/
theorem bind_path_placeholder {template name : String} {before after : List Char}
    (h : IsBraceless name.toList)
    (ht : template.toList = before ++ '{' :: (name.toList ++ '}' :: after))
    (payload : Dict Json) :
    (bind template payload).path.toList = (bind (String.ofList before) payload).path.toList ++
      boundText payload (.placeholder name.toList) ++
        (bind (String.ofList after) payload).path.toList := by
  change (String.ofList _).toList = (String.ofList _).toList ++ _ ++ (String.ofList _).toList
  simp only [String.toList_ofList, pieces, ht, scan_append_placeholder h, List.flatMap_append,
    List.flatMap_cons, List.append_assoc]

section
variable {template : String} {payload : Dict Json} (hr : (bind template payload).rejected = [])
include hr

/-- When no value is rejected, every placeholder that has a value is bound to its segment. -/
theorem exists_segment {key : String} (hk : AsksFor template key) {v : Json}
    (hv : payload.find? key = some v) :
    ∃ segment, Form.segment? v.rendered = some segment ∧ use payload key = .consumed segment := by
  have hu := bind_rejected_eq_nil_iff.mp hr key (mem_names_pieces_iff.mpr hk.2)
  have hd : ¬(v.rendered = "." ∨ v.rendered = "..") :=
    fun hd => hu (use_eq_rejected_iff.mpr ⟨hk.1, v, hv, hd⟩)
  exact ⟨_, if_neg hd, by rw [use_of_find? hk.1 hv, if_neg hd]⟩

lemma mem_consumed_iff {entry : String × Json} (he : entry ∈ payload) :
    entry.1 ∈ (names (pieces template)).filter (isConsumed payload) ↔
      AsksFor template entry.1 := by
  obtain ⟨v, hv⟩ := Option.isSome_iff_exists.mp (Dict.contains_of_mem he)
  rw [List.mem_filter, mem_names_pieces_iff, and_comm]
  refine and_congr_left fun ho => ?_
  constructor
  · rintro hc hempty
    simp [isConsumed, use, hempty] at hc
  · intro hne
    obtain ⟨segment, -, hu⟩ := exists_segment hr ⟨hne, ho⟩ hv
    rw [isConsumed, hu]

theorem bind_remaining :
    (bind template payload).remaining = payload.filter (¬AsksFor template ·.1) := by
  change payload.without _ = _
  refine List.filter_congr fun entry he => ?_
  have hiff := mem_consumed_iff hr he
  by_cases ha : AsksFor template entry.1
  · simp [hiff.mpr ha, ha]
  · simp [mt hiff.mp ha, ha]

/-- The segment of the value stands in the path at every place of its placeholder. -/
theorem segment_in_path {key : String} (hk : AsksFor template key) {v : Json}
    (hv : payload.find? key = some v) :
    ∃ segment, Form.segment? v.rendered = some segment ∧
      ∀ before after, template.toList = before ++ '{' :: (key.toList ++ '}' :: after) →
        (bind template payload).path.toList =
          (bind (String.ofList before) payload).path.toList ++ segment ++
            (bind (String.ofList after) payload).path.toList := by
  obtain ⟨segment, hs, hu⟩ := exists_segment hr hk hv
  refine ⟨segment, hs, fun before after ht => ?_⟩
  have hb : boundText payload (.placeholder key.toList) = segment := by
    simp only [boundText, String.ofList_toList, hu]
  rw [bind_path_placeholder hk.2.1 ht, hb]

end

end RestGateway.Template
