import Mathlib
import RestGateway.Proofs.Placeholder

/-! The check of a template and its binding look for braces in ways of their own, and they agree: a
template is well-formed exactly when no brace of it is literal text, which is when some payload
leaves no brace in the path. -/
namespace RestGateway.Template

/-- The text is braceless at its beginning, and then has names between braces, each of them with
braceless text behind it. -/
structure IsWritten (cs first : List Char) (parts : List (List Char × List Char)) : Prop where
  text : cs = first ++ parts.flatMap fun (name, behind) => '{' :: (name ++ '}' :: behind)
  first : IsBraceless first
  name : ∀ part ∈ parts, IsBraceless part.1
  behind : ∀ part ∈ parts, IsBraceless part.2

/-- The payload has a value for each of the names, and none of the values is a step in a path. -/
def Supplies (payload : Dict Json) (parts : List (List Char × List Char)) : Prop :=
  ∀ part ∈ parts, ∃ v, payload.find? (String.ofList part.1) = some v ∧
    v.rendered ≠ "." ∧ v.rendered ≠ ".."

-- decided along the text: the instance that is found without a hint tries every character there is
instance (cs : List Char) : Decidable (IsBraceless cs) :=
  List.decidableBAll (fun c => c ≠ '{' ∧ c ≠ '}') cs

lemma isBraceless_nil : IsBraceless [] := by simp [IsBraceless]

lemma isBraceless_cons {c : Char} {cs : List Char} :
    IsBraceless (c :: cs) ↔ (c ≠ '{' ∧ c ≠ '}') ∧ IsBraceless cs := List.forall_mem_cons

/-! ### The check -/

lemma braceProblem?_append {cs : List Char} (h : IsBraceless cs) (inside : Bool)
    (rest : List Char) : braceProblem? inside (cs ++ rest) = braceProblem? inside rest := by
  induction cs with
  | nil => rfl
  | cons c cs ih =>
    obtain ⟨hc, hcs⟩ := isBraceless_cons.mp h
    rw [List.cons_append, braceProblem?_cons hc, ih hcs]

lemma braceProblem?_of_isWritten {cs first : List Char} {parts : List (List Char × List Char)}
    (h : IsWritten cs first parts) : braceProblem? false cs = none := by
  rw [h.text, braceProblem?_append h.first]
  obtain ⟨-, -, hname, hbehind⟩ := h
  induction parts with
  | nil => rfl
  | cons part parts ih =>
    obtain ⟨name, behind⟩ := part
    obtain ⟨hn, hnames⟩ := List.forall_mem_cons.mp hname
    obtain ⟨hb, hbehinds⟩ := List.forall_mem_cons.mp hbehind
    rw [List.flatMap_cons, List.cons_append, List.append_assoc, List.cons_append]
    calc braceProblem? false ('{' :: (name ++ '}' :: (behind ++ parts.flatMap _)))
      _ = braceProblem? true (name ++ '}' :: (behind ++ parts.flatMap _)) := rfl
      _ = braceProblem? false (behind ++ parts.flatMap _) := braceProblem?_append hn true _
      _ = braceProblem? false (parts.flatMap _) := braceProblem?_append hb false _
      _ = none := ih hnames hbehinds

/-- Where the check finds nothing, an open name ends, and the rest is written from parts. -/
lemma exists_isWritten {inside : Bool} {cs : List Char} (h : braceProblem? inside cs = none) :
    ∃ name rest first parts, IsBraceless name ∧ IsWritten rest first parts ∧
      cs = if inside then name ++ '}' :: rest else rest := by
  induction cs generalizing inside with
  | nil =>
    cases inside with
    | true => simp [braceProblem?] at h
    | false =>
      have hw : IsWritten [] [] [] := ⟨rfl, isBraceless_nil, by simp, by simp⟩
      exact ⟨[], [], [], [], isBraceless_nil, hw, rfl⟩
  | cons c cs ih =>
    by_cases ho : c = '{'
    · subst ho
      cases inside with
      | true => simp [braceProblem?] at h
      | false =>
        obtain ⟨name, rest, first, parts, hn, hw, hcs⟩ := @ih true h
        refine ⟨[], '{' :: cs, [], (name, first) :: parts, isBraceless_nil, ?_, rfl⟩
        refine ⟨?_, isBraceless_nil, List.forall_mem_cons.mpr ⟨hn, hw.name⟩,
          List.forall_mem_cons.mpr ⟨hw.first, hw.behind⟩⟩
        rw [hcs, if_pos rfl, hw.text]
        simp
    by_cases hc : c = '}'
    · subst hc
      cases inside with
      | false => simp [braceProblem?] at h
      | true =>
        obtain ⟨_, rest, first, parts, -, hw, hcs⟩ := @ih false h
        obtain rfl : cs = rest := hcs
        exact ⟨[], cs, first, parts, isBraceless_nil, hw, rfl⟩
    · rw [braceProblem?_cons ⟨ho, hc⟩] at h
      obtain ⟨name, rest, first, parts, hn, hw, hcs⟩ := ih h
      cases inside with
      | true =>
        refine ⟨c :: name, rest, first, parts, isBraceless_cons.mpr ⟨⟨ho, hc⟩, hn⟩, hw, ?_⟩
        rw [hcs]
        rfl
      | false =>
        obtain rfl : cs = rest := hcs
        refine ⟨[], c :: cs, c :: first, parts, isBraceless_nil, ?_, rfl⟩
        refine ⟨?_, isBraceless_cons.mpr ⟨⟨ho, hc⟩, hw.first⟩, hw.name, hw.behind⟩
        rw [hw.text, List.cons_append]

theorem braceProblem?_eq_none_iff {cs : List Char} :
    braceProblem? false cs = none ↔ ∃ first parts, IsWritten cs first parts := by
  constructor
  · intro h
    obtain ⟨-, rest, first, parts, -, hw, rfl⟩ := exists_isWritten h
    exact ⟨first, parts, hw⟩
  · rintro ⟨first, parts, hw⟩
    exact braceProblem?_of_isWritten hw

/-! ### The check and the scanner -/

/-- The check finds nothing exactly when no brace is literal text for the scanner. -/
theorem braceProblem?_eq_none_iff_scan (opened : Option (List Char)) (cs : List Char) :
    braceProblem? opened.isSome cs = none ↔
      ∀ c, .literal c ∈ scan opened cs → c ≠ '{' ∧ c ≠ '}' := by
  induction cs generalizing opened with
  | nil => cases opened <;> simp [braceProblem?, scan, literals]
  | cons c cs ih =>
    by_cases ho : c = '{'
    · subst ho
      cases opened with
      | none => simpa [braceProblem?, scan, literals] using ih (some [])
      | some name => simp [braceProblem?, scan, literals]
    by_cases hc : c = '}'
    · subst hc
      cases opened with
      | none => simp [braceProblem?, scan]
      | some name => simpa [braceProblem?, scan] using ih none
    rw [braceProblem?_cons ⟨ho, hc⟩]
    cases opened with
    | none => rw [ih, scan_none_cons ho]; simp [ho, hc]
    | some name => rw [scan_some_cons ho hc]; exact ih (some (name ++ [c]))

/-! ### Well-formed templates -/

lemma whole_of_problem?_eq_none {template : String} (h : problem? template = none) :
    ∀ p ∈ pieces template, p.IsWhole := by
  have hliteral := (braceProblem?_eq_none_iff_scan none template.toList).mp
    (problem?_eq_none_iff.mp h).2
  intro p hp
  cases p with
  | literal c => exact (hliteral c hp).1
  | placeholder name => exact braceless_of_mem_scan (by simp) hp

lemma exists_joinPieces (ps : List Piece) :
    ∃ segments, joinPieces segments = .literal '/' :: ps ∧
      ∀ segment ∈ segments, ∀ p ∈ segment, p ∈ ps ∧ p ≠ .literal '/' := by
  induction ps with
  | nil => exact ⟨[[]], rfl, by simp⟩
  | cons p ps ih =>
    obtain ⟨segments, hj, hmem⟩ := ih
    by_cases hp : p = .literal '/'
    · refine ⟨[] :: segments, ?_, List.forall_mem_cons.mpr ⟨by simp, ?_⟩⟩
      · rw [hp, ← hj]
        rfl
      · exact fun s hs q hq => ⟨List.mem_cons_of_mem _ (hmem s hs q hq).1, (hmem s hs q hq).2⟩
    · cases segments with
      | nil => simp [joinPieces] at hj
      | cons first rest =>
        obtain ⟨hfirst, hrest⟩ := List.forall_mem_cons.mp hmem
        rw [joinPieces, List.flatMap_cons, List.cons_append, List.cons.injEq] at hj
        refine ⟨(p :: first) :: rest, ?_, List.forall_mem_cons.mpr ⟨?_, ?_⟩⟩
        · rw [joinPieces, List.flatMap_cons, List.cons_append, List.cons_append, hj.2]
        · refine List.forall_mem_cons.mpr ⟨⟨List.mem_cons_self, hp⟩, ?_⟩
          exact fun q hq => ⟨List.mem_cons_of_mem _ (hfirst q hq).1, (hfirst q hq).2⟩
        · exact fun s hs q hq => ⟨List.mem_cons_of_mem _ (hrest s hs q hq).1, (hrest s hs q hq).2⟩

/-- Every well-formed template is written from segments of whole pieces that are no slashes. -/
theorem exists_ofSegments {template : String} (h : problem? template = none) :
    ∃ segments, template = ofSegments segments ∧ joinPieces segments = pieces template ∧
      ∀ segment ∈ segments, ∀ p ∈ segment, p.IsWhole ∧ p ≠ .literal '/' := by
  obtain ⟨⟨rest, hr⟩, -⟩ := problem?_eq_none_iff.mp h
  have hpieces : pieces template = .literal '/' :: scan none rest := by
    rw [pieces, hr, scan_none_cons (by decide)]
  have hwhole := whole_of_problem?_eq_none h
  obtain ⟨segments, hj, hmem⟩ := exists_joinPieces (scan none rest)
  refine ⟨segments, ?_, hj.trans hpieces.symm, fun s hs p hp => ?_⟩
  · rw [ofSegments, hj, ← hpieces, pieces, text_scan]
    exact (String.ofList_toList).symm
  · obtain ⟨hm, hslash⟩ := hmem s hs p hp
    exact ⟨hwhole p (hpieces ▸ List.mem_cons_of_mem _ hm), hslash⟩

/-! ### The check and the binding -/

section
variable {template : String} {payload : Dict Json}

lemma isConsumed_iff {name : String} : isConsumed payload name = true ↔ name ≠ "" ∧
    ∃ v, payload.find? name = some v ∧ v.rendered ≠ "." ∧ v.rendered ≠ ".." := by
  by_cases hn : name = ""
  · simp [isConsumed, use, hn]
  cases hv : payload.find? name with
  | none => simp [isConsumed, use, hn, hv]
  | some v =>
    rw [isConsumed, use_of_find? hn hv]
    split_ifs with hd
    · simp only [Option.some.injEq, exists_eq_left', false_iff, not_and]
      exact fun _ hone htwo => hd.elim hone htwo
    · simpa [hn] using not_or.mp hd

/-- Where a placeholder stood there are no braces when a segment took its place, and only then. -/
lemma isBraceless_boundText_iff {name : List Char} :
    IsBraceless (boundText payload (.placeholder name)) ↔
      isConsumed payload (String.ofList name) = true := by
  rw [boundText, isConsumed]
  split
  next segment hu =>
    refine iff_of_true (fun c hc => ?_) rfl
    have hs := isSegmentChar_of_use hu hc
    constructor
    · rintro rfl
      exact absurd hs (by decide)
    · rintro rfl
      exact absurd hs (by decide)
  · refine iff_of_false (fun h => ?_) Bool.false_ne_true
    exact (h '{' List.mem_cons_self).1 rfl

theorem isBraceless_path_iff : IsBraceless (bind template payload).path.toList ↔
    braceProblem? false template.toList = none ∧
      ∀ name ∈ names (pieces template), isConsumed payload name = true := by
  change IsBraceless (String.ofList _).toList ↔ _
  rw [String.toList_ofList, IsBraceless, List.forall_mem_flatMap]
  have hscan := braceProblem?_eq_none_iff_scan none template.toList
  rw [Option.isSome_none] at hscan
  rw [hscan]
  constructor
  · intro h
    refine ⟨fun c hc => h _ hc c (List.mem_singleton_self c), fun name hn => ?_⟩
    have hconsumed := isBraceless_boundText_iff.mp (h _ (mem_names.mp hn))
    rwa [String.ofList_toList] at hconsumed
  · rintro ⟨hliteral, hname⟩ p hp
    cases p with
    | literal c => exact List.forall_mem_singleton.mpr (hliteral c hp)
    | placeholder name =>
      have hn : String.ofList name ∈ names (pieces template) :=
        mem_names.mpr (by rwa [String.toList_ofList])
      exact isBraceless_boundText_iff.mpr (hname _ hn)

lemma unresolved_of_consumed
    (h : ∀ name ∈ names (pieces template), isConsumed payload name = true) :
    (bind template payload).unresolved = [] ∧ (bind template payload).rejected = [] := by
  have huse : ∀ name ∈ names (pieces template), use payload name ≠ .unresolved ∧
      use payload name ≠ .rejected := by
    intro name hn
    have hc := h name hn
    constructor
    · intro hu
      simp [isConsumed, hu] at hc
    · intro hu
      simp [isConsumed, hu] at hc
  constructor
  · exact List.filter_eq_nil_iff.mpr fun name hn => by simpa using (huse name hn).1
  · exact List.filter_eq_nil_iff.mpr fun name hn => by simpa using (huse name hn).2

lemma ne_empty_of_mem_names (h : ¬['{', '}'] <:+: template.toList) {name : String}
    (hn : name ∈ names (pieces template)) : name ≠ "" := by
  rintro rfl
  exact h (mem_names_pieces_iff.mp hn).2

end

/-! ### Templates that are written from parts -/

/-- The pieces of a text that is written from parts. -/
def writtenPieces (first : List Char) (parts : List (List Char × List Char)) : List Piece :=
  first.map .literal ++
    parts.flatMap fun (name, behind) => .placeholder name :: behind.map .literal

lemma mem_writtenPieces {first : List Char} {parts : List (List Char × List Char)} {p : Piece}
    (h : p ∈ writtenPieces first parts) :
    (∃ c ∈ first, p = .literal c) ∨
      ∃ part ∈ parts, p = .placeholder part.1 ∨ ∃ c ∈ part.2, p = .literal c := by
  rcases List.mem_append.mp h with hf | hp
  · obtain ⟨c, hc, rfl⟩ := List.mem_map.mp hf
    exact Or.inl ⟨c, hc, rfl⟩
  · obtain ⟨part, hpart, hp⟩ := List.mem_flatMap.mp hp
    refine Or.inr ⟨part, hpart, (List.mem_cons.mp hp).imp_right fun hb => ?_⟩
    obtain ⟨c, hc, rfl⟩ := List.mem_map.mp hb
    exact ⟨c, hc, rfl⟩

section
variable {template : String} {first : List Char} {parts : List (List Char × List Char)}
  (h : IsWritten template.toList first parts)
include h

lemma pieces_of_isWritten : pieces template = writtenPieces first parts := by
  have hwhole : ∀ p ∈ writtenPieces first parts, p.IsWhole := by
    intro p hp
    obtain ⟨c, hc, rfl⟩ | ⟨part, hpart, rfl | ⟨c, hc, rfl⟩⟩ := mem_writtenPieces hp
    · exact (h.first c hc).1
    · exact h.name part hpart
    · exact (h.behind part hpart c hc).1
  have htext : (writtenPieces first parts).flatMap Piece.text = template.toList := by
    rw [h.text, writtenPieces, List.flatMap_append, flatMap_literal fun _ => rfl,
      List.flatMap_assoc]
    congr 1
    refine List.flatMap_congr fun part _ => ?_
    rw [List.flatMap_cons, flatMap_literal fun _ => rfl]
    simp [Piece.text]
  have hscan := scan_text_append hwhole []
  rw [List.append_nil, htext] at hscan
  rw [pieces, hscan]
  exact List.append_nil _

lemma exists_part_of_mem_names {name : String} (hn : name ∈ names (pieces template)) :
    ∃ part ∈ parts, String.ofList part.1 = name := by
  have hp := mem_names.mp hn
  rw [pieces_of_isWritten h] at hp
  obtain ⟨c, -, hc⟩ | ⟨part, hpart, hname | ⟨c, -, hc⟩⟩ := mem_writtenPieces hp
  · simp at hc
  · exact ⟨part, hpart, by rw [← Piece.placeholder.inj hname, String.ofList_toList]⟩
  · simp at hc

lemma consumed_of_supplies (hnamed : ¬['{', '}'] <:+: template.toList) {payload : Dict Json}
    (hs : Supplies payload parts) :
    ∀ name ∈ names (pieces template), isConsumed payload name = true := by
  intro name hn
  obtain ⟨part, hpart, rfl⟩ := exists_part_of_mem_names h hn
  exact isConsumed_iff.mpr ⟨ne_empty_of_mem_names hnamed hn, hs part hpart⟩

end

lemma exists_supplies (parts : List (List Char × List Char)) :
    ∃ payload : Dict Json, payload.Ascending ∧ Supplies payload parts := by
  suffices h : ∃ payload : Dict Json, payload.Ascending ∧
      ∀ part ∈ parts, payload.find? (String.ofList part.1) = some (.string "x") by
    obtain ⟨payload, hascending, hfind⟩ := h
    exact ⟨payload, hascending,
      fun part hpart => ⟨_, hfind part hpart, (by decide : "x" ≠ "." ∧ "x" ≠ "..")⟩⟩
  induction parts with
  | nil => exact ⟨[], Dict.ascending_nil, by simp⟩
  | cons part parts ih =>
    obtain ⟨payload, hascending, hfind⟩ := ih
    refine ⟨payload.insert (String.ofList part.1) (.string "x"),
      Dict.ascending_insert hascending _ _, List.forall_mem_cons.mpr ⟨?_, fun p hp => ?_⟩⟩
    · rw [Dict.find?_insert, if_pos rfl]
    · rw [Dict.find?_insert, hfind p hp, ite_self]

/-- A template is well-formed exactly when it starts with a slash and is written from parts. As long
as no name is empty, these are the templates that some payload binds to a path without braces. Every
payload that supplies the names does so, and leaves nothing open; what is not well-formed keeps a
brace with every payload. -/
theorem wellFormed_iff_binds (template : String) :
    (problem? template = none ↔ (∃ rest, template.toList = '/' :: rest) ∧
        ∃ first parts, IsWritten template.toList first parts) ∧
      ((∃ rest, template.toList = '/' :: rest) → ¬['{', '}'] <:+: template.toList →
        (problem? template = none ↔ ∃ payload : Dict Json, payload.Ascending ∧
          IsBraceless (bind template payload).path.toList) ∧
        (problem? template = none → ∀ first parts, IsWritten template.toList first parts →
          ∀ payload : Dict Json, Supplies payload parts →
            IsBraceless (bind template payload).path.toList ∧
              (bind template payload).unresolved = [] ∧ (bind template payload).rejected = []) ∧
        (problem? template ≠ none → ∀ payload : Dict Json,
          ¬IsBraceless (bind template payload).path.toList)) := by
  have hwritten : problem? template = none ↔ (∃ rest, template.toList = '/' :: rest) ∧
      ∃ first parts, IsWritten template.toList first parts := by
    rw [problem?_eq_none_iff, braceProblem?_eq_none_iff]
  refine ⟨hwritten, fun hslash hnamed => ?_⟩
  have hproblem : problem? template = none ↔ braceProblem? false template.toList = none :=
    problem?_eq_none_iff.trans (and_iff_right hslash)
  have hbound : problem? template = none → ∀ first parts,
      IsWritten template.toList first parts → ∀ payload : Dict Json, Supplies payload parts →
        IsBraceless (bind template payload).path.toList ∧
          (bind template payload).unresolved = [] ∧ (bind template payload).rejected = [] := by
    intro hp first parts hw payload hs
    have hconsumed := consumed_of_supplies hw hnamed hs
    exact ⟨isBraceless_path_iff.mpr ⟨hproblem.mp hp, hconsumed⟩, unresolved_of_consumed hconsumed⟩
  have hrefused : ∀ payload : Dict Json, IsBraceless (bind template payload).path.toList →
      problem? template = none :=
    fun payload hb => hproblem.mpr (isBraceless_path_iff.mp hb).1
  refine ⟨⟨fun hp => ?_, ?_⟩, hbound, fun hp payload hb => hp (hrefused payload hb)⟩
  · obtain ⟨-, first, parts, hw⟩ := hwritten.mp hp
    obtain ⟨payload, hascending, hs⟩ := exists_supplies parts
    exact ⟨payload, hascending, (hbound hp first parts hw payload hs).1⟩
  · rintro ⟨payload, -, hb⟩
    exact hrefused payload hb

/-! ### A template with two names, and one with a brace too many -/

def reportTemplate : String := "/reports/\x7byear\x7d-\x7bmonth\x7d"

def reportParts : List (List Char × List Char) :=
  [("year".toList, "-".toList), ("month".toList, [])]

def openTemplate : String := "/reports/\x7b\x7byear\x7d"

def reportPayload : Dict Json :=
  [("month", .string "\x7b5\x7d"), ("year", .number (.integer 2024))]

/-- Braces of a value do not get into the path, and one too many in a template stays there. -/
theorem report_binds :
    (∃ rest, reportTemplate.toList = '/' :: rest) ∧ ¬['{', '}'] <:+: reportTemplate.toList ∧
    problem? reportTemplate = none ∧
    IsWritten reportTemplate.toList "/reports/".toList reportParts ∧
    Supplies reportPayload reportParts ∧
    IsBraceless (bind reportTemplate reportPayload).path.toList ∧
    (bind reportTemplate reportPayload).unresolved = [] ∧
    problem? openTemplate ≠ none ∧ ¬IsBraceless (bind openTemplate reportPayload).path.toList := by
  have hslash : ∃ rest, reportTemplate.toList = '/' :: rest := ⟨_, rfl⟩
  have hnamed : ¬['{', '}'] <:+: reportTemplate.toList := by decide +kernel
  have hwritten : IsWritten reportTemplate.toList "/reports/".toList reportParts :=
    ⟨by decide, by decide, by decide, by decide⟩
  have hsupplies : Supplies reportPayload reportParts := by
    have hyear : reportPayload.find? "year" = some (.number (.integer 2024)) := rfl
    have hmonth : reportPayload.find? "month" = some (.string "\x7b5\x7d") := rfl
    exact List.forall_mem_cons.mpr ⟨⟨_, hyear, by decide +kernel⟩,
      List.forall_mem_singleton.mpr ⟨_, hmonth, by decide +kernel⟩⟩
  have hok : problem? reportTemplate = none :=
    (wellFormed_iff_binds reportTemplate).1.mpr ⟨hslash, _, _, hwritten⟩
  have hbound := ((wellFormed_iff_binds reportTemplate).2 hslash hnamed).2.1 hok _ _ hwritten _
    hsupplies
  have hopen : problem? openTemplate ≠ none := by decide +kernel
  have hrefused := ((wellFormed_iff_binds openTemplate).2 ⟨_, rfl⟩ (by decide +kernel)).2.2 hopen
    reportPayload
  exact ⟨hslash, hnamed, hok, hwritten, hsupplies, hbound.1, hbound.2.1, hopen, hrefused⟩

end RestGateway.Template
