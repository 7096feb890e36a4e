import Mathlib
import RestGateway.Proofs.Braces

/-! Every text, well-formed or not, has one split into literal text and the names between braces
that stand in it. Binding copies the literal text, and puts the segment of a value in the place of
its name and braces. -/
namespace RestGateway.Template

/-- Some name without braces stands between braces in the text. -/
def HasPlaceholder (cs : List Char) : Prop :=
  ∃ name, IsBraceless name ∧ '{' :: (name ++ ['}']) <:+: cs

/-- Literal text, and then names between braces, each of them with literal text behind it. -/
def joined (first : List Char) (parts : List (List Char × List Char)) : List Char :=
  first ++ parts.flatMap fun (name, behind) => '{' :: (name ++ '}' :: behind)

/-- The text is joined from the parts, and none of its literal text has a placeholder in it. -/
structure IsSplit (cs first : List Char) (parts : List (List Char × List Char)) : Prop where
  text : cs = joined first parts
  first : ¬HasPlaceholder first
  name : ∀ part ∈ parts, IsBraceless part.1
  behind : ∀ part ∈ parts, ¬HasPlaceholder part.2

/-- What stands in the path for a name between braces. -/
def replacement (payload : Dict Json) (name : List Char) : List Char :=
  match payload.find? (String.ofList name) with
  | none => '{' :: (name ++ ['}'])
  | some v =>
    if name = [] ∨ v.rendered = "." ∨ v.rendered = ".." then '{' :: (name ++ ['}'])
    else Form.encode (Percent.escape 0x20) v.rendered

/-! ### Texts with and without placeholders -/

lemma hasPlaceholder_iff {cs : List Char} :
    HasPlaceholder cs ↔ ∃ name, .placeholder name ∈ scan none cs := by
  have hocc (name : List Char) : .placeholder name ∈ scan none cs ↔
      IsBraceless name ∧ '{' :: (name ++ ['}']) <:+: cs := by
    have h := @mem_names_pieces_iff (String.ofList cs) (String.ofList name)
    rwa [mem_names, pieces, Occurs, String.toList_ofList, String.toList_ofList] at h
  exact exists_congr fun name => (hocc name).symm

lemma hasPlaceholder_iff_names {cs : List Char} :
    HasPlaceholder cs ↔ names (scan none cs) ≠ [] := by
  rw [hasPlaceholder_iff]
  constructor
  · rintro ⟨name, hname⟩
    have hmem : String.ofList name ∈ names (scan none cs) :=
      mem_names.mpr (by rwa [String.toList_ofList])
    exact List.ne_nil_of_mem hmem
  · intro hne
    obtain ⟨name, hmem⟩ := List.exists_mem_of_ne_nil _ hne
    exact ⟨name.toList, mem_names.mp hmem⟩

instance (cs : List Char) : Decidable (HasPlaceholder cs) :=
  decidable_of_iff _ hasPlaceholder_iff_names.symm

lemma eq_map_literal {ps : List Piece} (h : ∀ name, .placeholder name ∉ ps) :
    ps = (ps.flatMap Piece.text).map .literal := by
  induction ps with
  | nil => rfl
  | cons p ps ih =>
    cases p with
    | literal c =>
      have hps := ih fun name hname => h name (List.mem_cons_of_mem _ hname)
      rw [List.flatMap_cons, Piece.text, List.map_append, ← hps]
      rfl
    | placeholder name => exact absurd List.mem_cons_self (h name)

/-- Text without a placeholder is literal, whatever braces it has. -/
lemma scan_of_not_hasPlaceholder {cs : List Char} (h : ¬HasPlaceholder cs) :
    scan none cs = cs.map .literal := by
  have hnone : ∀ name, .placeholder name ∉ scan none cs :=
    fun name hname => h (hasPlaceholder_iff.mpr ⟨name, hname⟩)
  have htext := text_scan none cs
  rw [openText, List.nil_append] at htext
  rw [eq_map_literal hnone, htext]

/-! ### The split of a text -/

lemma joined_cons (first : List Char) (part : List Char × List Char)
    (parts : List (List Char × List Char)) :
    joined first (part :: parts) = first ++ '{' :: (part.1 ++ '}' :: joined part.2 parts) := by
  simp [joined]

lemma joined_append (first : List Char) (parts : List (List Char × List Char))
    (name behind : List Char) (later : List (List Char × List Char)) :
    joined first (parts ++ (name, behind) :: later) =
      joined first parts ++ '{' :: (name ++ '}' :: joined behind later) := by
  simp [joined]

lemma scan_joined {first : List Char} {parts : List (List Char × List Char)}
    (hfirst : ¬HasPlaceholder first) (hname : ∀ part ∈ parts, IsBraceless part.1)
    (hbehind : ∀ part ∈ parts, ¬HasPlaceholder part.2) :
    scan none (joined first parts) = writtenPieces first parts := by
  induction parts generalizing first with
  | nil => simpa [joined, writtenPieces] using scan_of_not_hasPlaceholder hfirst
  | cons part parts ih =>
    obtain ⟨hn, hnames⟩ := List.forall_mem_cons.mp hname
    obtain ⟨hb, hbehinds⟩ := List.forall_mem_cons.mp hbehind
    rw [joined_cons, scan_append_placeholder hn, scan_of_not_hasPlaceholder hfirst,
      ih hb hnames hbehinds]
    simp [writtenPieces]

lemma IsSplit.scan_eq {cs first : List Char} {parts : List (List Char × List Char)}
    (h : IsSplit cs first parts) : scan none cs = writtenPieces first parts := by
  rw [h.text, scan_joined h.first h.name h.behind]

lemma IsSplit.append {before after first₁ first₂ name : List Char}
    {parts₁ parts₂ : List (List Char × List Char)} (h₁ : IsSplit before first₁ parts₁)
    (hname : IsBraceless name) (h₂ : IsSplit after first₂ parts₂) :
    IsSplit (before ++ '{' :: (name ++ '}' :: after)) first₁
      (parts₁ ++ (name, first₂) :: parts₂) where
  text := by rw [joined_append, ← h₁.text, ← h₂.text]
  first := h₁.first
  name := List.forall_mem_append.mpr ⟨h₁.name, List.forall_mem_cons.mpr ⟨hname, h₂.name⟩⟩
  behind :=
    List.forall_mem_append.mpr ⟨h₁.behind, List.forall_mem_cons.mpr ⟨h₂.first, h₂.behind⟩⟩

/-- What is around any one placeholder is shorter than the text, and has a split of its own. -/
theorem exists_isSplit (cs : List Char) : ∃ first parts, IsSplit cs first parts := by
  induction hn : cs.length using Nat.strong_induction_on generalizing cs with
  | _ n ih =>
    by_cases hp : HasPlaceholder cs
    · obtain ⟨name, hname, before, after, rfl⟩ := hp
      simp only [List.length_append, List.length_cons] at hn
      obtain ⟨first₁, parts₁, h₁⟩ := ih before.length (by omega) before rfl
      obtain ⟨first₂, parts₂, h₂⟩ := ih after.length (by omega) after rfl
      have h := h₁.append hname h₂
      exact ⟨first₁, _, by simpa using h⟩
    · exact ⟨cs, [], (List.append_nil cs).symm, hp, by simp, by simp⟩

lemma map_literal_append_inj {cs cs' : List Char} {ps ps' : List Piece}
    (hps : ∀ c, ps.head? ≠ some (.literal c)) (hps' : ∀ c, ps'.head? ≠ some (.literal c))
    (h : cs.map .literal ++ ps = cs'.map .literal ++ ps') : cs = cs' ∧ ps = ps' := by
  induction cs generalizing cs' with
  | nil =>
    cases cs' with
    | nil => exact ⟨rfl, h⟩
    | cons c' cs' => exact absurd (congrArg List.head? h) (hps c')
  | cons c cs ih =>
    cases cs' with
    | nil => exact absurd (congrArg List.head? h).symm (hps' c)
    | cons c' cs' =>
      simp only [List.map_cons, List.cons_append, List.cons.injEq, Piece.literal.injEq] at h
      obtain ⟨hcs, hrest⟩ := ih h.2
      exact ⟨by rw [h.1, hcs], hrest⟩

/-- The pieces tell where each literal text ends: at the next placeholder. -/
lemma writtenPieces_inj {first first' : List Char} {parts parts' : List (List Char × List Char)}
    (h : writtenPieces first parts = writtenPieces first' parts') :
    first = first' ∧ parts = parts' := by
  have hhead (parts : List (List Char × List Char)) (c : Char) :
      (parts.flatMap fun (name, behind) =>
        Piece.placeholder name :: behind.map Piece.literal).head? ≠ some (.literal c) := by
    cases parts <;> simp
  induction parts generalizing first first' parts' with
  | nil =>
    obtain ⟨hfirst, hrest⟩ := map_literal_append_inj (hhead _) (hhead _) h
    cases parts' with
    | nil => exact ⟨hfirst, rfl⟩
    | cons part' parts' => simp at hrest
  | cons part parts ih =>
    obtain ⟨hfirst, hrest⟩ := map_literal_append_inj (hhead _) (hhead _) h
    cases parts' with
    | nil => simp at hrest
    | cons part' parts' =>
      simp only [List.flatMap_cons, List.cons_append, List.cons.injEq,
        Piece.placeholder.injEq] at hrest
      obtain ⟨hbehind, hparts⟩ := ih hrest.2
      exact ⟨hfirst, by rw [hparts, Prod.ext hrest.1 hbehind]⟩

theorem IsSplit.unique {cs first first' : List Char} {parts parts' : List (List Char × List Char)}
    (h : IsSplit cs first parts) (h' : IsSplit cs first' parts') :
    first = first' ∧ parts = parts' :=
  writtenPieces_inj (h.scan_eq.symm.trans h'.scan_eq)

/-- A name between braces is one of the parts, wherever it stands. -/
theorem IsSplit.exists_part {cs first before name after : List Char}
    {parts : List (List Char × List Char)} (h : IsSplit cs first parts) (hname : IsBraceless name)
    (hcs : cs = before ++ '{' :: (name ++ '}' :: after)) :
    ∃ earlier behind later, parts = earlier ++ (name, behind) :: later ∧
      before = joined first earlier ∧ after = joined behind later := by
  obtain ⟨first₁, parts₁, h₁⟩ := exists_isSplit before
  obtain ⟨first₂, parts₂, h₂⟩ := exists_isSplit after
  obtain ⟨rfl, rfl⟩ := h.unique (hcs ▸ h₁.append hname h₂)
  exact ⟨parts₁, first₂, parts₂, rfl, h₁.text, h₂.text⟩

/-! ### The bound path -/

lemma boundText_placeholder (payload : Dict Json) (name : List Char) :
    boundText payload (.placeholder name) = replacement payload name := by
  rw [boundText, replacement]
  by_cases hn : name = []
  · subst hn
    cases payload.find? (String.ofList []) <;> simp [use, Piece.text]
  have hne : String.ofList name ≠ "" := by simpa using hn
  cases hv : payload.find? (String.ofList name) with
  | none => simp [use, hn, hv, Piece.text]
  | some v =>
    rw [use_of_find? hne hv]
    by_cases hd : v.rendered = "." ∨ v.rendered = ".."
    · simp [hd, Piece.text]
    · simp [hd, hn]

lemma flatMap_writtenPieces (payload : Dict Json) (first : List Char)
    (parts : List (List Char × List Char)) :
    (writtenPieces first parts).flatMap (boundText payload) =
      first ++ parts.flatMap fun (name, behind) => replacement payload name ++ behind := by
  have hliteral (cs : List Char) : (cs.map Piece.literal).flatMap (boundText payload) = cs :=
    flatMap_literal (fun _ => rfl) cs
  rw [writtenPieces, List.flatMap_append, hliteral, List.flatMap_assoc]
  congr 1
  refine List.flatMap_congr fun part _ => ?_
  rw [List.flatMap_cons, hliteral, boundText_placeholder]

lemma IsSplit.bind_path {template : String} {first : List Char}
    {parts : List (List Char × List Char)} (h : IsSplit template.toList first parts)
    (payload : Dict Json) : (bind template payload).path.toList =
      first ++ parts.flatMap fun (name, behind) => replacement payload name ++ behind := by
  change (String.ofList _).toList = _
  rw [String.toList_ofList, pieces, h.scan_eq, flatMap_writtenPieces]

/-- Every template has exactly one split, and each name between braces is a part of it. With every
payload its path is the literal text of the split as it is, with the segment of its value in the
place of each name that has one. What the payload has under other keys does not matter. -/
theorem bind_path_of_split (template : String) :
    ∃ first parts, IsSplit template.toList first parts ∧
      (∀ first' parts', IsSplit template.toList first' parts' →
        first' = first ∧ parts' = parts) ∧
      (∀ before name after, IsBraceless name →
        template.toList = before ++ '{' :: (name ++ '}' :: after) →
          ∃ earlier behind later, parts = earlier ++ (name, behind) :: later ∧
            before = joined first earlier ∧ after = joined behind later) ∧
      (∀ payload : Dict Json, (bind template payload).path.toList =
        first ++ parts.flatMap fun (name, behind) => replacement payload name ++ behind) ∧
      ∀ payload payload' : Dict Json,
        (∀ part ∈ parts, part.1 ≠ [] →
          payload.find? (String.ofList part.1) = payload'.find? (String.ofList part.1)) →
        (bind template payload).path = (bind template payload').path := by
  obtain ⟨first, parts, h⟩ := exists_isSplit template.toList
  refine ⟨first, parts, h, fun first' parts' h' => h'.unique h,
    fun before name after hname ht => h.exists_part hname ht, h.bind_path,
    fun payload payload' hsame => ?_⟩
  have hparts : ∀ part ∈ parts, replacement payload part.1 ++ part.2 =
      replacement payload' part.1 ++ part.2 := by
    intro part hpart
    by_cases hn : part.1 = []
    · -- the entry of the empty name may differ, but takes no place
      have hempty (payload : Dict Json) : replacement payload [] = ['{', '}'] := by
        rw [replacement]
        split <;> simp
      rw [hn, hempty, hempty]
    · rw [replacement, replacement, hsame part hpart hn]
  apply String.toList_injective
  rw [h.bind_path, h.bind_path]
  exact congrArg (first ++ ·) (List.flatMap_congr hparts)

/-! ### A template with braces of every kind -/

def tangledTemplate : String := "/a\x7b\x7bid\x7d\x7d/\x7b\x7d/\x7bdir\x7d/\x7bopen"

def tangledParts : List (List Char × List Char) :=
  [("id".toList, "\x7d/".toList), ([], "/".toList), ("dir".toList, "/\x7bopen".toList)]

def tangledPayload : Dict Json :=
  [("", .string "e"), ("dir", .string ".."), ("id", .string "\x7bdir\x7d"), ("open", .null)]

/-- Of the names between braces only the first has a segment for a value; the text of that value
has a name between braces itself, which is not looked up. -/
theorem tangled_path :
    IsSplit tangledTemplate.toList "/a\x7b".toList tangledParts ∧
    (∃ earlier behind later, tangledParts = earlier ++ ("id".toList, behind) :: later ∧
      "/a\x7b".toList = joined "/a\x7b".toList earlier ∧
      "\x7d/\x7b\x7d/\x7bdir\x7d/\x7bopen".toList = joined behind later) ∧
    (bind tangledTemplate tangledPayload).path =
      "/a\x7b%7Bdir%7D\x7d/\x7b\x7d/\x7bdir\x7d/\x7bopen" ∧
    (bind tangledTemplate tangledPayload).path =
      (bind tangledTemplate (tangledPayload.without ["", "open"])).path := by
  obtain ⟨first, parts, -, hunique, hpart, hpath, hsame⟩ := bind_path_of_split tangledTemplate
  have hsplit : IsSplit tangledTemplate.toList "/a\x7b".toList tangledParts :=
    ⟨by decide, by decide, by decide, by decide⟩
  obtain ⟨rfl, rfl⟩ := hunique _ _ hsplit
  have hagree : ∀ part ∈ tangledParts, part.1 ≠ [] →
      tangledPayload.find? (String.ofList part.1) =
        (tangledPayload.without ["", "open"]).find? (String.ofList part.1) := by
    intro part hp hn
    simp only [tangledParts, List.mem_cons, List.not_mem_nil, or_false] at hp
    rcases hp with rfl | rfl | rfl
    · rfl
    · exact absurd rfl hn
    · rfl
  refine ⟨hsplit, hpart _ _ _ (by decide) (by decide), ?_, hsame _ _ hagree⟩
  apply String.toList_injective
  rw [hpath]
  decide

end RestGateway.Template
