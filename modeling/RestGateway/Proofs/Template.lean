import Mathlib
import RestGateway.Template
import RestGateway.Proofs.Form
import RestGateway.Proofs.Url.PathText

/-! A template that is written from pieces is scanned into the same pieces, so that its bound path
is put together segment by segment. A name is rejected for the two values that no segment can
hold. -/
namespace RestGateway.Template

/-! ### Scanning -/

/-- The text of the piece is read as this piece wherever no placeholder is open. -/
def Piece.IsWhole : Piece → Prop
  | literal c => c ≠ '{'
  | placeholder name => ∀ c ∈ name, c ≠ '{' ∧ c ≠ '}'

lemma scan_none_cons {c : Char} (h : c ≠ '{') (rest : List Char) :
    scan none (c :: rest) = .literal c :: scan none rest := by
  rw [scan]
  exact fun hc => h hc

lemma scan_some_cons {c : Char} (ho : c ≠ '{') (hc : c ≠ '}') (opened rest : List Char) :
    scan (some opened) (c :: rest) = scan (some (opened ++ [c])) rest := by
  rw [scan]
  · exact fun h => ho h
  · exact fun h => hc h

lemma scan_some_append {name : List Char} (h : ∀ c ∈ name, c ≠ '{' ∧ c ≠ '}')
    (opened rest : List Char) :
    scan (some opened) (name ++ '}' :: rest) = .placeholder (opened ++ name) :: scan none rest := by
  induction name generalizing opened with
  | nil => simp [scan]
  | cons c name ih =>
    -- the part of the name that has been read grows by one character
    obtain ⟨⟨ho, hc⟩, hname⟩ := List.forall_mem_cons.mp h
    rw [List.cons_append, scan_some_cons ho hc, ih hname]
    simp

lemma scan_piece_append {p : Piece} (h : p.IsWhole) (rest : List Char) :
    scan none (p.text ++ rest) = p :: scan none rest := by
  cases p with
  | literal c => exact scan_none_cons h rest
  | placeholder name =>
    have hs := scan_some_append h [] rest
    simpa [Piece.text, scan, literals] using hs

theorem scan_text_append {ps : List Piece} (h : ∀ p ∈ ps, p.IsWhole) (rest : List Char) :
    scan none (ps.flatMap Piece.text ++ rest) = ps ++ scan none rest := by
  induction ps with
  | nil => rfl
  | cons p ps ih =>
    obtain ⟨hp, hps⟩ := List.forall_mem_cons.mp h
    rw [List.flatMap_cons, List.append_assoc, scan_piece_append hp, ih hps, List.cons_append]

lemma flatMap_literal {f : Piece → List Char} (hf : ∀ c, f (.literal c) = [c]) (cs : List Char) :
    (cs.map Piece.literal).flatMap f = cs := by
  rw [List.flatMap_map]
  simp only [hf]
  exact List.flatMap_singleton' cs

/-! ### Templates by their segments -/

/-- The pieces of a template with the given segments, each of them after a slash. -/
def joinPieces (segments : List (List Piece)) : List Piece :=
  segments.flatMap (.literal '/' :: ·)

def ofSegments (segments : List (List Piece)) : String :=
  String.ofList ((joinPieces segments).flatMap Piece.text)

theorem pieces_ofSegments {segments : List (List Piece)}
    (h : ∀ segment ∈ segments, ∀ p ∈ segment, p.IsWhole) :
    pieces (ofSegments segments) = joinPieces segments := by
  have hw : ∀ p ∈ joinPieces segments, p.IsWhole := by
    intro p hp
    obtain ⟨segment, hs, hm⟩ := List.mem_flatMap.mp hp
    rcases List.mem_cons.mp hm with rfl | hm
    · exact (by decide : '/' ≠ '{')
    · exact h segment hs p hm
  have hs := scan_text_append hw []
  rw [pieces, ofSegments, String.toList_ofList]
  simpa [scan, literals] using hs

lemma flatMap_joinPieces {f : Piece → List Char} (hf : f (.literal '/') = ['/'])
    (segments : List (List Piece)) :
    (joinPieces segments).flatMap f = (Url.Path.segments (segments.map (·.flatMap f))).text := by
  induction segments with
  | nil => rfl
  | cons segment segments ih =>
    rw [joinPieces] at ih ⊢
    rw [List.flatMap_cons, List.flatMap_append, ih, List.flatMap_cons, hf, List.map_cons,
      Url.text_cons]
    simp

theorem bind_path_ofSegments {segments : List (List Piece)}
    (h : ∀ segment ∈ segments, ∀ p ∈ segment, p.IsWhole) (payload : Dict Json) :
    (bind (ofSegments segments) payload).path.toList =
      (Url.Path.segments (segments.map (·.flatMap (boundText payload)))).text := by
  change (String.ofList _).toList = _
  rw [String.toList_ofList, pieces_ofSegments h, flatMap_joinPieces rfl]

theorem bind_path_append {start : String} (h : '{' ∉ start.toList) (rest : String)
    (payload : Dict Json) :
    (bind (start ++ rest) payload).path.toList =
      start.toList ++ (bind rest payload).path.toList := by
  have hw : ∀ p ∈ start.toList.map Piece.literal, p.IsWhole := by
    rw [List.forall_mem_map]
    rintro c hc rfl
    exact h hc
  have hbound := flatMap_literal (f := boundText payload) (fun _ => rfl) start.toList
  have hs := scan_text_append hw rest.toList
  rw [flatMap_literal fun _ => rfl, ← String.toList_append] at hs
  change (String.ofList _).toList = _ ++ (String.ofList _).toList
  rw [String.toList_ofList, String.toList_ofList, pieces, hs, List.flatMap_append, hbound]
  rfl

/-! ### Names -/

lemma mem_names {ps : List Piece} {name : String} :
    name ∈ names ps ↔ Piece.placeholder name.toList ∈ ps := by
  unfold names
  rw [List.mem_filterMap]
  constructor
  · rintro ⟨p, hp, he⟩
    cases p with
    | literal c => simp at he
    | placeholder n =>
      rw [← Option.some.inj he, String.toList_ofList]
      exact hp
  · intro hp
    exact ⟨_, hp, by simp⟩

lemma use_of_find? {payload : Dict Json} {name : String} {v : Json} (hn : name ≠ "")
    (hv : payload.find? name = some v) :
    use payload name = if v.rendered = "." ∨ v.rendered = ".." then .rejected
      else .consumed (Form.encode (Percent.escape 0x20) v.rendered) := by
  unfold use
  rw [if_neg (by simpa using hn), hv]
  dsimp only
  unfold Form.segment?
  split_ifs <;> rfl

lemma use_eq_rejected_iff {payload : Dict Json} {name : String} :
    use payload name = .rejected ↔ name ≠ "" ∧
      ∃ v, payload.find? name = some v ∧ (v.rendered = "." ∨ v.rendered = "..") := by
  by_cases hn : name = ""
  · subst hn
    simp [use]
  · cases hv : payload.find? name with
    | none => simp [use, hn, hv]
    | some v =>
      rw [use_of_find? hn hv]
      split_ifs with h <;> simp [hn, h]

/-- A template binds unless a value would be one of the two segments that name a place. -/
theorem bind_rejected_eq_nil_iff {template : String} {payload : Dict Json} :
    (bind template payload).rejected = [] ↔
      ∀ name ∈ names (pieces template), use payload name ≠ .rejected := by
  change List.filter _ _ = [] ↔ _
  rw [List.filter_eq_nil_iff]
  simp

/-! ### The slash at the start -/

lemma braceProblem?_cons {c : Char} (h : c ≠ '{' ∧ c ≠ '}') (inside : Bool) (cs : List Char) :
    braceProblem? inside (c :: cs) = braceProblem? inside cs := by
  rw [braceProblem?, if_neg h.1, if_neg h.2]

lemma problem?_eq_none_iff {template : String} : problem? template = none ↔
    (∃ rest, template.toList = '/' :: rest) ∧ braceProblem? false template.toList = none := by
  unfold problem?
  split
  next rest hr =>
    rw [hr, braceProblem?_cons (by decide)]
    simp
  next hne =>
    simp only [reduceCtorEq, false_iff, not_and, forall_exists_index]
    exact fun rest hr => absurd hr (hne rest)

lemma bind_path_of_slash {template : String} {rest : List Char}
    (h : template.toList = '/' :: rest) (payload : Dict Json) :
    (bind template payload).path.toList = '/' :: (scan none rest).flatMap (boundText payload) := by
  change (String.ofList _).toList = _
  rw [String.toList_ofList, pieces, h, scan_none_cons (by decide)]
  rfl

/-! ### The text of pieces -/

/-- The text of a brace that is open, and of what follows it. -/
def openText : Option (List Char) → List Char
  | none => []
  | some name => '{' :: name

lemma text_literals (opened : Option (List Char)) :
    (literals opened).flatMap Piece.text = openText opened := by
  cases opened with
  | none => rfl
  | some name =>
    rw [literals, List.flatMap_cons, flatMap_literal fun _ => rfl]
    rfl

/-- Scanning loses no character. -/
theorem text_scan (opened : Option (List Char)) (cs : List Char) :
    (scan opened cs).flatMap Piece.text = openText opened ++ cs := by
  induction cs generalizing opened with
  | nil => simp [scan, text_literals]
  | cons c cs ih =>
    by_cases ho : c = '{'
    · subst ho
      rw [scan, List.flatMap_append, text_literals, ih]
      rfl
    cases opened with
    | none =>
      rw [scan_none_cons ho, List.flatMap_cons, ih]
      rfl
    | some name =>
      by_cases hc : c = '}'
      · subst hc
        simp [scan, ih, Piece.text, openText]
      · rw [scan_some_cons ho hc, ih]
        simp [openText]

end RestGateway.Template
