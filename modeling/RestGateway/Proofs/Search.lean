import Mathlib
import RestGateway.Proofs.Splitting

/-! Placeholders can also be looked for brace by brace, by cutting the text at the byte where the
next brace stands. No cut falls between the bytes of a character, and the pieces are the same as
those of the scanner, so binding can go along with the search. -/
namespace RestGateway.Template

/-! ### Offsets in bytes -/

/-- How many bytes stand before the first place of a character. -/
def offset? (c : Char) : List Char → Option Nat
  | [] => none
  | d :: cs => if d = c then some 0 else (offset? c cs).map (d.utf8Size + ·)

/-- The text before a byte and the text from it on; none when it is no first byte of a character
and not the end either. -/
def cut? : List Char → Nat → Option (List Char × List Char)
  | cs, 0 => some ([], cs)
  | [], _ + 1 => none
  | c :: cs, n + 1 =>
    if c.utf8Size ≤ n + 1 then
      (cut? cs (n + 1 - c.utf8Size)).map fun (before, after) => (c :: before, after)
    else none

def byteLength (cs : List Char) : Nat := (cs.map Char.utf8Size).sum

lemma cut?_append (before after : List Char) :
    cut? (before ++ after) (byteLength before) = some (before, after) := by
  induction before with
  | nil => cases after <;> rfl
  | cons c before ih =>
    obtain ⟨n, hn⟩ : ∃ n, c.utf8Size = n + 1 := Nat.exists_eq_add_one.mpr c.utf8Size_pos
    have hlen : byteLength (c :: before) = n + byteLength before + 1 := by
      rw [byteLength, List.map_cons, List.sum_cons, hn, ← byteLength]
      omega
    have hrest : n + byteLength before + 1 - c.utf8Size = byteLength before := by omega
    rw [List.cons_append, hlen, cut?, if_pos (by omega), hrest, ih]
    rfl

lemma offset?_of_notMem {c : Char} {cs : List Char} (h : c ∉ cs) : offset? c cs = none := by
  induction cs with
  | nil => rfl
  | cons d cs ih =>
    obtain ⟨hd, hcs⟩ := List.ne_and_not_mem_of_not_mem_cons h
    rw [offset?, if_neg (Ne.symm hd), ih hcs]
    rfl

lemma offset?_append {c : Char} {before : List Char} (h : c ∉ before) (after : List Char) :
    offset? c (before ++ c :: after) = some (byteLength before) := by
  induction before with
  | nil => simp [offset?, byteLength]
  | cons d before ih =>
    obtain ⟨hd, hbefore⟩ := List.ne_and_not_mem_of_not_mem_cons h
    rw [List.cons_append, offset?, if_neg (Ne.symm hd), ih hbefore]
    simp [byteLength]

lemma exists_first {c : Char} {cs : List Char} (h : c ∈ cs) :
    ∃ before after, cs = before ++ c :: after ∧ c ∉ before := by
  obtain ⟨before, after, hcs, hnot⟩ := List.eq_append_cons_of_mem h
  exact ⟨before, after, hcs, hnot⟩

lemma cut?_behind {c : Char} (hc : c.utf8Size = 1) (before after : List Char) :
    cut? (before ++ c :: after) (byteLength before + 1) = some (before ++ [c], after) := by
  have h := cut?_append (before ++ [c]) after
  have hlen : byteLength (before ++ [c]) = byteLength before + 1 := by
    simp [byteLength, hc]
  rwa [hlen, List.append_assoc, List.singleton_append] at h

/-! ### Looking for braces -/

/-- The pieces up to the next close brace that ends a name or gives back what follows an open brace,
and the text with which to go on, if that is not all. None when a cut goes wrong. -/
def turn? (rest : List Char) : Option (List Piece × Option (List Char)) :=
  match offset? '{' rest with
  | none => some (rest.map .literal, none)
  | some start => do
    let (before, tail) ← cut? rest start
    let (_, after) ← cut? rest (start + 1)
    match offset? '}' after with
    | none => return (before.map .literal ++ tail.map .literal, none)
    | some stop =>
      let (name, _) ← cut? after stop
      if '{' ∈ name then
        return (before.map .literal ++ [.literal '{'], some after)
      else
        let (_, behind) ← cut? after (stop + 1)
        return (before.map .literal ++ [.placeholder name], some behind)

lemma turn?_of_no_open {cs : List Char} (h : '{' ∉ cs) :
    turn? cs = some (cs.map .literal, none) := by
  rw [turn?, offset?_of_notMem h]

section
variable {before : List Char} (hbefore : '{' ∉ before)
include hbefore

lemma turn?_of_no_close {after : List Char} (hafter : '}' ∉ after) :
    turn? (before ++ '{' :: after) = some ((before ++ '{' :: after).map .literal, none) := by
  have hbehind := cut?_behind (c := '{') rfl before after
  simp [turn?, offset?_append hbefore, offset?_of_notMem hafter, cut?_append, hbehind]

variable {name : List Char} (hname : '}' ∉ name) (behind : List Char)
include hname

lemma turn?_of_nested (hopen : '{' ∈ name) :
    turn? (before ++ '{' :: (name ++ '}' :: behind)) =
      some (before.map .literal ++ [.literal '{'], some (name ++ '}' :: behind)) := by
  have hafter := cut?_behind (c := '{') rfl before (name ++ '}' :: behind)
  simp [turn?, offset?_append hbefore, offset?_append hname, cut?_append, hafter, hopen]

lemma turn?_of_name (hopen : '{' ∉ name) :
    turn? (before ++ '{' :: (name ++ '}' :: behind)) =
      some (before.map .literal ++ [.placeholder name], some behind) := by
  have hafter := cut?_behind (c := '{') rfl before (name ++ '}' :: behind)
  have hbehind := cut?_behind (c := '}') rfl name behind
  simp [turn?, offset?_append hbefore, offset?_append hname, cut?_append, hafter, hbehind, hopen]

end

/-! ### What is found -/

lemma scan_of_no_close {cs : List Char} (h : '}' ∉ cs) (opened : Option (List Char)) :
    scan opened cs = literals opened ++ cs.map .literal := by
  induction cs generalizing opened with
  | nil => simp [scan]
  | cons c cs ih =>
    obtain ⟨hc, hcs⟩ := List.ne_and_not_mem_of_not_mem_cons h
    by_cases ho : c = '{'
    · rw [ho, scan, ih hcs]
      rfl
    cases opened with
    | none =>
      rw [scan_none_cons ho, ih hcs]
      rfl
    | some name =>
      rw [scan_some_cons ho (Ne.symm hc), ih hcs]
      simp [literals]

/-- When another brace opens before the name ends, the first brace is all that is given up. -/
lemma scan_of_nested {name : List Char} (hname : '}' ∉ name) (hopen : '{' ∈ name)
    (rest : List Char) :
    scan (some []) (name ++ rest) = .literal '{' :: scan none (name ++ rest) := by
  obtain ⟨front, back, rfl, -⟩ := exists_first hopen
  have hfront : '}' ∉ front := fun hm => hname (List.mem_append_left _ hm)
  rw [List.append_assoc, List.cons_append, scan_append_open, scan_append_open,
    scan_of_no_close hfront, scan_of_no_close hfront]
  rfl

/-- A turn succeeds, finds what the scanner finds, and has less text to go on with. -/
theorem exists_turn (cs : List Char) : ∃ ps rest?, turn? cs = some (ps, rest?) ∧
    scan none cs = ps ++ rest?.elim [] (scan none) ∧ ∀ rest ∈ rest?, rest.length < cs.length := by
  have hliteral {text : List Char} (h : '{' ∉ text) : scan none text = text.map .literal := by
    refine scan_of_not_hasPlaceholder fun ⟨name, _, hname⟩ => ?_
    exact h (hname.subset List.mem_cons_self)
  by_cases hopen : '{' ∈ cs
  · obtain ⟨before, after, rfl, hbefore⟩ := exists_first hopen
    have hscan := scan_append_open none before after
    rw [hliteral hbefore] at hscan
    by_cases hclose : '}' ∈ after
    · obtain ⟨name, behind, rfl, hname⟩ := exists_first hclose
      by_cases hnested : '{' ∈ name
      · refine ⟨_, _, turn?_of_nested hbefore hname behind hnested, ?_, by simp; omega⟩
        rw [hscan, scan_of_nested hname hnested]
        simp
      · have hbraceless : IsBraceless name := by
          intro c hc
          exact ⟨fun h => hnested (h ▸ hc), fun h => hname (h ▸ hc)⟩
        refine ⟨_, _, turn?_of_name hbefore hname behind hnested, ?_, by simp; omega⟩
        rw [hscan, scan_some_append hbraceless]
        simp
    · refine ⟨_, _, turn?_of_no_close hbefore hclose, ?_, by simp⟩
      rw [hscan, scan_of_no_close hclose]
      simp [literals]
  · refine ⟨_, _, turn?_of_no_open hopen, ?_, by simp⟩
    rw [hliteral hopen]
    simp

lemma length_lt_of_turn? {cs rest : List Char} {ps : List Piece}
    (h : turn? cs = some (ps, some rest)) : rest.length < cs.length := by
  obtain ⟨_, _, hturn, -, hlt⟩ := exists_turn cs
  rw [h, Option.some.injEq, Prod.mk.injEq] at hturn
  exact hlt rest hturn.2.symm

/-- The pieces of a text, turn after turn. -/
def search? (cs : List Char) : Option (List Piece) :=
  match h : turn? cs with
  | none => none
  | some (ps, none) => some ps
  | some (ps, some rest) =>
    have _hlt := length_lt_of_turn? h
    (search? rest).map (ps ++ ·)
termination_by cs.length

/-- Looking brace by brace never cuts inside a character, and finds what the scanner finds. -/
theorem search?_eq_scan (cs : List Char) : search? cs = some (scan none cs) := by
  induction hn : cs.length using Nat.strong_induction_on generalizing cs with
  | _ n ih =>
    obtain ⟨ps, rest?, hturn, hscan, hlt⟩ := exists_turn cs
    rw [search?, hscan]
    cases rest? with
    | none => split <;> simp_all
    | some rest =>
      have hrest := ih rest.length (hn ▸ hlt rest rfl) rest rfl
      split <;> simp_all

/-! ### Binding along the way -/

/-- What is bound so far: the path, the names whose values are in it, and the others. -/
structure Progress where
  path : List Char := []
  used : List String := []
  unresolved : List String := []
  rejected : List String := []

namespace Progress

def push (b : Progress) (text : List Char) : Progress := { b with path := b.path ++ text }

/-- A name is looked up, and stays in the path as it stands if nothing can take its place. -/
def take (payload : Dict Json) (b : Progress) : Piece → Progress
  | .literal c => b.push [c]
  | .placeholder cs =>
    let name := String.ofList cs
    let value? := if name.isEmpty then none else payload.find? name
    match value?.bind fun value => Form.segment? value.rendered with
    | some segment => { b.push segment with used := b.used ++ [name] }
    | none =>
      let b := b.push (Piece.placeholder cs).text
      if name.isEmpty then b
      else if payload.contains name then { b with rejected := b.rejected ++ [name] }
      else { b with unresolved := b.unresolved ++ [name] }

def bound (payload : Dict Json) (b : Progress) : Bound where
  path := String.ofList b.path
  remaining := payload.without b.used
  unresolved := b.unresolved
  rejected := b.rejected

end Progress

/-- Bind a text turn after turn. None when a cut goes wrong. -/
def bindLoop? (payload : Dict Json) (b : Progress) (cs : List Char) : Option Progress :=
  match h : turn? cs with
  | none => none
  | some (ps, none) => some (ps.foldl (Progress.take payload) b)
  | some (ps, some rest) =>
    have _hlt := length_lt_of_turn? h
    bindLoop? payload (ps.foldl (Progress.take payload) b) rest
termination_by cs.length

lemma bindLoop?_eq_foldl (payload : Dict Json) (b : Progress) (cs : List Char) :
    bindLoop? payload b cs = some ((scan none cs).foldl (Progress.take payload) b) := by
  induction hn : cs.length using Nat.strong_induction_on generalizing b cs with
  | _ n ih =>
    obtain ⟨ps, rest?, hturn, hscan, hlt⟩ := exists_turn cs
    rw [bindLoop?, hscan, List.foldl_append]
    cases rest? with
    | none => split <;> simp_all
    | some rest =>
      have hrest := ih rest.length (hn ▸ hlt rest rfl) (ps.foldl (Progress.take payload) b) rest rfl
      split <;> simp_all

/-- A piece is bound, and its name is noted where `bind` lists it. -/
lemma take_eq (payload : Dict Json) (b : Progress) (p : Piece) :
    b.take payload p =
      { path := b.path ++ boundText payload p
        used := b.used ++ (names [p]).filter (isConsumed payload)
        unresolved := b.unresolved ++
          (names [p]).filter fun name => use payload name = .unresolved
        rejected := b.rejected ++
          (names [p]).filter fun name => use payload name = .rejected } := by
  cases p with
  | literal c => simp [Progress.take, Progress.push, boundText, names]
  | placeholder cs =>
    have hnames : names [.placeholder cs] = [String.ofList cs] := rfl
    rw [hnames, boundText]
    by_cases hempty : (String.ofList cs).isEmpty = true
    · have huse : use payload (String.ofList cs) = .unnamed := if_pos hempty
      simp [Progress.take, Progress.push, isConsumed, huse, hempty]
    cases hfind : payload.find? (String.ofList cs) with
    | none =>
      have huse : use payload (String.ofList cs) = .unresolved := by
        rw [use, if_neg hempty, hfind]
      simp [Progress.take, Progress.push, isConsumed, huse, hempty, hfind, Dict.contains]
    | some value =>
      cases hsegment : Form.segment? value.rendered with
      | none =>
        have huse : use payload (String.ofList cs) = .rejected := by
          rw [use, if_neg hempty, hfind]
          simp only [hsegment]
        simp [Progress.take, Progress.push, isConsumed, huse, hempty, hfind, hsegment,
          Dict.contains]
      | some segment =>
        have huse : use payload (String.ofList cs) = .consumed segment := by
          rw [use, if_neg hempty, hfind]
          simp only [hsegment]
        simp [Progress.take, Progress.push, isConsumed, huse, hempty, hfind, hsegment]

lemma foldl_take (payload : Dict Json) (b : Progress) (ps : List Piece) :
    ps.foldl (Progress.take payload) b =
      { path := b.path ++ ps.flatMap (boundText payload)
        used := b.used ++ (names ps).filter (isConsumed payload)
        unresolved := b.unresolved ++
          (names ps).filter fun name => use payload name = .unresolved
        rejected := b.rejected ++
          (names ps).filter fun name => use payload name = .rejected } := by
  induction ps generalizing b with
  | nil => simp [names]
  | cons p ps ih =>
    have hnames : names (p :: ps) = names [p] ++ names ps := by
      rw [names, names, names, ← List.filterMap_append, List.singleton_append]
    rw [List.foldl_cons, ih, take_eq, hnames]
    simp only [List.filter_append, List.append_assoc, List.flatMap_cons]

/-- Binding turn by turn, with a list for each kind of name, comes to the same as `bind`. -/
theorem bindLoop?_eq_bind (template : String) (payload : Dict Json) :
    (bindLoop? payload {} template.toList).map (Progress.bound payload) =
      some (bind template payload) := by
  rw [bindLoop?_eq_foldl, foldl_take]
  rfl

end RestGateway.Template
