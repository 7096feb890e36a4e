import Mathlib
import RestGateway.Call
import RestGateway.Proofs.Dict

/-! Whatever the order of a text, the objects that are read from it have their members in order.
Reading a record keeps what reading each of its fields keeps, and so a call that is read has its
headers and its payload in order. -/
namespace RestGateway

lemma Dict.ascending_ofList {α : Type} (entries : List (String × α)) :
    (Dict.ofList entries).Ascending := by
  induction entries with
  | nil => exact Dict.ascending_nil
  | cons entry entries ih => exact Dict.ascending_insertNew ih entry.1 entry.2

namespace Json

lemma bind_eq_ok_iff {ε α β : Type} {x : Except ε α} {f : α → Except ε β} {b : β} :
    x >>= f = .ok b ↔ ∃ a, x = .ok a ∧ f a = .ok b := by
  cases x with
  | error e => simp [bind, Except.bind]
  | ok a => simp [bind, Except.bind]

/-! ### Values -/

/-- An object has its members in order. -/
def IsOrdered (v : Json) : Prop := ∀ members, v = .object members → Dict.Ascending members

lemma ascending_of_readDict {α : Type} {value : Reader α} {s rest : List Char} {d : Dict α}
    (h : readDict value s = .ok (d, rest)) : d.Ascending := by
  obtain ⟨⟨members, behind⟩, -, hd⟩ := bind_eq_ok_iff.mp h
  obtain ⟨rfl, -⟩ := Prod.mk.inj (Except.ok.inj hd)
  exact Dict.ascending_ofList members

lemma ascending_of_readTable {α : Type} {value : Reader α} {s rest : List Char} {d : Dict α}
    (h : readTable value s = .ok (d, rest)) : d.Ascending := by
  unfold readTable at h
  split at h
  · simp at h
  · exact ascending_of_readDict h
  · simp at h

lemma isOrdered_of_readValueWith {nested : Option (Reader Json)} {s rest : List Char} {v : Json}
    (h : readValueWith nested s = .ok (v, rest)) : v.IsOrdered := by
  rintro members rfl
  unfold readValueWith at h
  split at h
  case h_1 => simp at h
  case h_8 =>
    -- a brace is the only way to an object
    split at h
    · simp at h
    · obtain ⟨⟨read, behind⟩, hread, hv⟩ := bind_eq_ok_iff.mp h
      obtain ⟨hobject, -⟩ := Prod.mk.inj (Except.ok.inj hv)
      exact Json.object.inj hobject ▸ ascending_of_readDict hread
  case h_7 =>
    split at h
    · simp at h
    · obtain ⟨_, -, hv⟩ := bind_eq_ok_iff.mp h
      simp [pure, Except.pure] at hv
  case h_9 =>
    split_ifs at h
    obtain ⟨_, -, hv⟩ := bind_eq_ok_iff.mp h
    simp [pure, Except.pure] at hv
  all_goals
    obtain ⟨_, -, hv⟩ := bind_eq_ok_iff.mp h
    simp [pure, Except.pure] at hv

lemma isOrdered_of_readValue {depth : Nat} {s rest : List Char} {v : Json}
    (h : readValue depth s = .ok (v, rest)) : v.IsOrdered := by
  cases depth with
  | zero => exact isOrdered_of_readValueWith h
  | succ depth => exact isOrdered_of_readValueWith h

lemma exists_of_decodeWith {α : Type} {reader : Reader α} {text : List Char} {x : α}
    (h : decodeWith reader text = .ok x) : ∃ rest, reader text = .ok (x, rest) := by
  unfold decodeWith at h
  split at h
  · next y hy =>
    obtain ⟨⟨z, rest⟩, hr, hz⟩ := bind_eq_ok_iff.mp hy
    have hzx : z = x := by
      rw [← Except.ok.inj h]
      dsimp only [readEnd] at hz
      split at hz
      · exact Except.ok.inj hz
      · simp at hz
    exact ⟨rest, hzx ▸ hr⟩
  · simp at h

theorem isOrdered_of_parse {text : String} {v : Json} (h : parse text = .ok v) : v.IsOrdered := by
  obtain ⟨rest, hr⟩ := exists_of_decodeWith h
  exact isOrdered_of_readValue hr

/-! ### Records -/

lemma Reader.exists_of_into {α σ : Type} {read : Reader α} {store : σ → α → σ} {x y : σ}
    {s rest : List Char} (h : read.into store x s = .ok (y, rest)) :
    ∃ value, read s = .ok (value, rest) ∧ y = store x value := by
  obtain ⟨⟨value, behind⟩, hv, hy⟩ := bind_eq_ok_iff.mp h
  obtain ⟨rfl, rfl⟩ := Prod.mk.inj (Except.ok.inj hy)
  exact ⟨value, hv, rfl⟩

namespace Shape
variable {σ : Type} {shape : Shape σ} {P : σ → Prop}
  (hfield : ∀ field ∈ shape.fields, ∀ {x y : σ} {s rest : List Char}, P x →
    field.read x s = .ok (y, rest) → P y)
include hfield

lemma of_readMember {seen more : List String} {x y : σ} {name : String} {s rest : List Char}
    (hx : P x) (h : shape.readMember seen x name s = .ok (more, y, rest)) : P y := by
  unfold readMember at h
  split at h
  · split at h
    · simp only [Except.ok.injEq, Prod.mk.injEq] at h
      exact h.2.1 ▸ hx
    · simp at h
  next field hf =>
    split_ifs at h
    split at h
    · next hr =>
      obtain ⟨place, -, hread⟩ := bind_eq_ok_iff.mp hr
      simp only [Except.ok.injEq, Prod.mk.injEq] at h
      exact h.2.1 ▸ hfield field (List.mem_of_find?_eq_some hf) hx hread
    · simp at h

lemma of_readFields {more : Nat} {first : Bool} {seen : List String} {x y : σ}
    {s rest : List Char} (hx : P x) (h : shape.readFields more first seen x s = .ok (y, rest)) :
    P y := by
  induction more generalizing first seen x s with
  | zero => simp [readFields] at h
  | succ more ih =>
    rw [readFields] at h
    split at h
    · simp at h
    · split at h
      · simp at h
      · obtain ⟨behind, -, hy⟩ := bind_eq_ok_iff.mp h
        obtain ⟨rfl, -⟩ := Prod.mk.inj (Except.ok.inj hy)
        exact hx
    · split at h
      · simp at h
      split at h
      · simp at h
      next hm => exact ih (of_readMember hfield hx hm) h

lemma of_readOrdered {index : Nat} {fields : List (Field σ)} (hsub : fields ⊆ shape.fields)
    {x y : σ} {s rest : List Char} (hx : P x)
    (h : shape.readOrdered index fields x s = .ok (y, rest)) : P y := by
  induction fields generalizing index x s with
  | nil =>
    obtain ⟨behind, -, hy⟩ := bind_eq_ok_iff.mp h
    obtain ⟨rfl, -⟩ := Prod.mk.inj (Except.ok.inj hy)
    exact hx
  | cons field fields ih =>
    obtain ⟨hf, hfs⟩ := List.cons_subset.mp hsub
    rw [readOrdered] at h
    split at h
    · simp at h
    · split_ifs at h
      · exact ih hfs hx h
      · obtain ⟨behind, -, hy⟩ := bind_eq_ok_iff.mp h
        obtain ⟨rfl, -⟩ := Prod.mk.inj (Except.ok.inj hy)
        exact hx
    · split at h
      · simp at h
      next hr => exact ih hfs (hfield field hf hx hr) h

/-- What the record has when all is absent, and what reading a field keeps, every record has. -/
theorem of_reader (habsent : P shape.absent) {s rest : List Char} {x : σ}
    (h : shape.reader s = .ok (x, rest)) : P x := by
  unfold reader at h
  split at h
  · simp at h
  · exact of_readFields hfield habsent h
  · exact of_readOrdered hfield (List.Subset.refl _) habsent h
  · simp at h

end Shape

end Json

/-! ### Calls -/

namespace Call

/-- The dictionaries of the call are in order. -/
structure IsOrdered (c : Call) : Prop where
  headers : c.headers.Ascending
  payload : c.payload.IsOrdered

lemma isOrdered_ofMethod (method : String) : (ofMethod method).IsOrdered :=
  ⟨Dict.ascending_nil, fun _ h => by simp [ofMethod] at h⟩

theorem isOrdered_of_reader {text : List Char} {c : Call}
    (h : Json.decodeWith shape.reader text = .ok c) : c.IsOrdered := by
  obtain ⟨rest, hr⟩ := Json.exists_of_decodeWith h
  refine Json.Shape.of_reader (P := IsOrdered) ?_ (isOrdered_ofMethod "") hr
  intro field hf x y s rest hx hread
  simp only [shape, List.mem_cons, List.not_mem_nil, or_false] at hf
  rcases hf with rfl | rfl | rfl | rfl | rfl | rfl | rfl
  all_goals
    dsimp only at hread
    obtain ⟨value, hv, rfl⟩ := Json.Reader.exists_of_into hread
  case inr.inl => exact ⟨hx.headers, Json.isOrdered_of_readValue hv⟩
  case inr.inr.inl => exact ⟨Json.ascending_of_readTable hv, hx.payload⟩
  all_goals exact ⟨hx.headers, hx.payload⟩

theorem isOrdered_of_decode {text : String} {c : Call} (h : decode text = .ok c) : c.IsOrdered :=
  isOrdered_of_reader h

lemma isOrdered_of_decodeBytes {bytes : List UInt8} {c : Call} (h : decodeBytes bytes = .ok c) :
    c.IsOrdered := isOrdered_of_reader h

theorem IsOrdered.ascending_entries {c : Call} (hc : c.IsOrdered) {payload : Dict Json}
    (h : c.entries = .ok payload) : payload.Ascending := by
  unfold entries at h
  split at h
  · exact Except.ok.inj h ▸ Dict.ascending_nil
  next hp => exact Except.ok.inj h ▸ hc.payload _ hp
  · split_ifs at h
    · exact Except.ok.inj h ▸ Dict.ascending_nil
    · split at h
      next hp => exact Except.ok.inj h ▸ Json.isOrdered_of_parse hp _ rfl
      · simp at h
      · simp at h
  · simp at h

end Call

end RestGateway
