import Mathlib
import RestGateway.Reply
import RestGateway.Proofs.BoundSegment

/-! The data in a reply. A body has data exactly when it is blank or JSON, and a blank text is no
JSON, so that a body has one meaning. -/
namespace RestGateway

namespace Json

lemma ne_of_isBlankChar {c d : Char} (hc : Text.isBlankChar c = true)
    (hd : Text.isBlankChar d = false) : c ≠ d := by
  rintro rfl
  rw [hc] at hd
  exact Bool.noConfusion hd

lemma isDigit_of_isBlankChar {c : Char} (h : Text.isBlankChar c = true) :
    Text.isDigit c = false := by
  by_contra hd
  rw [Bool.not_eq_false] at hd
  have hc : (Text.isLetter c || Text.isDigit c || [].contains c) = true := by simp [hd]
  have hn := Template.of_letter_or_mark (q := fun c => !Text.isBlankChar c) (by simp)
    (by decide +kernel) hc
  simp [h] at hn

/-- No value begins with a blank character. -/
lemma readValueWith_of_blank (nested : Option (Reader Json)) {s : List Char}
    (h : ∀ c ∈ s, Text.isBlankChar c = true) : ∃ fault, readValueWith nested s = .error fault := by
  have hsub : skipBlanks s <:+ s := List.dropWhile_suffix isBlank
  have hne : ∀ d rest, Text.isBlankChar d = false → skipBlanks s ≠ d :: rest := by
    intro d rest hd hs
    exact ne_of_isBlankChar (h d (hsub.mem (hs ▸ List.mem_cons_self))) hd rfl
  unfold readValueWith
  split
  case h_9 hs =>
    have hblank := h _ (hsub.mem (hs ▸ List.mem_cons_self))
    rw [if_neg (by simp [isDigit_of_isBlankChar hblank])]
    exact ⟨_, rfl⟩
  case h_1 => exact ⟨_, rfl⟩
  all_goals exact absurd ‹_› (hne _ _ (by decide +kernel))

lemma parse_ne_ok_of_blank {text : String} (h : Text.isBlank text = true) (v : Json) :
    parse text ≠ .ok v := by
  obtain ⟨fault, hf⟩ := readValueWith_of_blank (some (readValue 126))
    (List.all_eq_true.mp h)
  have hr : readValue greatestDepth text.toList = .error fault := hf
  simp [parse, decodeWith, hr, bind, Except.bind]

end Json

/-! ### Bodies -/

namespace Reply

/-- What the body of a success means. -/
inductive IsDataOf (body : String) : Dict Json → Prop where
  | blank (h : Text.isBlank body = true) : IsDataOf body []
  | members {ms : Dict Json} (h : Json.parse body = .ok (.object ms)) : IsDataOf body ms
  | value {v : Json} (h : Json.parse body = .ok v) (hv : ∀ ms, v ≠ .object ms) :
    IsDataOf body [("value", v)]

lemma dataOfBody_of_blank {body : String} (h : Text.isBlank body = true) :
    dataOfBody body = .ok [] := if_pos h

section
variable {body : String} (hb : ¬Text.isBlank body = true)
include hb

lemma dataOfBody_of_parse_error {e : Json.Error} (h : Json.parse body = .error e) :
    dataOfBody body = .error (.unreadableBody e) := by
  rw [dataOfBody, if_neg hb, h]

lemma dataOfBody_of_object {ms : Dict Json} (h : Json.parse body = .ok (.object ms)) :
    dataOfBody body = .ok ms := by
  rw [dataOfBody, if_neg hb, h]

lemma dataOfBody_of_value {v : Json} (h : Json.parse body = .ok v) (hv : ∀ ms, v ≠ .object ms) :
    dataOfBody body = .ok [("value", v)] := by
  rw [dataOfBody, if_neg hb, h]
  cases v with
  | object ms => exact absurd rfl (hv ms)
  | _ => rfl

end

theorem dataOfBody_eq_ok_iff {body : String} {data : Dict Json} :
    dataOfBody body = .ok data ↔ IsDataOf body data := by
  constructor
  · intro h
    by_cases hb : Text.isBlank body = true
    · rw [dataOfBody_of_blank hb, Except.ok.injEq] at h
      exact h ▸ .blank hb
    cases hp : Json.parse body with
    | error e => simp [dataOfBody_of_parse_error hb hp] at h
    | ok v =>
      by_cases hv : ∀ ms, v ≠ .object ms
      · rw [dataOfBody_of_value hb hp hv, Except.ok.injEq] at h
        exact h ▸ .value hp hv
      · obtain ⟨ms, hms⟩ := not_forall_not.mp hv
        rw [hms] at hp
        rw [dataOfBody_of_object hb hp, Except.ok.injEq] at h
        exact h ▸ .members hp
  · have hne {v : Json} (hp : Json.parse body = .ok v) : ¬Text.isBlank body = true :=
      fun hb => Json.parse_ne_ok_of_blank hb v hp
    rintro (hb | hp | ⟨hp, hv⟩)
    · exact dataOfBody_of_blank hb
    · exact dataOfBody_of_object (hne hp) hp
    · exact dataOfBody_of_value (hne hp) hp hv

theorem exists_isDataOf_iff {body : String} :
    (∃ data, IsDataOf body data) ↔ Text.isBlank body = true ∨ ∃ v, Json.parse body = .ok v := by
  constructor
  · rintro ⟨data, hb | hp | ⟨hp, -⟩⟩
    · exact Or.inl hb
    · exact Or.inr ⟨_, hp⟩
    · exact Or.inr ⟨_, hp⟩
  · rintro (hb | ⟨v, hp⟩)
    · exact ⟨[], .blank hb⟩
    · by_cases hv : ∀ ms, v ≠ .object ms
      · exact ⟨_, .value hp hv⟩
      · obtain ⟨ms, rfl⟩ := not_forall_not.mp hv
        exact ⟨ms, .members hp⟩

theorem data_eq_ok_iff {r : Reply} {data : Dict Json} :
    r.data = .ok data ↔ r.status < 400 ∧ IsDataOf r.body data := by
  rw [Reply.data]
  split_ifs with hs
  · exact iff_of_false (by simp) (fun h => absurd hs h.1.not_ge)
  · rw [dataOfBody_eq_ok_iff]
    exact (and_iff_right (not_le.mp hs)).symm

lemma data_of_refusal {r : Reply} (h : 400 ≤ r.status) :
    r.data = .error (.application r.status r.body) := if_pos h

end Reply

end RestGateway
