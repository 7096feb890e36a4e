import Mathlib
import RestGateway.Proofs.Url.Reading

/-! A host of plain characters is a name of one label, and is read as it stands: none of the tables
for other writings has an ASCII character in it. An authority that can be read again is a web
address of its own. -/
namespace RestGateway
open Text
open Config (isHttp)

lemma Text.Ranges.contains_of_lt {ranges : Ranges} {c : Char}
    (h : ∀ range ∈ ranges.toList, c.toNat < range.1) : ranges.contains c = false := by
  rw [Ranges.contains, ← Array.any_toList, List.any_eq_false]
  intro range hr
  simp [(h range hr).not_ge]

namespace Url

/-! ### Bytes -/

lemma utf8Text?_utf8 (cs : List Char) : utf8Text? (Percent.utf8 cs) = some cs := by
  have hb : (⟨(Percent.utf8 cs).toArray⟩ : ByteArray) = (String.ofList cs).toByteArray := by
    rw [String.toByteArray_ofList]
    exact ByteArray.ext (by simp [List.utf8Encode, Percent.utf8])
  rw [utf8Text?, hb, String.fromUTF8?, dif_pos (String.ofList cs).isValidUTF8]
  change some (String.ofList cs).toList = _
  rw [String.toList_ofList]

lemma decode_of_no_escape {cs : List Char} (h : '%' ∉ cs) :
    Percent.decode cs = Percent.utf8 cs := by
  induction cs with
  | nil => simp [Percent.decode, Percent.utf8_nil]
  | cons c cs ih =>
    obtain ⟨hc, hcs⟩ := List.ne_and_not_mem_of_not_mem_cons h
    rw [Percent.decode_cons_of_ne hc.symm, Percent.utf8_cons, ih hcs]

/-! ### Labels -/

lemma marks_of_isAscii {c : Char} (h : isAscii c = true) :
    nonspacingMarks.contains c = false ∧ spacingMarks.contains c = false := by
  have hc : c.toNat < 0x80 := by simpa [isAscii] using h
  have hn : nonspacingMarks.toList.all (0x80 ≤ ·.1) = true := by decide +kernel
  have hs : spacingMarks.toList.all (0x80 ≤ ·.1) = true := by decide +kernel
  simp only [List.all_eq_true, decide_eq_true_eq] at hn hs
  exact ⟨Ranges.contains_of_lt fun range hr => hc.trans_le (hn range hr),
    Ranges.contains_of_lt fun range hr => hc.trans_le (hs range hr)⟩

section
variable {label : List Char} (h : ∀ c ∈ label, isAscii c = true)
include h

lemma placesJoiners_of_isAscii (before : List Char) : placesJoiners before label = true := by
  induction label generalizing before with
  | nil => rfl
  | cons c label ih =>
    obtain ⟨hc, hlabel⟩ := List.forall_mem_cons.mp h
    have hn : c ≠ nonJoiner := by
      rintro rfl
      exact absurd hc (by decide)
    have hj : c ≠ joiner := by
      rintro rfl
      exact absurd hc (by decide)
    simp [placesJoiners, ih hlabel, hn, hj]

lemma isLabel_of_isAscii : isLabel label = true := by
  have hhead : (label.head?.any fun c => nonspacingMarks.contains c || spacingMarks.contains c) =
      false := by
    cases label with
    | nil => rfl
    | cons c label =>
      obtain ⟨hn, hs⟩ := marks_of_isAscii (h c List.mem_cons_self)
      simp only [List.head?_cons, Option.any_some, hn, hs]
      rfl
  rw [isLabel, hhead, placesJoiners_of_isAscii h [], List.all_eq_true.mpr h]
  rfl

lemma keepsDirection_of_isAscii : keepsDirection [label] = true := by
  have hright : label.any isFromRight = false := by
    rw [List.any_eq_false]
    intro c hc
    simp [isFromRight, h c hc]
  simp [keepsDirection, hright]

end

/-! ### Names of one label -/

/-- A character that a name has in this form, and that has no other meaning in it. -/
def isPlain (c : Char) : Bool :=
  isAscii c && c.toLower == c && !isForbidden c && c != '.' && c != '-'

section
variable {name : List Char} (h : ∀ c ∈ name, isPlain c = true)
include h

lemma isAscii_of_isPlain : ∀ c ∈ name, isAscii c = true := by
  intro c hc
  have hp := h c hc
  simp only [isPlain, Bool.and_eq_true] at hp
  exact hp.1.1.1.1

lemma comparable?_of_isPlain : comparable? name = some name := by
  have hlower : name.map Char.toLower = name := by
    refine (List.map_congr_left fun c hc => ?_).trans name.map_id
    have hp := h c hc
    simp only [isPlain, Bool.and_eq_true, beq_iff_eq] at hp
    exact hp.1.1.1.2
  rw [comparable?, if_pos (List.all_eq_true.mpr (isAscii_of_isPlain h)), hlower]

lemma labelText?_of_isPlain : labelText? name = some name := by
  unfold labelText?
  split
  · exact absurd (h '-' (by simp)) (by decide)
  · rfl

theorem domain?_of_isPlain : domain? name = some name := by
  have hascii := isAscii_of_isPlain h
  have hsplit : name.splitOn '.' = [name] := by
    rw [List.splitOn_eq_splitOnP]
    refine List.splitOnP_eq_singleton fun c hc => ?_
    rw [beq_eq_false_iff_ne]
    rintro rfl
    exact absurd (h '.' hc) (by decide)
  have hlabel : asciiLabel name = name := if_pos (List.all_eq_true.mpr hascii)
  have hforbidden : ∀ c ∈ name, isForbidden c = false := by
    intro c hc
    have hp := h c hc
    simp only [isPlain, Bool.and_eq_true, Bool.not_eq_true'] at hp
    exact hp.1.1.2
  simpa [domain?, comparable?_of_isPlain h, hsplit, labelText?_of_isPlain h, hlabel,
    isLabel_of_isAscii hascii, keepsDirection_of_isAscii hascii] using hforbidden

theorem webHost_of_isPlain (hne : name ≠ []) (hend : endsInNumber name = false) :
    webHost name = .ok name := by
  have hescape : '%' ∉ name := fun hm => absurd (h '%' hm) (by decide)
  have hdomain : (utf8Text? (Percent.decode name)).bind domain? = some name := by
    rw [decode_of_no_escape hescape, utf8Text?_utf8]
    exact domain?_of_isPlain h
  unfold webHost
  split
  · exact absurd (h '[' (by simp)) (by decide)
  · rw [hdomain]
    cases name with
    | nil => exact absurd rfl hne
    | cons c name => exact if_neg (by simp [hend])

end

/-! ### Authorities without a path -/

lemma trim_of_not_control {cs : List Char} (h : ∀ c ∈ cs, isControlOrBlank c = false) :
    trim cs = cs := by
  have hdrop : ∀ l : List Char, (∀ c ∈ l, isControlOrBlank c = false) →
      l.dropWhile isControlOrBlank = l := by
    intro l hl
    cases l with
    | nil => rfl
    | cons c l => exact List.dropWhile_cons_of_neg (by simp [hl c List.mem_cons_self])
  rw [trim, hdrop cs h, hdrop cs.reverse fun c hc => h c (List.mem_reverse.mp hc),
    List.reverse_reverse]

lemma interpretAuthority_of_host {scheme cs name portText left : List Char} {port : Option Nat}
    (hw : isWebScheme scheme = true) (hu : splitUser cs = (none, cs))
    (hs : splitHost false cs = (name, portText)) (hne : name ≠ []) (hh : webHost name = .ok name)
    (hp : readPort scheme portText = .ok (port, left)) (atEnd : Bool) :
    interpretAuthority scheme atEnd cs = .ok (⟨[], [], name, port⟩, left) := by
  unfold interpretAuthority
  simp [hu, hs, hw, hne, hh, hp, bind, Except.bind, pure, Except.pure, Percent.encode]

lemma isStable_of_interpretAuthority {scheme : List Char} {a : Authority}
    (hc : a.text.all (fun c => 0x20 < c.toNat && !endsAuthority scheme c) = true)
    (h : interpretAuthority scheme true a.text = .ok (a, [])) : isStable scheme a = true := by
  rw [isStable, hc, h]
  simp

section
variable {scheme : List Char} {a : Authority} (ha : isStable scheme a = true)
include ha

lemma readAuthority_text_end (hw : isWebScheme scheme = true) :
    readAuthority scheme a.text = .ok (a, []) := by
  have hp : ∀ c ∈ a.text, (! endsAuthority scheme c) = true := by
    intro c hc
    rw [(isStable_text ha hc).2]
    rfl
  rw [readAuthority, List.takeWhile_eq_self_iff.mpr hp, List.dropWhile_eq_nil_iff.mpr hp,
    interpretAuthority_text ha hw]
  simp only [bind, Except.bind, ha]
  rfl

theorem parse_authority (hs : isHttp scheme = true) :
    parse (String.ofList (scheme ++ ':' :: '/' :: '/' :: a.text)) =
      .ok ⟨scheme, some a, .segments [[]], none, none⟩ := by
  have hw := isWebScheme_of_isHttp hs
  have hfront := not_control_of_isStable hs ha
  have hslashes := dropWhile_isSlash_text ha hw []
  rw [List.append_nil] at hslashes
  unfold parse
  rw [String.toList_ofList]
  dsimp only
  rw [trim_of_not_control hfront, withoutLines_of_not_control hfront, readScheme_http hs]
  dsimp only
  rw [if_neg (ne_fileScheme_of_isHttp hs), readAfterScheme, if_pos hw, hslashes,
    readAuthority_text_end ha hw]
  rfl

end

end Url

end RestGateway
