import Mathlib
import RestGateway.Config.Rules
import RestGateway.Proofs.Url.PathText

/-! What is read of the text of a web address: the scheme and the authority stand in front of the
first slash of the path, and nothing behind that slash changes them. -/
namespace RestGateway.Url
open Config (isHttp)

lemma isHttp_cases {scheme : List Char} (h : isHttp scheme = true) :
    scheme = "http".toList ∨ scheme = "https".toList := by
  simpa only [isHttp, Bool.or_eq_true, decide_eq_true_eq] using h

lemma isWebScheme_of_isHttp {scheme : List Char} (h : isHttp scheme = true) :
    isWebScheme scheme = true := by
  rcases isHttp_cases h with rfl | rfl <;> decide

/-! ### Authorities -/

lemma interpretAuthority_of_empty {scheme cs : List Char} (hw : isWebScheme scheme = true)
    (hc : splitUser cs = (some [], [])) (atEnd : Bool) :
    interpretAuthority scheme atEnd cs = .error .emptyHost := by
  unfold interpretAuthority
  rw [hc]
  cases atEnd with
  | false => rfl
  | true =>
    simp only [splitHost, hw]
    rfl

lemma interpretAuthority_of_not_empty {cs : List Char} (scheme : List Char)
    (hc : splitUser cs ≠ (some [], [])) :
    interpretAuthority scheme false cs = interpretAuthority scheme true cs := by
  unfold interpretAuthority
  rcases hs : splitUser cs with ⟨user, host⟩
  have h : ¬(user = some [] ∧ host = []) := by
    rintro ⟨rfl, rfl⟩
    exact hc hs
  -- only the first test looks at what follows, and it fails on both sides
  dsimp -zeta only
  conv_lhs => rw [if_neg fun hn => h ⟨hn.1, hn.2.1⟩]
  conv_rhs => rw [if_neg fun hn => h ⟨hn.1, hn.2.1⟩]

/-- In a web address the authority is the same whether or not something follows it. -/
lemma interpretAuthority_atEnd {scheme : List Char} (hw : isWebScheme scheme = true)
    (cs : List Char) : interpretAuthority scheme false cs = interpretAuthority scheme true cs := by
  by_cases hc : splitUser cs = (some [], [])
  · rw [interpretAuthority_of_empty hw hc, interpretAuthority_of_empty hw hc]
  · exact interpretAuthority_of_not_empty scheme hc

section
variable {scheme : List Char} {a : Authority} (ha : isStable scheme a = true)
include ha

lemma isStable_text {c : Char} (hc : c ∈ a.text) :
    isControlOrBlank c = false ∧ endsAuthority scheme c = false := by
  unfold isStable at ha
  rw [Bool.and_eq_true, List.all_eq_true] at ha
  have h := ha.1 c hc
  simp only [Bool.and_eq_true, decide_eq_true_eq, Bool.not_eq_true'] at h
  exact ⟨by simpa [isControlOrBlank] using h.1, h.2⟩

lemma interpretAuthority_text (hw : isWebScheme scheme = true) (atEnd : Bool) :
    interpretAuthority scheme atEnd a.text = .ok (a, []) := by
  have h : interpretAuthority scheme true a.text = .ok (a, []) := by
    unfold isStable at ha
    rw [Bool.and_eq_true] at ha
    have h2 := ha.2
    rcases hr : interpretAuthority scheme true a.text with e | ⟨again, left⟩
    · simp [hr] at h2
    · simp only [hr, Bool.and_eq_true, decide_eq_true_eq, List.isEmpty_iff] at h2
      rw [h2.1, h2.2]
  cases atEnd with
  | true => exact h
  | false => rw [interpretAuthority_atEnd hw, h]

lemma text_ne_nil_of_isStable (hw : isWebScheme scheme = true) : a.text ≠ [] := by
  intro hn
  have h := interpretAuthority_text ha hw true
  rw [hn] at h
  have he : interpretAuthority scheme true [] = .error .emptyHost := by
    simp only [interpretAuthority, splitUser, hw]
    rfl
  rw [he] at h
  exact absurd h (by simp)

theorem readAuthority_text (hw : isWebScheme scheme = true) (behind : List Char) :
    readAuthority scheme (a.text ++ '/' :: behind) = .ok (a, '/' :: behind) := by
  have hp : ∀ c ∈ a.text, (! endsAuthority scheme c) = true := by
    intro c hc
    rw [(isStable_text ha hc).2]
    rfl
  have hslash : (! endsAuthority scheme '/') = false := rfl
  unfold readAuthority
  rw [List.dropWhile_append_of_pos hp, List.takeWhile_append_of_pos hp,
    List.dropWhile_cons_of_neg (by simp [hslash]), List.takeWhile_cons_of_neg (by simp [hslash]),
    List.append_nil]
  dsimp only
  rw [interpretAuthority_text ha hw]
  simp only [bind, Except.bind, ha]
  rfl

lemma dropWhile_isSlash_text (hw : isWebScheme scheme = true) (behind : List Char) :
    ('/' :: '/' :: (a.text ++ behind)).dropWhile isSlash = a.text ++ behind := by
  have hne := text_ne_nil_of_isStable ha hw
  have hs : ∀ c ∈ a.text, isSlash c = false := by
    intro c hc
    have he := (isStable_text ha hc).2
    simp only [endsAuthority, hw, Bool.and_true, Bool.or_eq_false_iff] at he
    simp [isSlash, he.1.1.1, he.2]
  cases ht : a.text with
  | nil => exact absurd ht hne
  | cons c cs =>
    rw [ht] at hs
    simp [show isSlash '/' = true from rfl, hs c (by simp)]

end

lemma isStable_of_readAuthority {scheme cs left : List Char} {a : Authority}
    (h : readAuthority scheme cs = .ok (a, left)) : isStable scheme a = true := by
  unfold readAuthority at h
  simp only [bind, Except.bind] at h
  split at h
  · simp at h
  · split_ifs at h with hs
    simp only [pure, Except.pure, Except.ok.injEq, Prod.mk.injEq] at h
    rw [← h.1]
    exact hs

/-! ### The characters that count -/

/-- The characters of a text that count at the end of a URL. -/
def counted (cs : List Char) : List Char := withoutLines (cs.rdropWhile isControlOrBlank)

lemma isLineOrTab_of_not_control {c : Char} (h : isControlOrBlank c = false) :
    isLineOrTab c = false := by
  by_contra hn
  rw [Bool.not_eq_false] at hn
  simp only [isLineOrTab, Bool.or_eq_true, decide_eq_true_eq] at hn
  rcases hn with (rfl | rfl) | rfl <;> exact absurd h (by decide)

lemma withoutLines_of_not_control {cs : List Char} (h : ∀ c ∈ cs, isControlOrBlank c = false) :
    withoutLines cs = cs :=
  List.filter_eq_self.mpr fun c hc => by simp [isLineOrTab_of_not_control (h c hc)]

lemma withoutLines_trim {front : List Char} (h : ∀ c ∈ front, isControlOrBlank c = false)
    (behind : List Char) :
    withoutLines (trim (front ++ '/' :: behind)) = front ++ '/' :: counted behind := by
  have hslash : isControlOrBlank '/' = false := rfl
  have hd : (front ++ '/' :: behind).dropWhile isControlOrBlank = front ++ '/' :: behind := by
    cases front with
    | nil => exact List.dropWhile_cons_of_neg (by simp [hslash])
    | cons c front => exact List.dropWhile_cons_of_neg (by simp [h c (by simp)])
  have ht : trim (front ++ '/' :: behind) =
      ((front ++ '/' :: behind).dropWhile isControlOrBlank).rdropWhile isControlOrBlank := rfl
  rw [ht, hd, rdropWhile_append_of_not hslash]
  change List.filter _ _ = _
  rw [List.filter_append, List.filter_cons_of_pos (by decide)]
  exact congrArg (· ++ _) (withoutLines_of_not_control h)

/-! ### Web addresses -/

lemma not_control_of_isHttp {scheme : List Char} (h : isHttp scheme = true) :
    ∀ c ∈ scheme, isControlOrBlank c = false := by
  rcases isHttp_cases h with rfl | rfl <;> simp [isControlOrBlank]

lemma readScheme_http {scheme : List Char} (h : isHttp scheme = true) (behind : List Char) :
    readScheme (scheme ++ ':' :: behind) = some (scheme, behind) := by
  rcases isHttp_cases h with rfl | rfl <;> rfl

lemma pathPart_cons (behind : List Char) : pathPart ('/' :: behind) = '/' :: pathPart behind := rfl

lemma readTail_cons (behind : List Char) :
    readTail true ('/' :: behind) = readTail true behind := rfl

lemma ne_fileScheme_of_isHttp {scheme : List Char} (h : isHttp scheme = true) :
    scheme ≠ fileScheme := by
  rcases isHttp_cases h with rfl | rfl <;> decide

lemma not_control_of_isStable {scheme : List Char} {a : Authority} (hs : isHttp scheme = true)
    (ha : isStable scheme a = true) :
    ∀ c ∈ scheme ++ ':' :: '/' :: '/' :: a.text, isControlOrBlank c = false := by
  intro c hc
  rcases List.mem_append.mp hc with hc | hc
  · exact not_control_of_isHttp hs c hc
  · simp only [List.mem_cons] at hc
    rcases hc with rfl | rfl | rfl | hc
    · rfl
    · rfl
    · rfl
    · exact (isStable_text ha hc).1

/-- What stands behind an authority decides the path, the query and the fragment, and nothing
else. -/
theorem parse_web {scheme : List Char} {a : Authority} (hs : isHttp scheme = true)
    (ha : isStable scheme a = true) (behind : List Char) :
    parse (String.ofList (scheme ++ ':' :: '/' :: '/' :: (a.text ++ '/' :: behind))) =
      .ok ⟨scheme, some a, .segments (webSegments ('/' :: pathPart (counted behind))),
        (readTail true (counted behind)).1, (readTail true (counted behind)).2⟩ := by
  have hw := isWebScheme_of_isHttp hs
  have hcount := withoutLines_trim (not_control_of_isStable hs ha) behind
  simp only [List.append_assoc, List.cons_append] at hcount
  unfold parse
  rw [String.toList_ofList]
  dsimp only
  rw [hcount, readScheme_http hs]
  dsimp only
  rw [if_neg (ne_fileScheme_of_isHttp hs), readAfterScheme, if_pos hw,
    dropWhile_isSlash_text ha hw, readAuthority_text ha hw]
  simp only [bind, Except.bind, readTail_cons, pathPart_cons]
  rfl

lemma settled_webSegments (cs : List Char) : ∀ s ∈ webSegments cs, IsSettled s := by
  have h (cs : List Char) : ∀ s ∈ resolveDots [] (splitWhere isSlash cs), IsSettled s :=
    settled_resolveDots (by simp) fun _ hs c hc => (mem_splitWhere hs c hc).2
  cases cs with
  | nil => simpa [webSegments] using IsSettled.nil
  | cons c cs =>
    simp only [webSegments]
    split_ifs
    · exact h cs
    · exact h (c :: cs)

/-- A URL that requests can be made to: the authority can be read again, and the path consists of
settled segments. -/
structure IsWeb (u : Url) : Prop where
  http : isHttp u.scheme = true
  authority : ∃ a, u.authority = some a ∧ isStable u.scheme a = true
  path : ∃ parts, u.path = .segments parts ∧ ∀ s ∈ parts, IsSettled s

lemma scheme_of_readFile {cs : List Char} {u : Url} (h : readFile cs = .ok u) :
    u.scheme = fileScheme := by
  simp only [readFile, bind, Except.bind, pure, Except.pure] at h
  split at h
  · split at h
    · exact absurd h (by simp)
    · rw [← Except.ok.inj h]
  · rw [← Except.ok.inj h]

lemma scheme_of_readAfterScheme {scheme cs : List Char} {u : Url}
    (h : readAfterScheme scheme cs = .ok u) : u.scheme = scheme := by
  unfold readAfterScheme at h
  simp only [bind, Except.bind, pure, Except.pure] at h
  split_ifs at h
  · split at h
    · exact absurd h (by simp)
    · rw [← Except.ok.inj h]
  · split at h
    · split at h
      · exact absurd h (by simp)
      · rw [← Except.ok.inj h]
    · rw [← Except.ok.inj h]

lemma isWeb_of_readAfterScheme {scheme cs : List Char} {u : Url} (hs : isHttp scheme = true)
    (h : readAfterScheme scheme cs = .ok u) : IsWeb u := by
  unfold readAfterScheme at h
  rw [if_pos (isWebScheme_of_isHttp hs)] at h
  rcases hr : readAuthority scheme (cs.dropWhile isSlash) with e | ⟨a, rest⟩
  · rw [hr] at h
    simp [bind, Except.bind] at h
  · rw [hr] at h
    simp only [bind, Except.bind, pure, Except.pure, Except.ok.injEq] at h
    subst h
    exact ⟨hs, ⟨a, rfl, isStable_of_readAuthority hr⟩, ⟨_, rfl, settled_webSegments _⟩⟩

/-- Every web address that is read is one that requests can be made to. -/
theorem isWeb_of_parse {s : String} {u : Url} (h : parse s = .ok u) (hs : isHttp u.scheme = true) :
    IsWeb u := by
  unfold parse at h
  dsimp only at h
  split at h
  · simp at h
  · next scheme rest hr =>
    split_ifs at h with hf
    · rw [scheme_of_readFile h] at hs
      exact absurd hs (by decide)
    · rw [scheme_of_readAfterScheme h] at hs
      exact isWeb_of_readAfterScheme hs h

end RestGateway.Url
