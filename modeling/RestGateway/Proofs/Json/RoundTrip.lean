import Mathlib
import RestGateway.Json.Shape
import RestGateway.Proofs.Json.Ordered

/-! The text of a value reads back as the value, whatever follows it in a longer text: first strings
and integers, then lists and objects item by item, then values by their depth. -/
namespace RestGateway

lemma Dict.ofList_of_ascending {α : Type} {d : Dict α} (h : d.Ascending) : Dict.ofList d = d := by
  induction d with
  | nil => rfl
  | cons entry d ih =>
    obtain ⟨k, v⟩ := entry
    obtain ⟨hsmall, hrest⟩ := Dict.ascending_cons.mp h
    change Dict.insertNew k v (Dict.ofList d) = (k, v) :: d
    rw [ih hrest]
    cases d with
    | nil => rfl
    | cons next d => exact if_pos (hsmall next.1 List.mem_cons_self)

namespace Json
open Text (isDigit)

/-- What may follow a value, or nothing. -/
def Ends (rest : List Char) : Prop := ∀ c ∈ rest.head?, c = ',' ∨ c = ']' ∨ c = '}'

/-- A reader finds a value where its text is. -/
def ReadsBack {α : Type} (read : Reader α) (text : List Char) (x : α) : Prop :=
  ∀ rest, Ends rest → read (text ++ rest) = .ok (x, rest)

lemma ends_nil : Ends [] := by simp [Ends]

lemma ends_cons {c : Char} (h : c = ',' ∨ c = ']' ∨ c = '}') (rest : List Char) :
    Ends (c :: rest) := by simpa [Ends] using h

/-! ### Strings -/

lemma hexDigit?_hexDigit (n : Nat) : Text.hexDigit? (hexDigit n) = some (n % 16) := by
  have h : ∀ k < 16, Text.hexDigit? (Nat.digitChar k) = some k := by decide
  exact h (n % 16) (Nat.mod_lt n (by decide))

lemma codeUnit?_low {n : Nat} (h : n < 0x20) :
    codeUnit? '0' '0' (hexDigit (n / 16)) (hexDigit n) = some n := by
  have hzero : Text.hexDigit? '0' = some 0 := by decide
  have hsum : (0 * 16 + n / 16 % 16) * 16 + n % 16 = n := by omega
  simp [codeUnit?, Text.hexValue?, hexDigit?_hexDigit, hzero]
  omega

lemma readQuotation_escaped (read : List Char) (c : Char) (rest : List Char) :
    readQuotation read (escaped c ++ rest) = readQuotation (c :: read) rest := by
  unfold escaped
  split_ifs with hq hb hbs ht hn hf hr hlow
  · subst hq; rfl
  · subst hb; rfl
  · subst hbs; rfl
  · subst ht; rfl
  · subst hn; rfl
  · subst hf; rfl
  · subst hr; rfl
  · have hunit := codeUnit?_low hlow
    have htrailing : isTrailingUnit c.toNat = false := by simp [isTrailingUnit]; omega
    have hleading : isLeadingUnit c.toNat = false := by simp [isLeadingUnit]; omega
    simp [readQuotation, hunit, htrailing, hleading]
  · rw [List.singleton_append, readQuotation]
    · rw [if_neg hlow]
    all_goals simp [hq, hb]

lemma readQuotation_flatMap (cs read rest : List Char) :
    readQuotation read (cs.flatMap escaped ++ '"' :: rest) = .ok (read.reverse ++ cs, rest) := by
  induction cs generalizing read with
  | nil => simp [readQuotation]
  | cons c cs ih =>
    rw [List.flatMap_cons, List.append_assoc, readQuotation_escaped, ih]
    simp

/-- A string without its opening quote. -/
lemma readString_escaped (s : String) (rest : List Char) :
    readString (s.toList.flatMap escaped ++ '"' :: rest) = .ok (s, rest) := by
  rw [readString, readQuotation_flatMap, List.reverse_nil, List.nil_append]
  simp [bind, Except.bind, pure, Except.pure, String.ofList_toList]

lemma stringText_append (s : String) (rest : List Char) :
    stringText s ++ rest = '"' :: (s.toList.flatMap escaped ++ '"' :: rest) := by
  simp [stringText]

lemma readsBack_readText (s : String) : ReadsBack readText (stringText s) s := by
  intro rest _
  rw [stringText_append]
  exact readString_escaped s rest

/-! ### Integers -/

lemma isDigit_of_mem_toDigits {n : Nat} {c : Char} (h : c ∈ Nat.toDigits 10 n) :
    isDigit c = true := by
  have hd := Nat.isDigit_of_mem_toDigits (by decide) (by decide) h
  simpa [isDigit, Char.isDigit, Char.le_def] using hd

/-- Only the number zero begins with a zero. -/
lemma exists_toDigits_cons (n : Nat) :
    ∃ c cs, Nat.toDigits 10 n = c :: cs ∧ (c = '0' → n = 0) := by
  induction n using Nat.strongRecOn with
  | ind n ih =>
    by_cases hn : n < 10
    · have hzero : ∀ k < 10, Nat.digitChar k = '0' → k = 0 := by decide
      exact ⟨_, [], Nat.toDigits_of_lt_base hn, hzero n hn⟩
    · obtain ⟨c, cs, hcs, hc⟩ := ih (n / 10) (by omega)
      rw [Nat.toDigits_of_base_le (by decide) (by omega), hcs]
      refine ⟨c, _, rfl, fun h => ?_⟩
      have hdiv := hc h
      omega

lemma le_ofDigitChars (ds : List Char) (n : Nat) : n ≤ Nat.ofDigitChars 10 ds n := by
  induction ds generalizing n with
  | nil => simp
  | cons d ds ih =>
    have hrest := ih (10 * n + (d.toNat - '0'.toNat))
    rw [Nat.ofDigitChars_cons]
    omega

/-- As long as a number fits, it takes all digits. -/
lemma absorb_of_lt {ds : List Char} {n : Nat}
    (h : Nat.ofDigitChars 10 ds n < 0x10000000000000000) :
    absorb n ds = (Nat.ofDigitChars 10 ds n, []) := by
  induction ds generalizing n with
  | nil => simp [absorb]
  | cons d ds ih =>
    rw [Nat.ofDigitChars_cons, Nat.mul_comm] at h ⊢
    have hlt := (le_ofDigitChars ds (n * 10 + (d.toNat - '0'.toNat))).trans_lt h
    rw [absorb]
    exact (if_pos hlt).trans (ih h)

lemma readNumberEnd_of_ends (negative : Bool) (digits : List Char) {rest : List Char}
    (hrest : Ends rest) :
    readNumberEnd negative digits rest =
      if (absorb 0 digits).2.isEmpty then .ok (integerNumber negative (absorb 0 digits).1, rest)
      else floatNumber negative (absorb 0 digits).1 (absorb 0 digits).2.length rest := by
  cases rest with
  | nil => rfl
  | cons c rest => rcases hrest c rfl with rfl | rfl | rfl <;> rfl

lemma readNumberEnd_toDigits (negative : Bool) {n : Nat} (hn : n < 0x10000000000000000)
    {rest : List Char} (hrest : Ends rest) :
    readNumberEnd negative (Nat.toDigits 10 n) rest = .ok (integerNumber negative n, rest) := by
  have habsorb : absorb 0 (Nat.toDigits 10 n) = (n, []) := by
    rw [absorb_of_lt (by rwa [Nat.ofDigitChars_ten_toDigits]), Nat.ofDigitChars_ten_toDigits]
  rw [readNumberEnd_of_ends negative _ hrest, habsorb]
  rfl

/-- The digits of a number are read up to its end, however many they are. -/
lemma readNumber_append (negative : Bool) (n : Nat) {rest : List Char} (hrest : Ends rest) :
    readNumber negative (Nat.toDigits 10 n ++ rest) =
      readNumberEnd negative (Nat.toDigits 10 n) rest := by
  have hend : rest.takeWhile isDigit = [] ∧ rest.dropWhile isDigit = rest ∧
      startsWithDigit rest = false := by
    cases rest with
    | nil => exact ⟨rfl, rfl, rfl⟩
    | cons c rest => rcases hrest c rfl with rfl | rfl | rfl <;> exact ⟨rfl, rfl, rfl⟩
  obtain ⟨htake, hdrop, hstarts⟩ := hend
  obtain ⟨c, cs, hcs, hzero⟩ := exists_toDigits_cons n
  by_cases hc : c = '0'
  · -- a zero is a number of its own, so that nothing may stand between it and the end
    obtain rfl := hzero hc
    rw [Nat.toDigits_zero, List.singleton_append, readNumber, hstarts]
    exact if_neg Bool.false_ne_true
  · have hdigits : ∀ d ∈ c :: cs, isDigit d = true := fun d hd => by
      rw [← hcs] at hd
      exact isDigit_of_mem_toDigits hd
    have hall : ∀ d ∈ cs, isDigit d = true := fun d hd => hdigits d (List.mem_cons_of_mem c hd)
    rw [hcs, List.cons_append, readNumber, if_pos (hdigits c List.mem_cons_self),
      List.takeWhile_append_of_pos hall, List.dropWhile_append_of_pos hall, htake, hdrop,
      List.append_nil]
    simp [hc]

lemma readNumber_toDigits (negative : Bool) {n : Nat} (hn : n < 0x10000000000000000)
    {rest : List Char} (hrest : Ends rest) :
    readNumber negative (Nat.toDigits 10 n ++ rest) = .ok (integerNumber negative n, rest) := by
  rw [readNumber_append negative n hrest, readNumberEnd_toDigits negative hn hrest]

/-! ### What reads back -/

mutual

/-- How many levels of lists and objects a value has. -/
def depth : Json → Nat
  | array items => depthOfItems items + 1
  | object members => depthOfMembers members + 1
  | _ => 0

def depthOfItems : List Json → Nat
  | [] => 0
  | item :: rest => max (depth item) (depthOfItems rest)

def depthOfMembers : List (String × Json) → Nat
  | [] => 0
  | (_, value) :: rest => max (depth value) (depthOfMembers rest)

end

/-- Every number is an integer of the range that is kept exactly, and every object a dictionary. -/
inductive IsExact : Json → Prop where
  | null : IsExact null
  | bool (b : Bool) : IsExact (bool b)
  | integer {n : Int} : leastInteger ≤ n → n ≤ greatestInteger → IsExact (number (.integer n))
  | string (s : String) : IsExact (string s)
  | array {items : List Json} : (∀ item ∈ items, IsExact item) → IsExact (array items)
  | object {members : Dict Json} : members.Ascending → (∀ m ∈ members, IsExact m.2) →
      IsExact (object members)

lemma depth_le_of_mem_items {items : List Json} {item : Json} (h : item ∈ items) :
    item.depth ≤ depthOfItems items := by
  induction items with
  | nil => exact absurd h List.not_mem_nil
  | cons first rest ih =>
    rw [depthOfItems]
    rcases List.mem_cons.mp h with rfl | h
    · exact le_max_left _ _
    · exact (ih h).trans (le_max_right _ _)

lemma depth_le_of_mem_members {members : List (String × Json)} {m : String × Json}
    (h : m ∈ members) : m.2.depth ≤ depthOfMembers members := by
  induction members with
  | nil => exact absurd h List.not_mem_nil
  | cons first rest ih =>
    rw [depthOfMembers]
    rcases List.mem_cons.mp h with rfl | h
    · exact le_max_left _ _
    · exact (ih h).trans (le_max_right _ _)

/-! ### Texts -/

lemma text_null : null.text = ['n', 'u', 'l', 'l'] := rfl

lemma text_true : (bool true).text = ['t', 'r', 'u', 'e'] := rfl

lemma text_false : (bool false).text = ['f', 'a', 'l', 's', 'e'] := rfl

lemma text_integer (n : Int) : (number (.integer n)).text = integerText n := rfl

lemma text_string (s : String) : (string s).text = stringText s := rfl

lemma text_array_cons (v : Json) (items : List Json) :
    (array (v :: items)).text = '[' :: (v.text ++ itemsText items) := rfl

lemma itemsText_nil : itemsText [] = [']'] := rfl

lemma itemsText_cons (v : Json) (items : List Json) :
    itemsText (v :: items) = ',' :: (v.text ++ itemsText items) := rfl

lemma text_object_cons (m : String × Json) (members : List (String × Json)) :
    (object (m :: members)).text =
      '\x7b' :: (stringText m.1 ++ ':' :: (m.2.text ++ membersText members)) := rfl

lemma membersText_nil : membersText [] = ['\x7d'] := rfl

lemma membersText_cons (m : String × Json) (members : List (String × Json)) :
    membersText (m :: members) =
      ',' :: (stringText m.1 ++ ':' :: (m.2.text ++ membersText members)) := rfl

/-! ### How texts begin -/

/-- A text begins with a value, and not with a blank or a bracket that closes. -/
def BeginsValue (s : List Char) : Prop := ∃ c cs, s = c :: cs ∧ isBlank c = false ∧ c ≠ ']'

lemma skipBlanks_cons {c : Char} (h : isBlank c = false) (s : List Char) :
    skipBlanks (c :: s) = c :: s := by simp [skipBlanks, h]

lemma BeginsValue.append {s : List Char} (h : BeginsValue s) (rest : List Char) :
    BeginsValue (s ++ rest) := by
  obtain ⟨c, cs, rfl, hc⟩ := h
  exact ⟨c, cs ++ rest, rfl, hc⟩

lemma of_isDigit {p : Char → Prop} (h : ∀ k < 10, p (Nat.digitChar k)) {c : Char}
    (hc : isDigit c = true) : p c := by
  have hrange : 48 ≤ c.toNat ∧ c.toNat ≤ 57 := by
    simpa [isDigit, Char.le_def, UInt32.le_iff_toNat_le] using hc
  have hchar : Nat.digitChar (c.toNat - 48) = c := by
    apply Char.toNat_inj.mp
    rw [Nat.toNat_digitChar_of_lt_ten (by omega)]
    omega
  rw [← hchar]
  exact h _ (by omega)

lemma exists_digit_cons (n : Nat) : ∃ c cs, Nat.toDigits 10 n = c :: cs ∧ isDigit c = true := by
  obtain ⟨c, cs, hcs, -⟩ := exists_toDigits_cons n
  exact ⟨c, cs, hcs, isDigit_of_mem_toDigits (hcs ▸ List.mem_cons_self)⟩

lemma beginsValue_text {v : Json} (h : v.IsExact) : BeginsValue v.text := by
  cases h with
  | null => exact ⟨'n', _, text_null, rfl, by decide⟩
  | bool b =>
    cases b with
    | false => exact ⟨'f', _, text_false, rfl, by decide⟩
    | true => exact ⟨'t', _, text_true, rfl, by decide⟩
  | @integer n _ _ =>
    rw [text_integer, integerText]
    split_ifs
    · exact ⟨'-', _, rfl, rfl, by decide⟩
    · obtain ⟨c, cs, hcs, hc⟩ := exists_digit_cons n.natAbs
      exact ⟨c, cs, hcs, of_isDigit (p := fun c => isBlank c = false ∧ c ≠ ']') (by decide) hc⟩
  | string s => exact ⟨'"', _, text_string s, rfl, by decide⟩
  | @array items _ =>
    cases items with
    | nil => exact ⟨'[', [']'], rfl, rfl, by decide⟩
    | cons first rest => exact ⟨'[', _, text_array_cons first rest, rfl, by decide⟩
  | @object members _ _ =>
    cases members with
    | nil => exact ⟨'\x7b', ['\x7d'], rfl, rfl, by decide⟩
    | cons first rest => exact ⟨'\x7b', _, text_object_cons first rest, rfl, by decide⟩

/-! ### Lists -/

lemma nextItem_first {s : List Char} (h : BeginsValue s) : nextItem true s = .ok (some s) := by
  obtain ⟨c, cs, rfl, hblank, hc⟩ := h
  simp [nextItem, skipBlanks_cons hblank]

lemma nextItem_later {s : List Char} (h : BeginsValue s) :
    nextItem false (',' :: s) = .ok (some s) := by
  obtain ⟨c, cs, rfl, hblank, hc⟩ := h
  simp [nextItem, skipBlanks_cons hblank, skipBlanks_cons (c := ',') rfl, hc]

lemma ends_itemsText (items : List Json) (rest : List Char) : Ends (itemsText items ++ rest) := by
  cases items with
  | nil => exact ends_cons (by simp) _
  | cons item items => exact ends_cons (by simp) _

lemma length_itemsText (items : List Json) : items.length < (itemsText items).length := by
  induction items with
  | nil => exact Nat.zero_lt_one
  | cons item rest ih =>
    rw [itemsText_cons]
    simp only [List.length_cons, List.length_append]
    omega

section
variable {item : Reader Json} {items : List Json} (h : ∀ v ∈ items, ReadsBack item v.text v)
  (hv : ∀ v ∈ items, v.IsExact)
include h hv

lemma readItems_itemsText {before : List Json} (hb : before ≠ []) {fuel : Nat}
    (hfuel : items.length < fuel) (rest : List Char) :
    readItems item fuel before (itemsText items ++ rest) = .ok (before.reverse ++ items, rest) := by
  have hlater : before.isEmpty = false := by simpa using hb
  -- the items that are read move from the text to the front of `before`
  induction items generalizing before fuel with
  | nil =>
    obtain ⟨more, rfl⟩ := Nat.exists_eq_succ_of_ne_zero (Nat.ne_zero_of_lt hfuel)
    rw [itemsText_nil, readItems, hlater, List.append_nil]
    rfl
  | cons v items ih =>
    obtain ⟨more, rfl⟩ := Nat.exists_eq_succ_of_ne_zero (Nat.ne_zero_of_lt hfuel)
    have hbegins := (beginsValue_text (hv v List.mem_cons_self)).append (itemsText items ++ rest)
    have hread := h v List.mem_cons_self _ (ends_itemsText items rest)
    rw [itemsText_cons, List.cons_append, List.append_assoc, readItems, hlater,
      nextItem_later hbegins]
    dsimp only
    rw [hread]
    dsimp only
    rw [ih (fun w hw => h w (List.mem_cons_of_mem v hw))
      (fun w hw => hv w (List.mem_cons_of_mem v hw)) (List.cons_ne_nil v before)
      (by simp at hfuel; omega) rfl]
    simp

lemma readList_text (rest : List Char) :
    ∃ behind, (array items).text ++ rest = '[' :: behind ∧
      readList item behind = .ok (items, rest) := by
  cases items with
  | nil => exact ⟨']' :: rest, rfl, rfl⟩
  | cons v items =>
    have hbegins := (beginsValue_text (hv v List.mem_cons_self)).append (itemsText items ++ rest)
    have hread := h v List.mem_cons_self _ (ends_itemsText items rest)
    have hlen := length_itemsText items
    refine ⟨v.text ++ (itemsText items ++ rest), by simp [text_array_cons], ?_⟩
    rw [readList, readItems, List.isEmpty_nil, nextItem_first hbegins]
    dsimp only
    rw [hread]
    exact readItems_itemsText (fun w hw => h w (List.mem_cons_of_mem v hw))
      (fun w hw => hv w (List.mem_cons_of_mem v hw)) (List.cons_ne_nil v [])
      (by simp only [List.length_append]; omega) rest

end

/-! ### Objects -/

lemma nextName_first (s : List Char) : nextName true ('"' :: s) = .ok (some s) := rfl

lemma nextName_later (s : List Char) : nextName false (',' :: '"' :: s) = .ok (some s) := rfl

lemma ends_membersText (members : List (String × Json)) (rest : List Char) :
    Ends (membersText members ++ rest) := by
  cases members with
  | nil => exact ends_cons (by simp) _
  | cons m members => exact ends_cons (by simp) _

lemma length_membersText (members : List (String × Json)) :
    members.length < (membersText members).length := by
  induction members with
  | nil => exact Nat.zero_lt_one
  | cons m rest ih =>
    rw [membersText_cons]
    simp only [List.length_cons, List.length_append]
    omega

/-- The value of a member, from its colon on. -/
lemma readColon_text {α : Type} {value : Reader α} {v : Json} {x : α}
    (h : ReadsBack value v.text x) {rest : List Char} (hrest : Ends rest) :
    (readColon (':' :: (v.text ++ rest)) >>= value) = .ok (x, rest) := h rest hrest

section
variable {α : Type} {value : Reader α} {members : List (String × Json)} {d : List (String × α)}
  (h : List.Forall₂ (fun m x => m.1 = x.1 ∧ ReadsBack value m.2.text x.2) members d)
include h

lemma readMembers_membersText {before : List (String × α)} (hb : before ≠ []) {fuel : Nat}
    (hfuel : members.length < fuel) (rest : List Char) :
    readMembers value fuel before (membersText members ++ rest) =
      .ok (before.reverse ++ d, rest) := by
  have hlater : before.isEmpty = false := by simpa using hb
  induction h generalizing before fuel with
  | nil =>
    obtain ⟨more, rfl⟩ := Nat.exists_eq_succ_of_ne_zero (Nat.ne_zero_of_lt hfuel)
    rw [membersText_nil, readMembers, hlater, List.append_nil]
    rfl
  | @cons m x members d hm _ ih =>
    obtain ⟨more, rfl⟩ := Nat.exists_eq_succ_of_ne_zero (Nat.ne_zero_of_lt hfuel)
    obtain ⟨hname, hread⟩ := hm
    rw [membersText_cons, List.cons_append, List.append_assoc, stringText_append,
      List.cons_append, List.append_assoc, readMembers, hlater, nextName_later]
    dsimp only
    rw [readString_escaped]
    dsimp only
    rw [readColon_text hread (ends_membersText members rest)]
    dsimp only
    rw [ih (List.cons_ne_nil (m.1, x.2) before) (by simp at hfuel; omega) rfl, hname]
    simp

lemma readDict_text (rest : List Char) :
    ∃ behind, (object members).text ++ rest = '\x7b' :: behind ∧
      readDict value behind = .ok (Dict.ofList d, rest) := by
  cases h with
  | nil => exact ⟨'\x7d' :: rest, rfl, rfl⟩
  | @cons m x members d hm hrest =>
    obtain ⟨hname, hread⟩ := hm
    have hlen := length_membersText members
    refine ⟨'"' :: (m.1.toList.flatMap escaped ++ '"' :: ':' ::
      (m.2.text ++ (membersText members ++ rest))), ?_, ?_⟩
    · rw [text_object_cons, List.cons_append, List.append_assoc, stringText_append]
      simp
    · rw [readDict, readMembers, List.isEmpty_nil, nextName_first]
      dsimp only
      rw [readString_escaped]
      dsimp only
      rw [readColon_text hread (ends_membersText members rest)]
      dsimp only
      rw [readMembers_membersText hrest (List.cons_ne_nil (m.1, x.2) [])
        (by simp only [List.length_append, List.length_cons]; omega), hname]
      rfl

end

/-! ### Values -/

lemma readWord_append (word rest : List Char) : readWord word (word ++ rest) = .ok rest := by
  induction word with
  | nil => rfl
  | cons w word ih => rw [List.cons_append, readWord, if_pos rfl, ih]

lemma integerNumber_natAbs {n : Int} (hleast : leastInteger ≤ n) :
    integerNumber (decide (n < 0)) n.natAbs = .integer n := by
  rw [leastInteger] at hleast
  by_cases hn : n < 0
  · have habs : 0 < n.natAbs ∧ n.natAbs ≤ 0x8000000000000000 := by omega
    rw [integerNumber, decide_eq_true hn, if_neg (by simp), if_pos habs]
    congr 1
    omega
  · rw [integerNumber, decide_eq_false hn, if_pos (by simp)]
    congr 1
    omega

lemma readNumber_natAbs {n : Int} (hleast : leastInteger ≤ n) (hgreatest : n ≤ greatestInteger)
    {rest : List Char} (hrest : Ends rest) :
    readNumber (decide (n < 0)) (Nat.toDigits 10 n.natAbs ++ rest) = .ok (.integer n, rest) := by
  have hlt : n.natAbs < 0x10000000000000000 := by
    rw [leastInteger] at hleast
    rw [greatestInteger] at hgreatest
    omega
  rw [readNumber_toDigits _ hlt hrest, integerNumber_natAbs hleast]

lemma readValueWith_digit (nested : Option (Reader Json)) {c : Char} (hc : isDigit c = true)
    (s : List Char) : readValueWith nested (c :: s) =
      readNumber false (c :: s) >>= fun (n, rest) => pure (.number n, rest) := by
  have hplain : isBlank c = false ∧ c ≠ 'n' ∧ c ≠ 't' ∧ c ≠ 'f' ∧ c ≠ '-' ∧ c ≠ '"' ∧ c ≠ '[' ∧
      c ≠ '\x7b' := of_isDigit (p := fun c => isBlank c = false ∧ c ≠ 'n' ∧ c ≠ 't' ∧ c ≠ 'f' ∧
        c ≠ '-' ∧ c ≠ '"' ∧ c ≠ '[' ∧ c ≠ '\x7b') (by decide) hc
  obtain ⟨hblank, hn, ht, hf, hm, hq, hl, ho⟩ := hplain
  rw [readValueWith, skipBlanks_cons hblank]
  simp [hc]

lemma readsBack_integer (nested : Option (Reader Json)) {n : Int} (hleast : leastInteger ≤ n)
    (hgreatest : n ≤ greatestInteger) :
    ReadsBack (readValueWith nested) (number (.integer n)).text (.number (.integer n)) := by
  intro rest hrest
  have hread := readNumber_natAbs hleast hgreatest hrest
  rw [text_integer, integerText]
  by_cases hn : n < 0
  · rw [decide_eq_true hn] at hread
    rw [if_pos hn, List.cons_append]
    change (readNumber true _ >>= _) = _
    rw [hread]
    rfl
  · rw [decide_eq_false hn] at hread
    obtain ⟨c, cs, hcs, hc⟩ := exists_digit_cons n.natAbs
    rw [if_neg hn]
    rw [hcs, List.cons_append] at hread ⊢
    rw [readValueWith_digit nested hc, hread]
    rfl

/-- A word that stands for a value. -/
lemma readsBack_word {α : Type} {read : Reader α} {c : Char} {word : List Char} {x : α}
    (h : ∀ s, read (c :: s) = readWord word s >>= fun rest => pure (x, rest)) :
    ReadsBack read (c :: word) x := by
  intro rest _
  rw [List.cons_append, h, readWord_append]
  rfl

lemma readsBack_bool (nested : Option (Reader Json)) (b : Bool) :
    ReadsBack (readValueWith nested) (bool b).text (bool b) := by
  cases b with
  | false => rw [text_false]; exact readsBack_word fun _ => rfl
  | true => rw [text_true]; exact readsBack_word fun _ => rfl

/-- Of the members of an object that have one name the last one is kept, and all are in order. -/
lemma readsBack_object {read : Reader Json} {members values : List (String × Json)}
    (h : List.Forall₂ (fun m x => m.1 = x.1 ∧ ReadsBack read m.2.text x.2) members values) :
    ReadsBack (readValueWith (some read)) (object members).text (object (Dict.ofList values)) := by
  intro rest _
  obtain ⟨behind, hbehind, hdict⟩ := readDict_text h rest
  rw [hbehind]
  change (readDict read behind >>= _) = _
  rw [hdict]
  rfl

lemma readsBack_readValueWith {nested : Option (Reader Json)} {v : Json} (hv : v.IsExact)
    (hnested : v.depth = 0 ∨ ∃ read, nested = some read ∧
      ∀ w : Json, w.IsExact → w.depth < v.depth → ReadsBack read w.text w) :
    ReadsBack (readValueWith nested) v.text v := by
  cases hv with
  | null => rw [text_null]; exact readsBack_word fun _ => rfl
  | bool b => exact readsBack_bool nested b
  | integer hleast hgreatest => exact readsBack_integer nested hleast hgreatest
  | string s =>
    intro rest _
    rw [text_string, stringText_append]
    change (readString _ >>= _) = _
    rw [readString_escaped]
    rfl
  | @array items hitems =>
    intro rest _
    rw [depth] at hnested
    obtain ⟨read, rfl, hread⟩ := hnested.resolve_left (Nat.succ_ne_zero _)
    have hback : ∀ w ∈ items, ReadsBack read w.text w := fun w hw =>
      hread w (hitems w hw) (Nat.lt_succ_of_le (depth_le_of_mem_items hw))
    obtain ⟨behind, hbehind, hlist⟩ := readList_text hback hitems rest
    rw [hbehind]
    change (readList read behind >>= _) = _
    rw [hlist]
    rfl
  | @object members hasc hmembers =>
    rw [depth] at hnested
    obtain ⟨read, rfl, hread⟩ := hnested.resolve_left (Nat.succ_ne_zero _)
    have hback : ∀ m ∈ members, m.1 = m.1 ∧ ReadsBack read m.2.text m.2 := fun m hm =>
      ⟨rfl, hread m.2 (hmembers m hm) (Nat.lt_succ_of_le (depth_le_of_mem_members hm))⟩
    have hobject := readsBack_object (List.forall₂_same.mpr hback)
    rwa [Dict.ofList_of_ascending hasc] at hobject

/-- A value that does not nest too deep is what its text means. -/
theorem readsBack_readValue {d : Nat} {v : Json} (hv : v.IsExact) (hd : v.depth ≤ d) :
    ReadsBack (readValue d) v.text v := by
  -- what a list or an object holds is read by the reader of one level less
  induction d generalizing v with
  | zero => exact readsBack_readValueWith hv (Or.inl (Nat.le_zero.mp hd))
  | succ d ih =>
    exact readsBack_readValueWith hv
      (Or.inr ⟨readValue d, rfl, fun w hw hlt => ih hw (by omega)⟩)

/-- An object whose members need not be in order. -/
lemma readsBack_members {d : Nat} {members : List (String × Json)}
    (hexact : ∀ m ∈ members, m.2.IsExact) (hd : depthOfMembers members ≤ d) :
    ReadsBack (readValue (d + 1)) (object members).text (object (Dict.ofList members)) := by
  refine readsBack_object (List.forall₂_same.mpr fun m hm => ⟨rfl, ?_⟩)
  exact readsBack_readValue (hexact m hm) ((depth_le_of_mem_members hm).trans hd)

/-! ### Whole texts -/

lemma decodeWith_of_readsBack {α : Type} {read : Reader α} {text : List Char} {x : α}
    (h : ReadsBack read text x) : decodeWith read text = .ok x := by
  have hread := h [] ends_nil
  rw [List.append_nil] at hread
  rw [decodeWith, hread]
  rfl

/-- The text of a value reads back as the value. -/
theorem parse_compact {v : Json} (hv : v.IsExact) (hd : v.depth ≤ greatestDepth) :
    parse v.compact = .ok v := by
  rw [parse, compact, String.toList_ofList]
  exact decodeWith_of_readsBack (readsBack_readValue hv hd)

end Json
end RestGateway
