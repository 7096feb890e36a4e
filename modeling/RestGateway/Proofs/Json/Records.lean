import Mathlib
import RestGateway.Call
import RestGateway.Proofs.Json.RoundTrip

/-! The text of a record reads back as the record when its members fill it one after the other, each
with a name of its own. A field that is left out keeps the value it has when absent. -/
namespace RestGateway.Json
open Text (isDigit)

/-! ### Values of fields -/

lemma ReadsBack.into {α σ : Type} {read : Reader α} {text : List Char} {value : α}
    (h : ReadsBack read text value) {store : σ → α → σ} {x y : σ} (hy : store x value = y) :
    ReadsBack (read.into store x) text y := by
  intro rest hrest
  rw [Reader.into, h rest hrest, ← hy]
  rfl

lemma readsBack_readBoolean (b : Bool) : ReadsBack readBoolean (bool b).text b := by
  cases b with
  | false => rw [text_false]; exact readsBack_word fun _ => rfl
  | true => rw [text_true]; exact readsBack_word fun _ => rfl

lemma readsBack_readNatural {n : Nat} (h : (n : Int) ≤ greatestInteger) :
    ReadsBack readNatural (ofNat n).text n := by
  intro rest hrest
  have hread := readNumber_natAbs (n := n) (by rw [leastInteger]; omega) h hrest
  obtain ⟨c, cs, hcs, hc⟩ := exists_digit_cons n
  have hplain : isBlank c = false ∧ c ≠ '-' :=
    of_isDigit (p := fun c => isBlank c = false ∧ c ≠ '-') (by decide) hc
  obtain ⟨hblank, hminus⟩ := hplain
  rw [ofNat, text_integer, integerText, if_neg (by omega)]
  rw [decide_eq_false (by omega)] at hread
  rw [Int.natAbs_natCast] at hread ⊢
  rw [hcs, List.cons_append] at hread ⊢
  rw [readNatural, skipBlanks_cons hblank]
  simp [hc, hread, naturalOfNumber, bind, Except.bind]

/-- Where a value may be null, another one is found all the same. -/
lemma ReadsBack.nullable {α : Type} {read : Reader α} {c : Char} {cs : List Char} {x : α}
    (h : ReadsBack read (c :: cs) x) (hblank : isBlank c = false) (hc : c ≠ 'n') :
    ReadsBack (readNullable read) (c :: cs) (some x) := by
  intro rest hrest
  have hread := h rest hrest
  rw [List.cons_append] at hread ⊢
  rw [readNullable, skipBlanks_cons hblank]
  split
  · next heq => exact absurd (List.cons.inj heq).1 hc
  · rw [hread]
    rfl

lemma readsBack_readTable {α : Type} {value : Reader α} {members : List (String × Json)}
    {d : Dict α} (hd : d.Ascending)
    (h : List.Forall₂ (fun m x => m.1 = x.1 ∧ ReadsBack value m.2.text x.2) members d) :
    ReadsBack (readTable value) (object members).text d := by
  intro rest _
  obtain ⟨behind, hbehind, hdict⟩ := readDict_text h rest
  rw [hbehind]
  change readDict value behind = _
  rw [hdict, Dict.ofList_of_ascending hd]

lemma readsBack_texts {d : Dict String} (hd : d.Ascending) :
    ReadsBack (readTable readText) (object (d.map fun (key, value) => (key, string value))).text
      d := by
  refine readsBack_readTable hd (List.forall₂_map_left_iff.mpr (List.forall₂_same.mpr ?_))
  rintro ⟨key, value⟩ -
  exact ⟨rfl, readsBack_readText value⟩

lemma readsBack_values {depth : Nat} {d : Dict Json} (hd : (object d).IsExact)
    (hdepth : depthOfMembers d ≤ depth) :
    ReadsBack (readTable (readValue depth)) (object d).text d := by
  obtain _ | _ | _ | _ | _ | ⟨hasc, hvalues⟩ := hd
  refine readsBack_readTable hasc (List.forall₂_same.mpr fun m hm => ⟨rfl, ?_⟩)
  exact readsBack_readValue (hvalues m hm) ((depth_le_of_mem_members hm).trans hdepth)

/-! ### Fields in order -/

/-- Members fill a record, each the field of its name. -/
inductive Fills {σ : Type} (shape : Shape σ) : σ → List (String × Json) → σ → Prop where
  | nil (x : σ) : Fills shape x [] x
  | cons {x y z : σ} {name : String} {v : Json} {members : List (String × Json)} {field : Field σ} :
      (shape.fields.find? fun field => field.name == name) = some field →
      ReadsBack (field.read x) v.text y → Fills shape y members z →
      Fills shape x ((name, v) :: members) z

section
variable {σ : Type} {shape : Shape σ} {x y z : σ} {members : List (String × Json)}

lemma Fills.append {more : List (String × Json)} (h : Fills shape x members y)
    (hmore : Fills shape y more z) : Fills shape x (members ++ more) z := by
  induction h with
  | nil => exact hmore
  | cons hfield hread _ ih => exact .cons hfield hread (ih hmore)

section
variable {α : Type} {name label : String} {required : Bool}

/-- A field that is read and stored. -/
lemma Fills.member {read : Reader α} {store : σ → α → σ} {v : Json} {value : α}
    (hfield : (shape.fields.find? fun field => field.name == name) =
      some ⟨label, required, read.into store⟩)
    (hread : ReadsBack read v.text value) (h : Fills shape (store x value) members z) :
    Fills shape x ((name, v) :: members) z := .cons hfield (hread.into rfl) h

/-- A field that is left out when there is no value. -/
lemma Fills.nullable {json : α → Json} {read : Reader α} {store : σ → Option α → σ} {o : Option α}
    (hfield : (shape.fields.find? fun field => field.name == name) =
      some ⟨label, required, (readNullable read).into store⟩)
    (hnone : store x none = x) (hy : store x o = y)
    (hread : ∀ value, o = some value →
      ReadsBack (readNullable read) (json value).text (some value)) :
    Fills shape x (optionalField name json o) y := by
  cases o with
  | none =>
    rw [← hy, hnone]
    exact .nil x
  | some value => exact .cons hfield ((hread value rfl).into hy) (.nil y)

/-- A field that is left out when it is empty. -/
lemma Fills.table {store : σ → Dict String → σ} {d : Dict String}
    (hfield : (shape.fields.find? fun field => field.name == name) =
      some ⟨label, required, (readTable readText).into store⟩)
    (hempty : store x [] = x) (hy : store x d = y) (hd : d.Ascending) :
    Fills shape x (dictField name d) y := by
  rw [dictField]
  split_ifs with hnone
  · rw [← hy, List.isEmpty_iff.mp hnone, hempty]
    exact .nil x
  · exact .cons hfield ((readsBack_texts hd).into hy) (.nil y)

end

lemma readMember_text {name : String} {field : Field σ}
    (hfield : (shape.fields.find? fun field => field.name == name) = some field)
    {seen : List String} (hseen : name ∉ seen) {v : Json}
    (hread : ReadsBack (field.read x) v.text y) {rest : List Char} (hrest : Ends rest) :
    shape.readMember seen x name (':' :: (v.text ++ rest)) = .ok (name :: seen, y, rest) := by
  rw [Shape.readMember, hfield]
  simp [hseen, readColon_text hread hrest]

lemma missing?_eq_none {seen : List String}
    (h : ∀ field ∈ shape.fields, field.required = true → field.name ∈ seen) :
    shape.missing? seen = none := by
  rw [Shape.missing?, Option.map_eq_none_iff, List.find?_eq_none]
  intro field hfield
  cases hr : field.required with
  | false => simp
  | true => simp [h field hfield hr]

lemma readFields_membersText (h : Fills shape x members y) {seen : List String}
    (hnames : (members.map Prod.fst ++ seen).Nodup)
    (hmissing : ∀ field ∈ shape.fields, field.required = true →
      field.name ∈ members.map Prod.fst ++ seen)
    {fuel : Nat} (hfuel : members.length < fuel) (rest : List Char) :
    shape.readFields fuel false seen x (membersText members ++ rest) = .ok (y, rest) := by
  -- a name that is read moves to `seen`; the names of both together stay the same
  induction h generalizing seen fuel with
  | nil x =>
    obtain ⟨more, rfl⟩ := Nat.exists_eq_succ_of_ne_zero (Nat.ne_zero_of_lt hfuel)
    have hclosed : nextName false ('\x7d' :: rest) = .ok none := rfl
    have hnone : shape.missing? seen = none := missing?_eq_none hmissing
    rw [membersText_nil, Shape.readFields, List.singleton_append, hclosed]
    dsimp only
    rw [hnone]
    rfl
  | @cons x y z name v members field hfield hread _ ih =>
    obtain ⟨more, rfl⟩ := Nat.exists_eq_succ_of_ne_zero (Nat.ne_zero_of_lt hfuel)
    have hnew : name ∉ members.map Prod.fst ++ seen := (List.nodup_cons.mp hnames).1
    have hmember := readMember_text hfield (fun hs => hnew (List.mem_append_right _ hs)) hread
      (ends_membersText members rest)
    rw [membersText_cons, List.cons_append, List.append_assoc, stringText_append,
      List.cons_append, List.append_assoc, Shape.readFields, nextName_later]
    dsimp only
    rw [readString_escaped]
    dsimp only
    rw [hmember]
    refine ih (List.nodup_middle.mpr hnames) (fun f hf hr => ?_) (Nat.lt_of_succ_lt_succ hfuel)
    have hmem := hmissing f hf hr
    simp only [List.map_cons, List.cons_append, List.mem_cons, List.mem_append] at hmem ⊢
    tauto

/-- The text of members that fill a record reads back as the record. -/
theorem Fills.readsBack (h : Fills shape shape.absent members y)
    (hnames : (members.map Prod.fst).Nodup)
    (hmissing : ∀ field ∈ shape.fields, field.required = true → field.name ∈ members.map Prod.fst) :
    ReadsBack shape.reader (object members).text y := by
  intro rest _
  cases h with
  | nil =>
    have hclosed : nextName true ('\x7d' :: rest) = .ok none := rfl
    have hnone : shape.missing? [] = none := missing?_eq_none hmissing
    change shape.readFields _ true [] shape.absent ('\x7d' :: rest) = _
    rw [Shape.readFields, hclosed]
    dsimp only
    rw [hnone]
    rfl
  | @cons _ y _ name v members field hfield hread hmore =>
    have hlen := length_membersText members
    have hmember := readMember_text hfield List.not_mem_nil hread (ends_membersText members rest)
    rw [text_object_cons]
    simp only [List.cons_append, List.append_assoc, stringText_append]
    change shape.readFields _ true [] shape.absent ('"' :: _) = _
    rw [Shape.readFields, nextName_first]
    dsimp only
    rw [readString_escaped]
    dsimp only
    rw [hmember]
    refine readFields_membersText hmore (List.nodup_middle.mpr (by simpa using hnames))
      (fun f hf hr => ?_) (by simp only [List.length_append, List.length_cons]; omega) rest
    have hmem := hmissing f hf hr
    simp only [List.map_cons, List.mem_cons, List.mem_append] at hmem ⊢
    tauto

lemma Fills.decodeWith_compact (h : Fills shape shape.absent members y)
    (hnames : (members.map Prod.fst).Nodup)
    (hmissing : ∀ field ∈ shape.fields, field.required = true → field.name ∈ members.map Prod.fst) :
    decodeWith shape.reader (object members).compact.toList = .ok y := by
  rw [compact, String.toList_ofList]
  exact decodeWith_of_readsBack (h.readsBack hnames hmissing)

end

end RestGateway.Json
