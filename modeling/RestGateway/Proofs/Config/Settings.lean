import Mathlib
import RestGateway.Config.Document
import RestGateway.Proofs.Json.Ordered

/-! A section that is read is the section that it started from, with the fields replaced that the
document has something for: of the entries with one name the last one counts, items of a list count
by their places, and entries that name no setting do not count. -/
namespace RestGateway.Document

/-! ### What a document says -/

/-- The entries of a table. A point in time counts as a table with one entry. -/
def entries? : Document → Option (List (String × Document))
  | table entries => some entries
  | datetime text => some [(datetimeKey, string text)]
  | _ => none

/-- What a section has for a field: the last entry of its name, or the item at its place. -/
def part? (name : String) (place : Nat) : Document → Option Document
  | list items => items[place]?
  | d => d.entries?.bind fun entries => Dict.find? entries.reverse name

def IsText (d : Document) (s : String) : Prop := d = string s

def IsCount (d : Document) (n : Nat) : Prop := d = integer n

def IsSwitch (d : Document) (b : Bool) : Prop := d = bool b

/-- A table of texts has a text for each of its names and for no other one. -/
def IsTexts (d : Document) (texts : Dict String) : Prop :=
  texts.Ascending ∧ ∃ entries, d.entries? = some entries ∧
    ∀ key, Dict.find? entries.reverse key = (texts.find? key).map string

/-- A table in which every entry has a document that its name allows. -/
def EachEntry (Allows : String → Document → Prop) (d : Document) : Prop :=
  ∃ entries, d.entries? = some entries ∧ ∀ entry ∈ entries, Allows entry.1 entry.2

/-- A value is what the part of a document says, and the usual one where there is no such part. -/
def Settled {α : Type} (Says : Document → α → Prop) (usual : α) (part : Option Document) (x : α) :
    Prop :=
  match part with
  | some d => Says d x
  | none => x = usual

section
variable {α : Type} {Says : Document → α → Prop} {x y z : α}

@[simp]
lemma settled_some {d : Document} : Settled Says x (some d) y ↔ Says d y := Iff.rfl

@[simp]
lemma settled_none : Settled Says x none y ↔ y = x := Iff.rfl

/-- Of two parts that come one after the other the later one counts. -/
lemma Settled.or {p q : Option Document} (hp : Settled Says x p y) (hq : Settled Says y q z) :
    Settled Says x (q.or p) z := by
  cases q with
  | some d => exact hq
  | none =>
    rw [settled_none] at hq
    rwa [hq, Option.none_or]

/-- What holds of everything that a document can say, and of the usual value. -/
lemma Settled.holds {P : α → Prop} {p : Option Document} (h : Settled Says x p y)
    (hsaid : ∀ d, Says d y → P y) (husual : P x) : P y := by
  cases p with
  | some d => exact hsaid d h
  | none => exact settled_none.mp h ▸ husual

lemma Settled.unique (h : Relator.RightUnique Says) {p : Option Document}
    (hy : Settled Says x p y) (hz : Settled Says x p z) : y = z := by
  cases p with
  | some d => exact h hy hz
  | none => exact hy.trans hz.symm

end

lemma rightUnique_isText : Relator.RightUnique IsText :=
  fun _ _ _ hs ht => string.inj (hs.symm.trans ht)

lemma rightUnique_isCount : Relator.RightUnique IsCount :=
  fun _ _ _ hm hn => Int.natCast_inj.mp (integer.inj (hm.symm.trans hn))

lemma rightUnique_isSwitch : Relator.RightUnique IsSwitch :=
  fun _ _ _ ha hb => bool.inj (ha.symm.trans hb)

lemma rightUnique_isTexts : Relator.RightUnique IsTexts := by
  rintro d texts others ⟨hasc, entries, hentries, hfind⟩ ⟨hasc', entries', hentries', hfind'⟩
  obtain rfl := Option.some.inj (hentries.symm.trans hentries')
  refine Dict.eq_of_find?_eq hasc hasc' fun key => ?_
  have hstring : Function.Injective string := fun _ _ => string.inj
  exact Option.map_injective hstring ((hfind key).symm.trans (hfind' key))

/-! ### Reading values -/

@[simp]
lemma readString_eq_ok_iff {d : Document} {s : String} : readString d = .ok s ↔ d.IsText s := by
  cases d <;> simp [readString, IsText]

@[simp]
lemma readBool_eq_ok_iff {d : Document} {b : Bool} : readBool d = .ok b ↔ d.IsSwitch b := by
  cases d <;> simp [readBool, IsSwitch]

@[simp]
lemma readNatural_eq_ok_iff {called : String} {d : Document} {n : Nat} :
    readNatural called d = .ok n ↔ d.IsCount n := by
  cases d with
  | integer m =>
    simp only [readNatural, IsCount, integer.injEq]
    split_ifs with hm
    · rw [Except.ok.injEq]
      omega
    · simp only [false_iff]
      omega
  | _ => simp [readNatural, IsCount]

@[simp]
lemma readString_string (s : String) : readString (string s) = .ok s := rfl

@[simp]
lemma readBool_bool (b : Bool) : readBool (bool b) = .ok b := rfl

@[simp]
lemma readNatural_integer (called : String) (n : Nat) : readNatural called (integer n) = .ok n :=
  readNatural_eq_ok_iff.mpr rfl

lemma isTexts_of_readEntries {entries : List (String × Document)} {texts : Dict String}
    (h : readEntries entries = .ok texts) : texts.Ascending ∧
      ∀ key, Dict.find? entries.reverse key = (texts.find? key).map string := by
  induction entries generalizing texts with
  | nil =>
    obtain rfl := Except.ok.inj h
    exact ⟨Dict.ascending_nil, fun _ => rfl⟩
  | cons entry entries ih =>
    obtain ⟨name, d⟩ := entry
    obtain ⟨value, hvalue, h⟩ := Json.bind_eq_ok_iff.mp h
    obtain ⟨rest, hrest, h⟩ := Json.bind_eq_ok_iff.mp h
    obtain ⟨hasc, hfind⟩ := ih hrest
    obtain rfl := Except.ok.inj h
    obtain rfl := readString_eq_ok_iff.mp hvalue
    refine ⟨Dict.ascending_insertNew hasc name value, fun key => ?_⟩
    rw [List.reverse_cons, Dict.find?_append, hfind, Dict.find?_insertNew hasc, Dict.find?_cons]
    cases rest.find? key with
    | some text => rfl
    | none => split_ifs <;> rfl

lemma isTexts_of_readTexts {d : Document} {texts : Dict String} (h : readTexts d = .ok texts) :
    d.IsTexts texts := by
  unfold readTexts at h
  split at h
  · obtain ⟨hasc, hfind⟩ := isTexts_of_readEntries h
    exact ⟨hasc, _, rfl, hfind⟩
  · next text =>
    have hentries : readEntries [(datetimeKey, string text)] = .ok texts := h
    obtain ⟨hasc, hfind⟩ := isTexts_of_readEntries hentries
    exact ⟨hasc, _, rfl, hfind⟩
  · simp at h

lemma exists_readEntries {entries : List (String × Document)}
    (h : ∀ entry ∈ entries, ∃ s, entry.2.IsText s) : ∃ texts, readEntries entries = .ok texts := by
  induction entries with
  | nil => exact ⟨[], rfl⟩
  | cons entry entries ih =>
    obtain ⟨key, d⟩ := entry
    obtain ⟨⟨text, htext⟩, hentries⟩ := List.forall_mem_cons.mp h
    obtain ⟨texts, htexts⟩ := ih hentries
    refine ⟨texts.insertNew key text, ?_⟩
    rw [readEntries, readString_eq_ok_iff.mpr htext, htexts]
    rfl

lemma exists_readTexts {d : Document} (h : d.EachEntry fun _ part => ∃ s, part.IsText s) :
    ∃ texts, readTexts d = .ok texts := by
  obtain ⟨entries, hentries, htexts⟩ := h
  cases d with
  | table _ =>
    obtain rfl := Option.some.inj hentries
    exact exists_readEntries htexts
  | datetime text => exact ⟨_, rfl⟩
  | _ => simp [entries?] at hentries

/-! ### Reading sections -/

-- whatever its kind, a setting is one by the way in which its value is read and stored
attribute [simp] Setting.ofText Setting.ofSize Setting.ofSeconds Setting.ofSwitch Setting.ofSection

section
variable {σ α : Type} {dialect : Dialect} {settings : List (Setting σ)} {name : String}
  {field : σ → α} {Says : Document → α → Prop}

/-- Reading a setting changes a field if it is the field's own setting, and to what is read. -/
def Setting.Settles (dialect : Dialect) (name : String) (field : σ → α)
    (Says : Document → α → Prop) (setting : Setting σ) : Prop :=
  ∀ d change, setting.read dialect d = .ok change →
    ∀ x, Settled Says (field x) (if name = setting.name then some d else none) (field (change x))

@[simp]
lemma Setting.settles_of_iff {β : Type} {label : String}
    {read : Dialect → Document → Except Mismatch β} {store : σ → β → σ} :
    (Setting.of label read store).Settles dialect name field Says ↔
      ∀ d value, read dialect d = .ok value → ∀ x,
        Settled Says (field x) (if name = label then some d else none) (field (store x value)) := by
  constructor
  · intro h d value hvalue
    refine h d (fun x => store x value) ?_
    simp [Setting.of, hvalue, bind, Except.bind, pure, Except.pure]
  · intro h d change hchange
    obtain ⟨value, hvalue, hc⟩ := Json.bind_eq_ok_iff.mp hchange
    obtain rfl := Except.ok.inj hc
    exact h d value hvalue

@[simp]
lemma ok_bind {ε β γ : Type} (value : β) (f : β → Except ε γ) :
    (Except.ok value >>= f) = f value := rfl

@[simp]
lemma exists_bind_ok_iff {ε β γ : Type} {value : Except ε β} {f : β → γ} :
    (∃ y, (value >>= fun v => Except.ok (f v)) = .ok y) ↔ ∃ v, value = .ok v := by
  cases value with
  | error e => simp [bind, Except.bind]
  | ok v => simp

@[simp]
lemma Setting.name_of {β : Type} (label : String) (read : Dialect → Document → Except Mismatch β)
    (store : σ → β → σ) : (Setting.of label read store).name = label := rfl

@[simp]
lemma Setting.read_of {β : Type} (label : String) (read : Dialect → Document → Except Mismatch β)
    (store : σ → β → σ) (d : Document) : (Setting.of label read store).read dialect d =
      read dialect d >>= fun value => .ok fun x => store x value := rfl

/-- What an entry of a table changes. One that names no setting changes nothing. -/
def entryChange (dialect : Dialect) (settings : List (Setting σ)) (entry : String × Document) :
    Except Mismatch (σ → σ) :=
  match settings.find? fun s => s.name == entry.1 with
  | none => .ok id
  | some s => s.read dialect entry.2

lemma readSettings_cons (x : σ) (entry : String × Document) (entries : List (String × Document)) :
    readSettings dialect settings x (entry :: entries) =
      entryChange dialect settings entry >>= fun change =>
        readSettings dialect settings (change x) entries := by
  rw [readSettings, entryChange]
  cases settings.find? fun s => s.name == entry.1 <;> rfl

lemma entryChange_of_notMem {entry : String × Document}
    (h : entry.1 ∉ settings.map Setting.name) : entryChange dialect settings entry = .ok id := by
  have hnone : (settings.find? fun s => s.name == entry.1) = none := by
    simpa [List.find?_eq_none] using h
  rw [entryChange, hnone]

lemma exists_setting {entry : String × Document} {change : σ → σ}
    (h : entryChange dialect settings entry = .ok change) :
    (entry.1 ∉ settings.map Setting.name ∧ change = id) ∨
      ∃ s ∈ settings, s.name = entry.1 ∧ s.read dialect entry.2 = .ok change := by
  unfold entryChange at h
  split at h
  · next hnone => exact Or.inl ⟨by simpa [List.find?_eq_none] using hnone, (Except.ok.inj h).symm⟩
  · next s hs =>
    exact Or.inr ⟨s, List.mem_of_find?_eq_some hs, by simpa using List.find?_some hs, h⟩

lemma settled_of_readSettings (h : ∀ s ∈ settings, s.Settles dialect name field Says)
    (hname : name ∈ settings.map Setting.name) {entries : List (String × Document)} {x y : σ}
    (hread : readSettings dialect settings x entries = .ok y) :
    Settled Says (field x) (Dict.find? entries.reverse name) (field y) := by
  induction entries generalizing x with
  | nil => exact congrArg field (Except.ok.inj hread).symm
  | cons entry entries ih =>
    rw [readSettings_cons] at hread
    obtain ⟨change, hchange, hrest⟩ := Json.bind_eq_ok_iff.mp hread
    -- what the first entry says counts only where the later ones say nothing
    rw [List.reverse_cons, Dict.find?_append, Dict.find?_cons]
    refine Settled.or ?_ (ih hrest)
    rcases exists_setting hchange with ⟨hnone, rfl⟩ | ⟨s, hs, heq, hs'⟩
    · have hne : name ≠ entry.1 := fun heq => hnone (heq ▸ hname)
      rw [if_neg hne]
      exact settled_none.mpr rfl
    · rw [← heq]
      exact h s hs entry.2 change hs' x

lemma keeps_of_readOrdered (h : ∀ s ∈ settings, s.Settles dialect name field Says)
    (hname : name ∉ settings.map Setting.name) {items : List Document} {length : Nat} {x y : σ}
    (hread : readOrdered dialect length x settings items = .ok y) : field y = field x := by
  induction settings generalizing items x with
  | nil =>
    cases items with
    | nil => rw [Except.ok.inj hread]
    | cons d items =>
      rw [readOrdered] at hread
      split_ifs at hread
      rw [Except.ok.inj hread]
  | cons s settings ih =>
    cases items with
    | nil => rw [Except.ok.inj hread]
    | cons d items =>
      obtain ⟨change, hchange, hrest⟩ := Json.bind_eq_ok_iff.mp hread
      obtain ⟨hs, hsettings⟩ := List.forall_mem_cons.mp h
      obtain ⟨hne, hnames⟩ := List.ne_and_not_mem_of_not_mem_cons hname
      have hstep := hs d change hchange x
      rw [if_neg hne, settled_none] at hstep
      rw [ih hsettings hnames hrest, hstep]

lemma settled_of_readOrdered (h : ∀ s ∈ settings, s.Settles dialect name field Says)
    (hnames : (settings.map Setting.name).Nodup) {place : Nat}
    (hplace : (settings.map Setting.name)[place]? = some name) {items : List Document}
    {length : Nat} {x y : σ} (hread : readOrdered dialect length x settings items = .ok y) :
    Settled Says (field x) items[place]? (field y) := by
  induction settings generalizing place items x with
  | nil => simp at hplace
  | cons s settings ih =>
    cases items with
    | nil => exact congrArg field (Except.ok.inj hread).symm
    | cons d items =>
      obtain ⟨change, hchange, hrest⟩ := Json.bind_eq_ok_iff.mp hread
      obtain ⟨hs, hsettings⟩ := List.forall_mem_cons.mp h
      obtain ⟨hnew, hnodup⟩ := List.nodup_cons.mp hnames
      have hstep := hs d change hchange x
      cases place with
      | zero =>
        -- no setting behind this one has the name
        obtain rfl : s.name = name := by simpa using hplace
        rw [if_pos rfl] at hstep
        exact hstep.or (settled_none.mpr (keeps_of_readOrdered hsettings hnew hrest))
      | succ place =>
        have hrestPlace : (settings.map Setting.name)[place]? = some name := hplace
        have hne : name ≠ s.name := fun heq => hnew (heq ▸ List.mem_of_getElem? hrestPlace)
        rw [if_neg hne, settled_none] at hstep
        rw [List.getElem?_cons_succ, ← hstep]
        exact ih hsettings hnodup hrestPlace hrest

lemma readSection_of_entries? {called : String} {x : σ} {d : Document}
    {entries : List (String × Document)} (h : d.entries? = some entries) :
    readSection called settings x dialect d = readSettings dialect settings x entries := by
  cases d with
  | table _ => rw [← Option.some.inj h]; rfl
  | datetime _ => rw [← Option.some.inj h]; rfl
  | _ => simp [entries?] at h

/-- A field of a section is what the section's document has for it, and otherwise what it was. -/
theorem settled_of_readSection (hnames : (settings.map Setting.name).Nodup) {place : Nat}
    (hplace : (settings.map Setting.name)[place]? = some name)
    (h : ∀ s ∈ settings, s.Settles dialect name field Says) {called : String} {x y : σ}
    {d : Document} (hread : readSection called settings x dialect d = .ok y) :
    Settled Says (field x) (d.part? name place) (field y) := by
  have hentries : ∀ entries, d.entries? = some entries →
      Settled Says (field x) (Dict.find? entries.reverse name) (field y) := by
    intro entries he
    rw [readSection_of_entries? he] at hread
    exact settled_of_readSettings h (List.mem_of_getElem? hplace) hread
  cases d with
  | list items => exact settled_of_readOrdered h hnames hplace hread
  | table entries => exact hentries entries rfl
  | datetime text => exact hentries _ rfl
  | _ => simp [readSection] at hread

/-- A table is read whatever settings it has, when each one of them is. -/
theorem exists_readSection {Allows : String → Document → Prop} {d : Document}
    (h : d.EachEntry Allows) (hread : ∀ key part, Allows key part → ∀ s ∈ settings,
      key = s.name → ∃ change, s.read dialect part = .ok change) (called : String) (x : σ) :
    ∃ y, readSection called settings x dialect d = .ok y := by
  obtain ⟨entries, hentries, hallows⟩ := h
  rw [readSection_of_entries? hentries]
  clear hentries
  induction entries generalizing x with
  | nil => exact ⟨x, rfl⟩
  | cons entry entries ih =>
    obtain ⟨hentry, hrest⟩ := List.forall_mem_cons.mp hallows
    have hchange : ∃ change, entryChange dialect settings entry = .ok change := by
      unfold entryChange
      split
      · exact ⟨id, rfl⟩
      · next s hs =>
        have hname : s.name = entry.1 := by simpa using List.find?_some hs
        exact hread _ _ hentry s (List.mem_of_find?_eq_some hs) hname.symm
    obtain ⟨change, hchange⟩ := hchange
    obtain ⟨y, hy⟩ := ih (change x) hrest
    exact ⟨y, by rw [readSettings_cons, hchange, ok_bind, hy]⟩

/-! ### Names of no setting -/

/-- The document without the entries that have other names. -/
def only (names : List String) : Document → Document
  | table entries => table (entries.filter fun entry => names.contains entry.1)
  | d => d

/-- Entries that name no setting may be missing, and others may have another document that is read
in the same way. -/
lemma readSettings_filterMap {change : String × Document → Option (String × Document)}
    (hnone : ∀ entry, change entry = none → entry.1 ∉ settings.map Setting.name)
    (hsome : ∀ entry other, change entry = some other →
      entryChange dialect settings other = entryChange dialect settings entry)
    (x : σ) (entries : List (String × Document)) :
    readSettings dialect settings x (entries.filterMap change) =
      readSettings dialect settings x entries := by
  induction entries generalizing x with
  | nil => rfl
  | cons entry entries ih =>
    rw [readSettings_cons]
    cases hc : change entry with
    | none =>
      rw [List.filterMap_cons_none hc, ih, entryChange_of_notMem (hnone entry hc)]
      rfl
    | some other =>
      rw [List.filterMap_cons_some hc, readSettings_cons, hsome entry other hc]
      simp only [ih]

lemma readSection_only (called : String) (x : σ) (d : Document) :
    readSection called settings x dialect (d.only (settings.map Setting.name)) =
      readSection called settings x dialect d := by
  cases d with
  | table entries =>
    change readSettings dialect settings x (entries.filter _) = readSettings _ _ _ _
    rw [← List.filterMap_eq_filter]
    refine readSettings_filterMap (fun entry hn => ?_) (fun entry other hs => ?_) x entries
    · simpa using hn
    · obtain ⟨rfl, -⟩ := Option.guard_eq_some_iff.mp hs
      rfl
  | _ => rfl

lemma Setting.read_ofSection_only {τ : Type} (label called : String) (inner : List (Setting τ))
    (usual : τ) (store : σ → τ → σ) (d : Document) :
    (Setting.ofSection label called inner usual store).read dialect
        (d.only (inner.map Setting.name)) =
      (Setting.ofSection label called inner usual store).read dialect d := by
  simp only [Setting.ofSection, Setting.of, readSection_only]

/-! ### The order of entries -/

/-- It does not matter which of two settings is taken over first. -/
def Setting.Commutes (s t : Setting σ) : Prop :=
  ∀ dialect d e f g, s.read dialect d = .ok f → t.read dialect e = .ok g →
    ∀ x, f (g x) = g (f x)

instance : Std.Symm (@Setting.Commutes σ) where
  symm _ _ h dialect d e f g hf hg x := (h dialect e d g f hg hf x).symm

lemma Setting.commutes_of {β γ : Type} {label label' : String}
    {read : Dialect → Document → Except Mismatch β}
    {read' : Dialect → Document → Except Mismatch γ} {store : σ → β → σ} {store' : σ → γ → σ}
    (h : ∀ x v w, store (store' x w) v = store' (store x v) w) :
    (Setting.of label read store).Commutes (Setting.of label' read' store') := by
  intro dialect d e f g hf hg x
  obtain ⟨v, -, hv⟩ := Json.bind_eq_ok_iff.mp hf
  obtain ⟨w, -, hw⟩ := Json.bind_eq_ok_iff.mp hg
  rw [← Except.ok.inj hv, ← Except.ok.inj hw]
  exact h x v w

lemma commute_of_entryChange (hcomm : settings.Pairwise Setting.Commutes)
    {entry other : String × Document} (hne : entry.1 ≠ other.1) {f g : σ → σ}
    (hf : entryChange dialect settings entry = .ok f)
    (hg : entryChange dialect settings other = .ok g) (x : σ) : f (g x) = g (f x) := by
  rcases exists_setting hf with ⟨-, rfl⟩ | ⟨s, hs, hsn, hsf⟩
  · rfl
  · rcases exists_setting hg with ⟨-, rfl⟩ | ⟨t, ht, htn, htg⟩
    · rfl
    · have hst : s ≠ t := fun heq => hne (by rw [← hsn, ← htn, heq])
      exact hcomm.forall hs ht hst dialect _ _ f g hsf htg x

/-- Entries with different names may come in any order. -/
lemma readSettings_perm (hcomm : settings.Pairwise Setting.Commutes)
    {entries others : List (String × Document)} (hperm : entries.Perm others)
    (hnames : (entries.map Prod.fst).Nodup) {x y : σ}
    (h : readSettings dialect settings x entries = .ok y) :
    readSettings dialect settings x others = .ok y := by
  induction hperm generalizing x with
  | nil => exact h
  | cons entry _ ih =>
    rw [readSettings_cons] at h ⊢
    obtain ⟨change, hchange, hrest⟩ := Json.bind_eq_ok_iff.mp h
    exact Json.bind_eq_ok_iff.mpr ⟨change, hchange, ih (List.nodup_cons.mp hnames).2 hrest⟩
  | swap entry other entries =>
    simp only [readSettings_cons, Json.bind_eq_ok_iff] at h ⊢
    obtain ⟨g, hg, f, hf, hrest⟩ := h
    have hne : other.1 ≠ entry.1 :=
      (List.ne_and_not_mem_of_not_mem_cons (List.nodup_cons.mp hnames).1).1
    -- the same changes are made, in the other order
    refine ⟨f, hf, g, hg, ?_⟩
    rwa [commute_of_entryChange hcomm hne hg hf]
  | trans hperm _ ih ih' => exact ih' ((hperm.map Prod.fst).nodup hnames) (ih hnames h)

end

end RestGateway.Document
