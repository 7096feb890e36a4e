import RestGateway.Json.Shape

/-!
# Configuration documents

A document is a tree of tables, lists and simple values. Settings are read from it in the same way
in whatever notation it was written; a `Dialect` says in what little the notations differ.
-/
namespace RestGateway

inductive Document where
  | null
  | bool (value : Bool)
  | integer (value : Int)
  | float (shown : String)
  | string (value : String)
  /-- A point in time. It counts as a table with one entry. -/
  | datetime (text : String)
  | list (items : List Document)
  | table (entries : List (String × Document))
  deriving Repr

namespace Document

/-- The name of the only entry of a point in time. -/
def datetimeKey : String := "$__toml_private_datetime"

def found : Document → Found
  | null => .null
  | bool b => .bool b
  | integer n => .integer n
  | float shown => .float shown
  | string s => .string s
  | datetime _ => .map
  | list _ => .sequence
  | table _ => .map

mutual

def ofJson : Json → Document
  | .null => null
  | .bool b => bool b
  | .number (.integer n) => integer n
  | .number (.float x) => float (String.ofList (Number.text (.float x)))
  | .string s => string s
  | .array items => list (ofItems items)
  | .object members => table (ofMembers members)

def ofItems : List Json → List Document
  | [] => []
  | v :: rest => ofJson v :: ofItems rest

def ofMembers : List (String × Json) → List (String × Document)
  | [] => []
  | (key, v) :: rest => (key, ofJson v) :: ofMembers rest

end

structure Dialect where
  surplusAllowed : Bool
  /-- What is wrong with a choice that is neither a name nor a table with one entry. -/
  choiceProblem : Document → Mismatch
  /-- What is wrong with the content of a choice that has none. -/
  contentProblem : Document → Option Mismatch

namespace Dialect

/-- In JSON a list has no items left over, and a choice without content is written as null. -/
def json : Dialect where
  surplusAllowed := false
  choiceProblem
    | table _ => .wrongValue .map "map with a single key"
    | d => .wrongType d.found "string or map"
  contentProblem
    | null => none
    | d => some (.wrongType d.found "unit")

/-- In a table notation a choice without content is an empty table. -/
def tables : Dialect where
  surplusAllowed := true
  choiceProblem _ := .variantForm "wanted exactly 1 element"
  contentProblem
    | table [] => none
    | table _ => some (.variantForm "expected empty table")
    | _ => some (.variantForm "expected table")

end Dialect

/-! ### Values -/

def readString : Document → Except Mismatch String
  | string s => .ok s
  | d => .error (.wrongType d.found "a string")

def readBool : Document → Except Mismatch Bool
  | bool b => .ok b
  | d => .error (.wrongType d.found "a boolean")

/-- A natural number of 64 bits, which messages call by the given name. -/
def readNatural (called : String) : Document → Except Mismatch Nat
  | integer n => if 0 ≤ n then .ok n.toNat else .error (.wrongValue (.integer n) called)
  | d => .error (.wrongType d.found called)

def readEntries : List (String × Document) → Except Mismatch (Dict String)
  | [] => .ok []
  | (key, d) :: rest => do
    let value ← readString d
    return (← readEntries rest).insertNew key value

/-- A table of texts. Of the entries the first wrong one counts. -/
def readTexts : Document → Except Mismatch (Dict String)
  | table entries => readEntries entries
  | datetime text => .ok [(datetimeKey, text)]
  | d => .error (.wrongType d.found "a map")

def readChoiceName {α : Type} (known : List (String × α)) (name : String) : Except Mismatch α :=
  match known.lookup name with
  | some x => .ok x
  | none => .error (.unknownVariant name (known.map Prod.fst))

def readChoice {α : Type} (dialect : Dialect) (known : List (String × α)) :
    Document → Except Mismatch α
  | string name => readChoiceName known name
  | table [(name, content)] => do
    let x ← readChoiceName known name
    match dialect.contentProblem content with
    | some problem => throw problem
    | none => return x
  | d => .error (dialect.choiceProblem d)

/-! ### Sections -/

structure Setting (σ : Type) where
  name : String
  read : Dialect → Document → Except Mismatch (σ → σ)

variable {σ : Type}

def Setting.of {α : Type} (name : String) (read : Dialect → Document → Except Mismatch α)
    (store : σ → α → σ) : Setting σ where
  name := name
  read dialect d := do
    let value ← read dialect d
    return fun x => store x value

def Setting.ofText (name : String) (store : σ → String → σ) : Setting σ :=
  .of name (fun _ => readString) store

def Setting.ofSize (name : String) (store : σ → Nat → σ) : Setting σ :=
  .of name (fun _ => readNatural "usize") store

def Setting.ofSeconds (name : String) (store : σ → Nat → σ) : Setting σ :=
  .of name (fun _ => readNatural "u64") store

def Setting.ofSwitch (name : String) (store : σ → Bool → σ) : Setting σ :=
  .of name (fun _ => readBool) store

/-- Take over the settings in a table. Entries that name no setting do not count. -/
def readSettings (dialect : Dialect) (settings : List (Setting σ)) (x : σ) :
    List (String × Document) → Except Mismatch σ
  | [] => .ok x
  | (key, d) :: rest =>
    match settings.find? fun setting => setting.name == key with
    | none => readSettings dialect settings x rest
    | some setting => do
      let change ← setting.read dialect d
      readSettings dialect settings (change x) rest

def readOrdered (dialect : Dialect) (length : Nat) (x : σ) :
    List (Setting σ) → List Document → Except Mismatch σ
  | _, [] => .ok x
  | [], _ :: _ =>
    if dialect.surplusAllowed then .ok x
    else .error (.wrongLength length "fewer elements in array")
  | setting :: settings, d :: rest => do
    let change ← setting.read dialect d
    readOrdered dialect length (change x) settings rest

def readSection (called : String) (settings : List (Setting σ)) (x : σ) (dialect : Dialect) :
    Document → Except Mismatch σ
  | table entries => readSettings dialect settings x entries
  | list items => readOrdered dialect items.length x settings items
  | datetime text => readSettings dialect settings x [(datetimeKey, string text)]
  | d => .error (.wrongType d.found ("struct " ++ called))

/-- A section inside of another one. It starts from its own usual settings. -/
def Setting.ofSection {τ : Type} (name called : String) (settings : List (Setting τ)) (usual : τ)
    (store : σ → τ → σ) : Setting σ :=
  .of name (readSection called settings usual) store

end Document

end RestGateway
