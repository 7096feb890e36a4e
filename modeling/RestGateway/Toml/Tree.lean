import RestGateway.Config.Document

/-!
# Tables of a TOML text

Tables are put together from headers and from keys with points. A table may be opened once by a
header, and not at all when it was written in another way; a key may have a value once. Entries keep
the order in which they appear.
-/
namespace RestGateway.Toml

/-- How a table came to be: by a header of its own or in braces, by the header of a table inside of
it, or by a key with points. -/
inductive Origin where
  | explicit
  | implied
  | dotted
  deriving DecidableEq, Repr

inductive Node where
  | value (d : Document)
  | table (origin : Origin) (entries : List (String × Node))
  | tables (items : List (List (String × Node)))

abbrev Entries := List (String × Node)

namespace Entries

def replace (entries : Entries) (key : String) (node : Node) : Entries :=
  entries.map fun (k, n) => if k = key then (k, node) else (k, n)

def remove (entries : Entries) (key : String) : Entries :=
  entries.filter fun (k, _) => k != key

/-- Change the table at the end of a path, and make the tables on the way that are not there. A path
of keys with points does not lead into a table that is explicit. -/
def changeAt (dotted : Bool) (change : Origin → Entries → Option Entries) :
    List String → Origin → Entries → Option Entries
  | [], origin, entries => change origin entries
  | key :: path, _, entries =>
    match entries.lookup key with
    | none => do
      let origin := if dotted then .dotted else .implied
      return entries ++ [(key, .table origin (← changeAt dotted change path origin []))]
    | some (.value _) => none
    | some (.tables items) => do
      let last ← items.getLast?
      let last ← changeAt dotted change path .explicit last
      return entries.replace key (.tables (items.dropLast ++ [last]))
    | some (.table origin inner) =>
      if dotted ∧ origin = .explicit then none
      else do
        let inner ← changeAt dotted change path origin inner
        return entries.replace key (.table origin inner)

def nodeAt? : List String → Entries → Option Node
  | [], _ => none
  | [key], entries => entries.lookup key
  | key :: path, entries =>
    match entries.lookup key with
    | some (.table _ inner) => nodeAt? path inner
    | some (.tables items) => items.getLast? >>= nodeAt? path
    | _ => none

def addValue (entries : Entries) (path : List String) (d : Document) : Option Entries := do
  let key ← path.getLast?
  let tables := path.dropLast
  let add : Origin → Entries → Option Entries := fun origin inner =>
    if (origin == .dotted) == tables.isEmpty then none
    else if (inner.lookup key).isSome then none
    else some (inner ++ [(key, .value d)])
  changeAt true add tables .explicit entries

end Entries

mutual

def Node.document : Node → Document
  | .value d => d
  | .table _ entries => .table (entriesDocument entries)
  | .tables items => .list (itemsDocument items)

def entriesDocument : List (String × Node) → List (String × Document)
  | [] => []
  | (key, node) :: rest => (key, node.document) :: entriesDocument rest

def itemsDocument : List (List (String × Node)) → List Document
  | [] => []
  | entries :: rest => .table (entriesDocument entries) :: itemsDocument rest

end

/-! ### Headers -/

/-- The tables that are complete, and the one that is being written: where it belongs and whether it
is an item of a list of tables. The table without a header is at the empty path. -/
structure State where
  complete : Entries
  path : List String
  isItem : Bool
  current : Entries

namespace State

def start : State := ⟨[], [], false, []⟩

def finish (s : State) : Option Entries :=
  match s.path.getLast? with
  | none => some s.current
  | some key =>
    let place : Origin → Entries → Option Entries := fun _ parent =>
      match s.isItem, parent.lookup key with
      | true, some (.tables items) => some (parent.replace key (.tables (items ++ [s.current])))
      | true, none => some (parent ++ [(key, .tables [s.current])])
      | false, none => some (parent ++ [(key, .table .explicit s.current)])
      | _, _ => none
    Entries.changeAt false place s.path.dropLast .explicit s.complete

def openTable (s : State) (path : List String) : Option State := do
  let key ← path.getLast?
  let complete ← s.finish
  let complete ←
    Entries.changeAt false (fun _ parent => some parent) path.dropLast .explicit complete
  match Entries.nodeAt? path complete with
  | none => return ⟨complete, path, false, []⟩
  | some (.table .implied entries) =>
    let complete ← Entries.changeAt false (fun _ parent => some (parent.remove key))
      path.dropLast .explicit complete
    return ⟨complete, path, false, entries⟩
  | some _ => none

def openItem (s : State) (path : List String) : Option State := do
  let complete ← s.finish
  let complete ←
    Entries.changeAt false (fun _ parent => some parent) path.dropLast .explicit complete
  match Entries.nodeAt? path complete with
  | none => return ⟨complete, path, true, []⟩
  | some (.tables _) => return ⟨complete, path, true, []⟩
  | some _ => none

end State

end RestGateway.Toml
