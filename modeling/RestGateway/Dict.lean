/-!
# Dictionaries in key order

A dictionary is a list of entries in ascending order of their keys, each key once. Strings are
ordered by code point, which is also the order of their UTF-8 bytes.
-/
namespace RestGateway

abbrev Dict (α : Type) := List (String × α)

namespace Dict

variable {α : Type}

def keys (d : Dict α) : List String := d.map Prod.fst

def Ascending (d : Dict α) : Prop := d.keys.Pairwise (· < ·)

def find? : Dict α → String → Option α
  | [], _ => none
  | (k, v) :: rest, key => if key = k then some v else find? rest key

def contains (d : Dict α) (key : String) : Bool := (d.find? key).isSome

/-- Give `key` the value `value`, in place of any value it had. -/
def insert (key : String) (value : α) : Dict α → Dict α
  | [] => [(key, value)]
  | (k, v) :: rest =>
    if key < k then (key, value) :: (k, v) :: rest
    else if key = k then (key, value) :: rest
    else (k, v) :: insert key value rest

/-- Give `key` the value `value` unless it has one. -/
def insertNew (key : String) (value : α) : Dict α → Dict α
  | [] => [(key, value)]
  | (k, v) :: rest =>
    if key < k then (key, value) :: (k, v) :: rest
    else if key = k then (k, v) :: rest
    else (k, v) :: insertNew key value rest

/-- The dictionary of a list of entries; of two entries with one key the later one counts. -/
def ofList (entries : List (String × α)) : Dict α :=
  entries.foldr (fun entry d => d.insertNew entry.1 entry.2) []

def without (d : Dict α) (dropped : List String) : Dict α :=
  d.filter fun entry => ! dropped.contains entry.1

end Dict

end RestGateway
