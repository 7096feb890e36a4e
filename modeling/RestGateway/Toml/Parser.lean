import RestGateway.Toml.Scalar
import RestGateway.Toml.Tree

/-!
# Reading TOML

A text is a sequence of lines, each with a header, or with a key and its value, or with neither.
`Toml.parse` gives the document of a text, and nothing for a text that is not TOML.
-/
namespace RestGateway.Toml

/-- Pass over blanks, line breaks and comments between the items of a list. -/
def skipSpace : (comment : Bool) → List Char → Option (List Char)
  | _, [] => some []
  | _, '\n' :: rest => skipSpace false rest
  | _, '\r' :: '\n' :: rest => skipSpace false rest
  | true, c :: rest => if isPlain c then skipSpace true rest else none
  | false, '#' :: rest => skipSpace true rest
  | false, c :: rest => if isBlank c then skipSpace false rest else some (c :: rest)

/-- The items of a list up to the closing bracket, and the items before them, last first. -/
def readItems (item : Reader Document) : Nat → List Document → Reader (List Document)
  | 0, _, _ => none
  | more + 1, read, cs => do
    match ← skipSpace false cs with
    | ']' :: rest => return (read.reverse, rest)
    | cs =>
      let (d, rest) ← item cs
      match ← skipSpace false rest with
      | ']' :: rest => return ((d :: read).reverse, rest)
      | ',' :: rest => readItems item more (d :: read) rest
      | _ => none

def readPair (value : Reader Document) (cs : List Char) :
    Option ((List String × Document) × List Char) := do
  let (path, rest) ← readPath cs
  match rest with
  | '=' :: rest =>
    let (d, rest) ← value (skipBlanks rest)
    return ((path, d), rest)
  | _ => none

def readEntries (value : Reader Document) : Nat → Entries → Reader Entries
  | 0, _, _ => none
  | more + 1, entries, cs => do
    let ((path, d), rest) ← readPair value cs
    let entries ← entries.addValue path d
    match skipBlanks rest with
    | '}' :: rest => return (entries, rest)
    | ',' :: rest => readEntries value more entries rest
    | _ => none

/-- A value whose lists and tables, if any are allowed, hold values read by `nested`. -/
def readValueWith (nested : Option (Reader Document)) (cs : List Char) :
    Option (Document × List Char) :=
  match cs with
  | '[' :: rest => do
    let (items, rest) ← readItems (← nested) (rest.length + 1) [] rest
    return (.list items, rest)
  | '{' :: rest => do
    let value ← nested
    match skipBlanks rest with
    | '}' :: rest => return (.table [], rest)
    | rest =>
      let (entries, rest) ← readEntries value (rest.length + 1) [] rest
      return (.table (entriesDocument entries), rest)
  | 't' :: 'r' :: 'u' :: 'e' :: rest => some (.bool true, rest)
  | 'f' :: 'a' :: 'l' :: 's' :: 'e' :: rest => some (.bool false, rest)
  | '"' :: rest => (readString ('"' :: rest)).map fun (s, rest) => (.string s, rest)
  | '\'' :: rest => (readString ('\'' :: rest)).map fun (s, rest) => (.string s, rest)
  | cs => readScalar cs

def readValue : (depth : Nat) → Reader Document
  | 0 => readValueWith none
  | depth + 1 => readValueWith (some (readValue depth))

def endLine (cs : List Char) : Option (List Char) :=
  let rest := match skipBlanks cs with
    | '#' :: rest => rest.dropWhile isPlain
    | rest => rest
  match rest with
  | [] => some []
  | '\n' :: rest => some rest
  | '\r' :: '\n' :: rest => some rest
  | _ => none

def readLine (s : State) (cs : List Char) : Option (State × List Char) :=
  match cs with
  | '#' :: rest => do return (s, ← endLine ('#' :: rest))
  | '[' :: '[' :: rest => do
    match ← readPath rest with
    | (path, ']' :: ']' :: rest) => return (← s.openItem path, ← endLine rest)
    | _ => none
  | '[' :: rest => do
    match ← readPath rest with
    | (path, ']' :: rest) => return (← s.openTable path, ← endLine rest)
    | _ => none
  | cs => do
    let ((path, d), rest) ← readPair (readValue greatestDepth) cs
    return ({ s with current := ← s.current.addValue path d }, ← endLine rest)

def readLines : Nat → State → List Char → Option State
  | 0, _, _ => none
  | more + 1, s, cs =>
    match skipBlanks cs with
    | [] => some s
    | '\n' :: rest => readLines more s rest
    | '\r' :: '\n' :: rest => readLines more s rest
    | cs =>
      match readLine s cs with
      | some (s, rest) => readLines more s rest
      | none => none

def withoutMark : List Char → List Char
  | '\ufeff' :: rest => rest
  | cs => cs

def parse (text : String) : Option Document := do
  let cs := withoutMark text.toList
  let s ← readLines (cs.length + 1) State.start cs
  return .table (entriesDocument (← s.finish))

end RestGateway.Toml
