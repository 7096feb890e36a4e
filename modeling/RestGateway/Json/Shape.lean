import RestGateway.Json.Reader
import RestGateway.Json.Printer

/-!
# Reading values of a known shape

A record is an object with the fields of the record, in any order, and possibly others, which are
passed over; or a list of the fields in order. Where a value does not have the shape, the fault is a
`Mismatch` behind the value, or before it when it is a list or an object. A problem of a record as a
whole lies behind the brace or bracket that closes it, if that is what comes next.
-/
namespace RestGateway.Json
open Text (isDigit)

def numberFound : Number → Found
  | .integer n => .integer n
  | .float x => .float (String.ofList (Number.text (.float x)))

def wrongType (expected : String) (s : List Char) : Fault :=
  let behind (found : Found) (rest : List Char) : Fault :=
    .here (.mismatch (.wrongType found expected)) rest
  let result : Except Fault Fault := match s with
    | 'n' :: rest => do return behind .null (← readWord ['u', 'l', 'l'] rest)
    | 't' :: rest => do return behind (.bool true) (← readWord ['r', 'u', 'e'] rest)
    | 'f' :: rest => do return behind (.bool false) (← readWord ['a', 'l', 's', 'e'] rest)
    | '-' :: rest => do
      let (n, rest) ← readNumber true rest
      return behind (numberFound n) rest
    | '"' :: rest => do
      let (text, rest) ← readString rest
      return behind (.string text) rest
    | '[' :: rest => .ok (behind .sequence ('[' :: rest))
    | '{' :: rest => .ok (behind .map ('{' :: rest))
    | [] => .error (.here .expectedValue [])
    | c :: rest =>
      if isDigit c then do
        let (n, rest) ← readNumber false (c :: rest)
        return behind (numberFound n) rest
      else .error (.next .expectedValue (c :: rest))
  match result with
  | .ok fault => fault
  | .error fault => fault

def readText : Reader String := fun s =>
  match skipBlanks s with
  | [] => .error (.here .endOfValue [])
  | '"' :: rest => readString rest
  | rest => .error (wrongType "a string" rest)

def readBoolean : Reader Bool := fun s =>
  match skipBlanks s with
  | [] => .error (.here .endOfValue [])
  | 't' :: rest => do return (true, ← readWord ['r', 'u', 'e'] rest)
  | 'f' :: rest => do return (false, ← readWord ['a', 'l', 's', 'e'] rest)
  | rest => .error (wrongType "a boolean" rest)

def naturalExpected : String := "u64"

def naturalOfNumber (n : Number) (rest : List Char) : Except Fault (Nat × List Char) :=
  match n with
  | .integer n =>
    if 0 ≤ n then .ok (n.toNat, rest)
    else .error (.here (.mismatch (.wrongValue (.integer n) naturalExpected)) rest)
  | .float x =>
    .error (.here (.mismatch (.wrongType (numberFound (.float x)) naturalExpected)) rest)

def readNatural : Reader Nat := fun s =>
  match skipBlanks s with
  | [] => .error (.here .endOfValue [])
  | '-' :: rest => do
    let (n, rest) ← readNumber true rest
    naturalOfNumber n rest
  | c :: rest =>
    if isDigit c then do
      let (n, rest) ← readNumber false (c :: rest)
      naturalOfNumber n rest
    else .error (wrongType naturalExpected (c :: rest))

def readNullable {α : Type} (reader : Reader α) : Reader (Option α) := fun s =>
  match skipBlanks s with
  | 'n' :: rest => do return (none, ← readWord ['u', 'l', 'l'] rest)
  | rest => do
    let (x, rest) ← reader rest
    return (some x, rest)

/-- An object as a dictionary, where it may be a level of its own. -/
def readTable {α : Type} (value : Reader α) : Reader (Dict α) := fun s =>
  match skipBlanks s with
  | [] => .error (.here .endOfValue [])
  | '{' :: rest => readDict value rest
  | rest => .error (wrongType "a map" rest)

structure Field (σ : Type) where
  name : String
  required : Bool
  read : σ → Reader σ

/-- A record: its name for messages, its fields in order, and the values they have when absent. -/
structure Shape (σ : Type) where
  name : String
  fields : List (Field σ)
  absent : σ

namespace Shape

variable {σ : Type}

def expected (shape : Shape σ) : String := "struct " ++ shape.name

/-- Put a problem of the whole record behind its closing brace. -/
def behindObject (problem : Mismatch) (s : List Char) : Fault :=
  .here (.mismatch problem) (match skipBlanks s with
    | '}' :: rest => rest
    | rest => rest)

/-- Put a problem of the whole record behind its closing bracket. -/
def behindList (problem : Mismatch) (s : List Char) : Fault :=
  .here (.mismatch problem) (match skipBlanks s with
    | ']' :: rest => rest
    | ',' :: rest => skipBlanks rest
    | rest => rest)

def missing? (shape : Shape σ) (seen : List String) : Option String :=
  (shape.fields.find? fun field => field.required && !seen.contains field.name).map Field.name

def readMember (shape : Shape σ) (seen : List String) (x : σ) (name : String) (s : List Char) :
    Except Fault (List String × σ × List Char) :=
  match shape.fields.find? fun field => field.name == name with
  | none =>
    match readColon s >>= skipValue with
    | .ok rest => .ok (seen, x, rest)
    | .error fault => .error (fault.inside (.member name))
  | some field =>
    if seen.contains name then .error (behindObject (.duplicateField name) s)
    else
      match readColon s >>= field.read x with
      | .ok (x, rest) => .ok (name :: seen, x, rest)
      | .error fault => .error (fault.inside (.member name))

def readFields (shape : Shape σ) : Nat → Bool → List String → σ → Reader σ
  | 0, _, _, _, s => .error (.here .endOfObject s)
  | more + 1, first, seen, x, s =>
    match nextName first s with
    | .error fault => .error fault
    | .ok none =>
      match shape.missing? seen with
      | some name => .error (behindObject (.missingField name) s)
      | none => do return (x, ← endObject s)
    | .ok (some place) =>
      match readString place with
      | .error fault => .error fault
      | .ok (name, rest) =>
        match shape.readMember seen x name rest with
        | .error fault => .error fault
        | .ok (seen, x, rest) => readFields shape more false seen x rest

/-- The fields from a list, the ones that are left, with the number of those before them. -/
def readOrdered (shape : Shape σ) : Nat → List (Field σ) → σ → Reader σ
  | _, [], x, s => do return (x, ← endList s)
  | index, field :: fields, x, s =>
    match nextItem (index == 0) s with
    | .error fault => .error fault
    | .ok none =>
      if field.required then
        .error (behindList (.wrongLength index
          (shape.expected ++ " with " ++ toString shape.fields.length ++ " elements")) s)
      else if fields.any Field.required then readOrdered shape index fields x s
      else do return (x, ← endList s)
    | .ok (some place) =>
      match field.read x place with
      | .error fault => .error (fault.inside (.item index))
      | .ok (x, rest) => readOrdered shape (index + 1) fields x rest

def reader (shape : Shape σ) : Reader σ := fun s =>
  match skipBlanks s with
  | [] => .error (.here .endOfValue [])
  | '{' :: rest => shape.readFields (rest.length + 1) true [] shape.absent rest
  | '[' :: rest => shape.readOrdered 0 shape.fields shape.absent rest
  | rest => .error (wrongType shape.expected rest)

end Shape

end RestGateway.Json
