import RestGateway.Json.Shape

/-!
# Reading one of several names

A choice is a name, or an object whose only member has that name and the value null.
-/
namespace RestGateway.Json

variable {α : Type}

/-- What one of the known names stands for. -/
def readName (known : List (String × α)) : Reader α := fun s =>
  match skipBlanks s with
  | [] => .error (.here .endOfValue [])
  | '"' :: rest => do
    let (name, rest) ← readString rest
    match known.lookup name with
    | some x => return (x, rest)
    | none => .error (.here (.mismatch (.unknownVariant name (known.map Prod.fst))) rest)
  | rest => .error (wrongType "variant identifier" rest)

def readNull (s : List Char) : Except Fault (List Char) :=
  match skipBlanks s with
  | [] => .error (.here .endOfValue [])
  | 'n' :: rest => readWord ['u', 'l', 'l'] rest
  | rest => .error (wrongType "unit" rest)

def readChoice (known : List (String × α)) : Reader α := fun s =>
  match skipBlanks s with
  | [] => .error (.here .endOfValue [])
  | '"' :: rest => readName known ('"' :: rest)
  | '{' :: rest => do
    let (x, rest) ← readName known rest
    match skipBlanks (← readColon rest >>= readNull) with
    | '}' :: rest => return (x, rest)
    | [] => .error (.here .endOfObject [])
    | rest => .error (.here .expectedValue rest)
  | rest => .error (.next .expectedValue rest)

end RestGateway.Json
