import RestGateway.Json.Quotation

/-!
# Reading JSON values

`readValue` reads a value that nests at most a given number of levels. Of two members with one name
the later one counts. `skipValue` passes over a value that is of no interest: it has no limit of
nesting, and does not look at the size of numbers.
-/
namespace RestGateway.Json
open Text (isDigit)

def isBlank (c : Char) : Bool := c = ' ' || c = '\n' || c = '\t' || c = '\r'

def skipBlanks (s : List Char) : List Char := s.dropWhile isBlank

def readWord : List Char → List Char → Except Fault (List Char)
  | [], s => .ok s
  | _ :: _, [] => .error (.here .endOfValue [])
  | w :: word, c :: rest =>
    if c = w then readWord word rest else .error (.next .expectedWord (c :: rest))

def readColon (s : List Char) : Except Fault (List Char) :=
  match skipBlanks s with
  | ':' :: rest => .ok rest
  | [] => .error (.here .endOfObject [])
  | rest => .error (.next .expectedColon rest)

/-- The place of the next item of a list, the first or a later one; none at the closing bracket. -/
def nextItem (first : Bool) (s : List Char) : Except Fault (Option (List Char)) :=
  match skipBlanks s with
  | [] => .error (.here .endOfList [])
  | ']' :: _ => .ok none
  | c :: rest =>
    if first then .ok (some (c :: rest))
    else if c = ',' then
      match skipBlanks rest with
      | [] => .error (.here .endOfValue [])
      | ']' :: rest => .error (.next .trailingComma (']' :: rest))
      | rest => .ok (some rest)
    else .error (.next .expectedListCommaOrEnd (c :: rest))

/-- The place behind the opening quote of the next name of an object; none at the closing brace. -/
def nextName (first : Bool) (s : List Char) : Except Fault (Option (List Char)) :=
  match skipBlanks s with
  | [] => .error (.here .endOfObject [])
  | '}' :: _ => .ok none
  | c :: rest =>
    if first then
      if c = '"' then .ok (some rest) else .error (.next .keyMustBeString (c :: rest))
    else if c = ',' then
      match skipBlanks rest with
      | [] => .error (.here .endOfValue [])
      | '"' :: rest => .ok (some rest)
      | '}' :: rest => .error (.next .trailingComma ('}' :: rest))
      | rest => .error (.next .keyMustBeString rest)
    else .error (.next .expectedObjectCommaOrEnd (c :: rest))

def endList (s : List Char) : Except Fault (List Char) :=
  match skipBlanks s with
  | ']' :: rest => .ok rest
  | ',' :: rest =>
    match skipBlanks rest with
    | ']' :: rest => .error (.next .trailingComma (']' :: rest))
    | rest => .error (.next .trailingCharacters rest)
  | [] => .error (.here .endOfList [])
  | rest => .error (.next .trailingCharacters rest)

def endObject (s : List Char) : Except Fault (List Char) :=
  match skipBlanks s with
  | '}' :: rest => .ok rest
  | ',' :: rest => .error (.next .trailingComma (',' :: rest))
  | [] => .error (.here .endOfObject [])
  | rest => .error (.next .trailingCharacters rest)

/-- Items in order, the ones in `read` before them, last first. The number bounds how many
follow. -/
def readItems {α : Type} (item : Reader α) : Nat → List α → Reader (List α)
  | 0, _, s => .error (.here .endOfList s)
  | more + 1, read, s =>
    match nextItem read.isEmpty s with
    | .error fault => .error fault
    | .ok none => do return (read.reverse, ← endList s)
    | .ok (some place) =>
      match item place with
      | .error fault => .error (fault.inside (.item read.length))
      | .ok (x, rest) => readItems item more (x :: read) rest

def readList {α : Type} (item : Reader α) : Reader (List α) :=
  fun s => readItems item (s.length + 1) [] s

def readMembers {α : Type} (value : Reader α) :
    Nat → List (String × α) → Reader (List (String × α))
  | 0, _, s => .error (.here .endOfObject s)
  | more + 1, read, s =>
    match nextName read.isEmpty s with
    | .error fault => .error fault
    | .ok none => do return (read.reverse, ← endObject s)
    | .ok (some place) =>
      match readString place with
      | .error fault => .error fault
      | .ok (name, rest) =>
        match readColon rest >>= value with
        | .error fault => .error (fault.inside (.member name))
        | .ok (x, rest) => readMembers value more ((name, x) :: read) rest

def readDict {α : Type} (value : Reader α) : Reader (Dict α) := fun s => do
  let (members, rest) ← readMembers value (s.length + 1) [] s
  return (Dict.ofList members, rest)

/-- A value whose lists and objects, if any are allowed, hold values read by `nested`. -/
def readValueWith (nested : Option (Reader Json)) : Reader Json := fun s =>
  match skipBlanks s with
  | [] => .error (.here .endOfValue [])
  | 'n' :: rest => do return (.null, ← readWord ['u', 'l', 'l'] rest)
  | 't' :: rest => do return (.bool true, ← readWord ['r', 'u', 'e'] rest)
  | 'f' :: rest => do return (.bool false, ← readWord ['a', 'l', 's', 'e'] rest)
  | '-' :: rest => do
    let (n, rest) ← readNumber true rest
    return (.number n, rest)
  | '"' :: rest => do
    let (text, rest) ← readString rest
    return (.string text, rest)
  | '[' :: rest =>
    match nested with
    | none => .error (.next .recursionLimit ('[' :: rest))
    | some item => do
      let (items, rest) ← readList item rest
      return (.array items, rest)
  | '{' :: rest =>
    match nested with
    | none => .error (.next .recursionLimit ('{' :: rest))
    | some value => do
      let (members, rest) ← readDict value rest
      return (.object members, rest)
  | c :: rest =>
    if isDigit c then do
      let (n, rest) ← readNumber false (c :: rest)
      return (.number n, rest)
    else .error (.next .expectedValue (c :: rest))

def readValue : (depth : Nat) → Reader Json
  | 0 => readValueWith none
  | depth + 1 => readValueWith (some (readValue depth))

/-- How many levels a text may nest. -/
def greatestDepth : Nat := 127

/-! ### Values that are passed over -/

def skipDigits (s : List Char) : List Char := s.dropWhile isDigit

def skipExponent (s : List Char) : Except Fault (List Char) :=
  match (readSign s).2 with
  | [] => .error (.here .invalidNumber [])
  | c :: rest =>
    if isDigit c then .ok (skipDigits rest) else .error (.next .invalidNumber (c :: rest))

def skipFraction (s : List Char) : Except Fault (List Char) :=
  if !startsWithDigit s then .error (.next .invalidNumber s)
  else
    match skipDigits s with
    | 'e' :: rest => skipExponent rest
    | 'E' :: rest => skipExponent rest
    | rest => .ok rest

def skipNumberEnd : List Char → Except Fault (List Char)
  | '.' :: rest => skipFraction rest
  | 'e' :: rest => skipExponent rest
  | 'E' :: rest => skipExponent rest
  | rest => .ok rest

def skipNumber : List Char → Except Fault (List Char)
  | [] => .error (.here .invalidNumber [])
  | '0' :: rest =>
    if startsWithDigit rest then .error (.next .invalidNumber rest) else skipNumberEnd rest
  | c :: rest =>
    if isDigit c then skipNumberEnd (skipDigits rest) else .error (.next .invalidNumber (c :: rest))

/-- A string after its opening quote; surrogates need not be paired. -/
def skipQuotation : List Char → Except Fault (List Char)
  | [] => .error (.here .endOfString [])
  | '"' :: rest => .ok rest
  | '\\' :: 'u' :: a :: b :: c :: d :: rest =>
    match codeUnit? a b c d with
    | none => .error (codeUnitFault (a :: b :: c :: d :: rest))
    | some _ => skipQuotation rest
  | '\\' :: 'u' :: rest => .error (codeUnitFault rest)
  | ['\\'] => .error (.here .endOfString [])
  | '\\' :: c :: rest =>
    match unescaped? c with
    | some _ => skipQuotation rest
    | none => .error (.next .invalidEscape (c :: rest))
  | c :: rest =>
    if c.toNat < 0x20 then .error (.here .controlCharacter (c :: rest)) else skipQuotation rest

inductive Frame where
  | list
  | object
  deriving DecidableEq

def skipName (s : List Char) : Except Fault (List Char) :=
  match skipBlanks s with
  | [] => .error (.here .endOfObject [])
  | '"' :: rest => do readColon (← skipQuotation rest)
  | rest => .error (.next .keyMustBeString rest)

/-- Close what ends here. The frames still open, and the place of the value that comes next, if any
are open. -/
def closeFrames : List Frame → List Char → Except Fault (List Frame × List Char)
  | [], s => .ok ([], s)
  | frame :: outer, s =>
    match skipBlanks s, frame with
    | [], .list => .error (.here .endOfList [])
    | [], .object => .error (.here .endOfObject [])
    | ',' :: rest, .list => .ok (.list :: outer, rest)
    | ',' :: rest, .object => do return (.object :: outer, ← skipName rest)
    | ']' :: rest, .list => closeFrames outer rest
    | '}' :: rest, .object => closeFrames outer rest
    | rest, .list => .error (.next .expectedListCommaOrEnd rest)
    | rest, .object => .error (.next .expectedObjectCommaOrEnd rest)

/-- Open a list or an object. When it is empty it is closed at once. -/
def openFrame (frame : Frame) (outer : List Frame) (s : List Char) :
    Except Fault (List Frame × List Char) :=
  match skipBlanks s, frame with
  | [], .list => .error (.here .endOfList [])
  | [], .object => .error (.here .endOfObject [])
  | ']' :: rest, .list => closeFrames outer rest
  | '}' :: rest, .object => closeFrames outer rest
  | rest, .list => .ok (.list :: outer, rest)
  | rest, .object => do return (.object :: outer, ← skipName rest)

def skipStep (frames : List Frame) (s : List Char) : Except Fault (List Frame × List Char) :=
  match skipBlanks s with
  | [] => .error (.here .endOfValue [])
  | 'n' :: rest => do closeFrames frames (← readWord ['u', 'l', 'l'] rest)
  | 't' :: rest => do closeFrames frames (← readWord ['r', 'u', 'e'] rest)
  | 'f' :: rest => do closeFrames frames (← readWord ['a', 'l', 's', 'e'] rest)
  | '-' :: rest => do closeFrames frames (← skipNumber rest)
  | '"' :: rest => do closeFrames frames (← skipQuotation rest)
  | '[' :: rest => openFrame .list frames rest
  | '{' :: rest => openFrame .object frames rest
  | c :: rest =>
    if isDigit c then do closeFrames frames (← skipNumber (c :: rest))
    else .error (.next .expectedValue (c :: rest))

def skipFrames : Nat → List Frame → List Char → Except Fault (List Char)
  | 0, _, s => .error (.here .endOfValue s)
  | more + 1, frames, s =>
    match skipStep frames s with
    | .error fault => .error fault
    | .ok ([], rest) => .ok rest
    | .ok (frames, rest) => skipFrames more frames rest

def skipValue (s : List Char) : Except Fault (List Char) := skipFrames (s.length + 1) [] s

/-! ### Whole texts -/

def readEnd {α : Type} (x : α) (rest : List Char) : Except Fault α :=
  match skipBlanks rest with
  | [] => .ok x
  | rest => .error (.next .trailingCharacters rest)

def decodeWith {α : Type} (reader : Reader α) (text : List Char) : Except Error α :=
  match reader text >>= fun (x, rest) => readEnd x rest with
  | .ok x => .ok x
  | .error fault => .error (fault.locate text)

def parse (text : String) : Except Error Json :=
  decodeWith (readValue greatestDepth) text.toList

end RestGateway.Json
