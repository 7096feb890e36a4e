import RestGateway.Mismatch

/-!
# Why and where a JSON text is refused

A reader that stops reports the cause and what it has not read. The line and the column follow
from the whole text: they count what lies before the fault, the column in bytes.
-/
namespace RestGateway.Json

inductive Cause where
  | endOfValue
  | endOfList
  | endOfObject
  | endOfString
  | expectedColon
  | expectedListCommaOrEnd
  | expectedObjectCommaOrEnd
  | expectedWord
  | expectedValue
  | invalidEscape
  | invalidNumber
  | numberOutOfRange
  | controlCharacter
  | keyMustBeString
  | loneSurrogate
  | trailingComma
  | trailingCharacters
  | endOfHexEscape
  | recursionLimit
  | mismatch (problem : Mismatch)
  deriving DecidableEq, Repr

namespace Cause

def message : Cause → String
  | endOfValue => "EOF while parsing a value"
  | endOfList => "EOF while parsing a list"
  | endOfObject => "EOF while parsing an object"
  | endOfString => "EOF while parsing a string"
  | expectedColon => "expected `:`"
  | expectedListCommaOrEnd => "expected `,` or `]`"
  | expectedObjectCommaOrEnd => "expected `,` or `\x7d`"
  | expectedWord => "expected ident"
  | expectedValue => "expected value"
  | invalidEscape => "invalid escape"
  | invalidNumber => "invalid number"
  | numberOutOfRange => "number out of range"
  | controlCharacter => "control character (\\u0000-\\u001F) found while parsing a string"
  | keyMustBeString => "key must be a string"
  | loneSurrogate => "lone leading surrogate in hex escape"
  | trailingComma => "trailing comma"
  | trailingCharacters => "trailing characters"
  | endOfHexEscape => "unexpected end of hex escape"
  | recursionLimit => "recursion limit exceeded"
  | mismatch problem => problem.message

/-- Whether the text is JSON but not of the expected shape. -/
def isMismatch : Cause → Bool
  | mismatch _ => true
  | _ => false

end Cause

inductive Step where
  | member (name : String)
  | item (index : Nat)
  deriving DecidableEq, Repr

/-- `rest` is what is not read, and the fault lies `ahead` bytes into it. -/
structure Fault where
  cause : Cause
  rest : List Char
  ahead : Nat
  path : List Step
  deriving DecidableEq, Repr

namespace Fault

def here (cause : Cause) (rest : List Char) : Fault := ⟨cause, rest, 0, []⟩

def next (cause : Cause) (rest : List Char) : Fault := ⟨cause, rest, 1, []⟩

def inside (fault : Fault) (step : Step) : Fault := { fault with path := step :: fault.path }

end Fault

/-- Lines are counted from one, bytes of a line from zero. -/
structure Position where
  line : Nat
  column : Nat
  deriving DecidableEq, Repr

namespace Position

def start : Position := ⟨1, 0⟩

def after (p : Position) (c : Char) : Position :=
  if c = '\n' then ⟨p.line + 1, 0⟩ else ⟨p.line, p.column + c.utf8Size⟩

def afterAll (p : Position) (cs : List Char) : Position := cs.foldl after p

/-- The place some bytes further on, at most at the end. -/
def skip (p : Position) : Nat → List Char → Position
  | _, [] => p
  | bytes, c :: rest =>
    if bytes = 0 then p
    else if c.utf8Size ≤ bytes then (p.after c).skip (bytes - c.utf8Size) rest
    else ⟨p.line, p.column + bytes⟩

end Position

structure Error where
  cause : Cause
  position : Position
  path : List Step
  deriving DecidableEq, Repr

def Fault.locate (text : List Char) (fault : Fault) : Error :=
  let read := text.take (text.length - fault.rest.length)
  ⟨fault.cause, (Position.start.afterAll read).skip fault.ahead fault.rest, fault.path⟩

namespace Error

def message (e : Error) : String :=
  e.cause.message ++ " at line " ++ toString e.position.line ++ " column " ++
    toString e.position.column

def shown (e : Error) : String :=
  "Error(" ++ Text.quoted e.cause.message ++ ", line: " ++ toString e.position.line ++
    ", column: " ++ toString e.position.column ++ ")"

/-- The names of the members on the way to the fault, joined by points. -/
def pathText : List Step → String
  | [] => ""
  | .member name :: rest => name ++ continued rest
  | .item index :: rest => "[" ++ toString index ++ "]" ++ continued rest
where
  continued : List Step → String
    | [] => ""
    | .member name :: rest => "." ++ name ++ continued rest
    | .item index :: rest => "[" ++ toString index ++ "]" ++ continued rest

def messageWithPath (e : Error) : String :=
  if e.path.isEmpty then e.message else pathText e.path ++ ": " ++ e.message

end Error

end RestGateway.Json
