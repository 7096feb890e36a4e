import RestGateway.Form
import RestGateway.Json.Printer

/-!
# Path templates

A template is literal text with placeholders: a placeholder is a name between braces that has no
brace in it. `Template.pieces` finds them in one pass, and `Template.bind` puts the values of a
payload in their places. A brace that belongs to no placeholder is literal text.
-/
namespace RestGateway

/-- The text of a value in a path or in a query: a string as it is, any other value as JSON. -/
def Json.rendered : Json → String
  | .string s => s
  | v => v.compact

namespace Template

inductive Piece where
  | literal (c : Char)
  | placeholder (name : List Char)
  deriving DecidableEq, Repr

def Piece.text : Piece → List Char
  | literal c => [c]
  | placeholder name => '{' :: (name ++ ['}'])

/-- An open brace and the characters after it turn out to be literal text. -/
def literals (opened : Option (List Char)) : List Piece :=
  match opened with
  | none => []
  | some name => .literal '{' :: name.map .literal

/-- The pieces of a text, after the characters since the last open brace, if there is one. -/
def scan : Option (List Char) → List Char → List Piece
  | opened, [] => literals opened
  | opened, '{' :: rest => literals opened ++ scan (some []) rest
  | some name, '}' :: rest => .placeholder name :: scan none rest
  | some name, c :: rest => scan (some (name ++ [c])) rest
  | none, c :: rest => .literal c :: scan none rest

def pieces (template : String) : List Piece := scan none template.toList

/-! ### Binding -/

inductive Use where
  | consumed (segment : List Char)
  /-- There is a value, but it cannot be a segment. -/
  | rejected
  | unresolved
  | unnamed
  deriving DecidableEq, Repr

def use (payload : Dict Json) (name : String) : Use :=
  if name.isEmpty then .unnamed
  else
    match payload.find? name with
    | none => .unresolved
    | some value =>
      match Form.segment? value.rendered with
      | some segment => .consumed segment
      | none => .rejected

def boundText (payload : Dict Json) : Piece → List Char
  | .literal c => [c]
  | .placeholder name =>
    match use payload (String.ofList name) with
    | .consumed segment => segment
    | _ => (Piece.placeholder name).text

def names (ps : List Piece) : List String :=
  ps.filterMap fun
    | .placeholder name => some (String.ofList name)
    | .literal _ => none

def isConsumed (payload : Dict Json) (name : String) : Bool :=
  match use payload name with
  | .consumed _ => true
  | _ => false

structure Bound where
  path : String
  remaining : Dict Json
  unresolved : List String
  rejected : List String

def bind (template : String) (payload : Dict Json) : Bound :=
  let ps := pieces template
  let names := names ps
  { path := String.ofList (ps.flatMap (boundText payload))
    remaining := payload.without (names.filter (isConsumed payload))
    unresolved := names.filter fun name => use payload name = .unresolved
    rejected := names.filter fun name => use payload name = .rejected }

/-! ### Well-formed templates -/

inductive Problem where
  | noLeadingSlash
  | nestedBrace
  | unmatchedBrace
  | unterminated
  deriving DecidableEq, Repr

def Problem.message : Problem → String
  | noLeadingSlash => "must start with '/'"
  | nestedBrace => "nested '\x7b'"
  | unmatchedBrace => "unmatched '\x7d'"
  | unterminated => "unterminated placeholder"

/-- The first brace out of place; `inside` says whether a placeholder is open. -/
def braceProblem? : (inside : Bool) → List Char → Option Problem
  | true, [] => some .unterminated
  | false, [] => none
  | inside, c :: rest =>
    if c = '{' then if inside then some .nestedBrace else braceProblem? true rest
    else if c = '}' then if inside then braceProblem? false rest else some .unmatchedBrace
    else braceProblem? inside rest

def problem? (template : String) : Option Problem :=
  match template.toList with
  | '/' :: rest => braceProblem? false rest
  | _ => some .noLeadingSlash

end Template

end RestGateway
