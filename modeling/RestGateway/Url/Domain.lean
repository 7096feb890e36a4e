import RestGateway.Text.Composition
import RestGateway.Text.Lowercase
import RestGateway.Url.LabelTable
import RestGateway.Url.NameTable
import RestGateway.Url.Punycode

/-!
# Domain names

A name is a row of labels between points. Names that look the same are the same name: each character
stands in the form of its class, and the text is composed. A label with characters beyond ASCII is
written with the mark `xn--`; a label that comes with the mark has to be the writing of such a
label. So that a name looks the same to everyone, joiners have their places, and a label does not
mix the directions of writing.
-/
namespace RestGateway.Url
open Text

def isForbidden (c : Char) : Bool :=
  c.toNat ≤ 0x20 || c.toNat = 0x7F ||
    ['%', '#', '/', ':', '<', '>', '?', '@', '[', '\\', ']', '^', '|'].contains c

def isAscii (c : Char) : Bool := c.toNat < 0x80

def pairForm? (c : Char) : List Char → Option Char
  | d :: form :: rest => if d = c then some form else pairForm? c rest
  | _ => none

def entryForm? (c : Char) (table : List Char) : Option (List Char) :=
  (table.splitOn ' ').findSome? fun entry =>
    match entry with
    | d :: form => if d = c then some form else none
    | [] => none

def runForm? (c : Char) : Option Char :=
  (formRuns.find? fun (first, last, step, _) =>
    first ≤ c.toNat && c.toNat ≤ last && (c.toNat - first) % step == 0).map
    fun (_, _, _, distance) => Char.ofNat (c.toNat + distance).toNat

/-- The form of a character in names; `none` when no name has it. -/
def nameForm? (c : Char) : Option (List Char) :=
  if isAscii c then some [c.toLower]
  else if ignoredRanges.contains c then some []
  else if forbiddenRanges.contains c then none
  else some <|
    match runForm? c <|> pairForm? c singleForms with
    | some form => [form]
    | none => (entryForm? c longForms).getD [smallLetter c]

/-- The form that names are compared in. ASCII characters are never composed. -/
def comparable? (name : List Char) : Option (List Char) :=
  if name.all isAscii then some (name.map Char.toLower)
  else (name.mapM nameForm?).map fun forms => composed forms.flatten

/-! ### Joiners -/

/-- Characters without a shape of their own: one parts its neighbours and the other one joins
them. -/
def nonJoiner : Char := '\u200C'
def joiner : Char := '\u200D'

def viramaClass : Nat := 9

def isTransparent (c : Char) : Bool := nonspacingMarks.contains c || c.toNat = 0x1E94B

def startsWithLetter (letters : Ranges) (cs : List Char) : Bool :=
  (cs.find? (! isTransparent ·)).any letters.contains

/-- Whether a joiner has its place between the characters before it, nearest first, and after it:
right behind a virama, or between letters that would join without the one that parts them. -/
def isPlaced (before : List Char) (c : Char) (after : List Char) : Bool :=
  match before with
  | [] => false
  | previous :: _ =>
    combiningClass previous = viramaClass ||
      (c = nonJoiner && startsWithLetter joinsNext before && startsWithLetter joinsPrevious after)

def placesJoiners (before : List Char) : List Char → Bool
  | [] => true
  | c :: after =>
    ((c != nonJoiner && c != joiner) || isPlaced before c after) &&
      placesJoiners (c :: before) after

/-! ### Directions -/

def direction (c : Char) : Direction :=
  match directionRanges.find? fun (first, last, _) => first ≤ c.toNat && c.toNat ≤ last with
  | some (_, _, d) => d
  | none => if nonspacingMarks.contains c then .mark else .left

def isFromRight (c : Char) : Bool :=
  !isAscii c && (direction c = .right || direction c = .arabicDigit)

/-- Whether directions stay in one label: it begins with a letter, and has letters of the same
direction, digits and neutral characters behind it; the last one that is no mark is not neutral.
Text from the right does not have digits of both kinds. -/
def isUniform : List Direction → Bool
  | [] => true
  | .left :: rest =>
    rest.all (fun d => [.left, .digit, .mark, .neutral].contains d) &&
      !(rest.reverse.dropWhile (· = .mark)).head?.any (· = .neutral)
  | .right :: rest =>
    rest.all (· != .left) && !(rest.contains .digit && rest.contains .arabicDigit) &&
      !(rest.reverse.dropWhile (· = .mark)).head?.any (· = .neutral)
  | _ => false

/-- Once a name has a character from the right, every label keeps its direction. -/
def keepsDirection (labels : List (List Char)) : Bool :=
  !labels.any (·.any isFromRight) || labels.all fun label => isUniform (label.map direction)

/-! ### Labels -/

/-- The greatest number of characters of a label that is not ASCII, and of its form in ASCII. -/
def longestLabel : Nat := 1000
def longestCode : Nat := 2000

def isLabel (label : List Char) : Bool :=
  !label.head?.any (fun c => nonspacingMarks.contains c || spacingMarks.contains c) &&
    placesJoiners [] label && (label.all isAscii || label.length ≤ longestLabel)

def labelText? (label : List Char) : Option (List Char) :=
  match label with
  | 'x' :: 'n' :: '-' :: '-' :: code => do
    if longestCode < code.length then none
    let text ← Punycode.decode? code
    let isCanonical := comparable? text = some text && Punycode.encode text = code
    if !text.all isAscii && isCanonical then some text else none
  | _ => some label

def asciiLabel (label : List Char) : List Char :=
  if label.all isAscii then label else 'x' :: 'n' :: '-' :: '-' :: Punycode.encode label

def domain? (name : List Char) : Option (List Char) := do
  let labels ← ((← comparable? name).splitOn '.').mapM labelText?
  let ascii := ['.'].intercalate (labels.map asciiLabel)
  if labels.all isLabel && keepsDirection labels && !ascii.any isForbidden then some ascii else none

end RestGateway.Url
