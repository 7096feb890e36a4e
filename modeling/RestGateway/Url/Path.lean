import RestGateway.Text.Digit
import RestGateway.Url.Basic

/-!
# Paths of URLs

A path is read segment by segment: a segment of one dot is dropped, and one of two dots takes the
segment before it along, in every spelling of the dots. At the end of the path both leave an empty
segment behind.
-/
namespace RestGateway.Url

def isPathChar (c : Char) : Bool :=
  0x20 < c.toNat && c.toNat < 0x7F &&
    !(['"', '<', '>', '\x60', '#', '?', '\x7b', '\x7d'].contains c)

def isSingleDot (segment : List Char) : Bool :=
  [['.'], ['%', '2', 'e']].contains (segment.map Char.toLower)

def isDoubleDot (segment : List Char) : Bool :=
  [['.', '.'], ['.', '%', '2', 'e'], ['%', '2', 'e', '.'],
    ['%', '2', 'e', '%', '2', 'e']].contains (segment.map Char.toLower)

def isDrive : List Char → Bool
  | [letter, mark] => Text.isLetter letter && (mark = ':' || mark = '|')
  | _ => false

/-- Whether a segment is never taken along: it is the name of a disk, alone or before a
backslash. -/
def isKept (segment : List Char) : Bool :=
  isDrive segment || (isDrive (segment.take 2) && segment[2]? = some '\\')

/-- The segments before the last one. They are listed last first. -/
def parent : List (List Char) → List (List Char)
  | [] => []
  | segment :: rest => if isKept segment then segment :: rest else rest

/-- The segments after one more, which may be the last of the path. They are listed last first. -/
def addSegment (done : List (List Char)) (segment : List Char) (isLast : Bool) : List (List Char) :=
  let ended := fun (done : List (List Char)) => if isLast then [] :: done else done
  if isDoubleDot segment then ended (parent done)
  else if isSingleDot segment then ended done
  else Percent.encode isPathChar segment :: done

/-- The segments of a path after the ones in `done`, which are listed last first. -/
def resolveDots (done : List (List Char)) : List (List Char) → List (List Char)
  | [] => done.reverse
  | segment :: rest => resolveDots (addSegment done segment rest.isEmpty) rest

def splitWhere (isSeparator : Char → Bool) : List Char → List (List Char)
  | [] => [[]]
  | c :: rest =>
    if isSeparator c then [] :: splitWhere isSeparator rest
    else
      match splitWhere isSeparator rest with
      | [] => [[c]]
      | part :: parts => (c :: part) :: parts

def webSegments (cs : List Char) : List (List Char) :=
  let isSeparator := fun c => c = '/' || c = '\\'
  match cs with
  | [] => [[]]
  | c :: rest =>
    if isSeparator c then resolveDots [] (splitWhere isSeparator rest)
    else resolveDots [] (splitWhere isSeparator (c :: rest))

def plainSegments (cs : List Char) : List (List Char) :=
  match cs with
  | [] => []
  | '/' :: rest => resolveDots [] (splitWhere (· = '/') rest)
  | cs => resolveDots [] (splitWhere (· = '/') cs)

end RestGateway.Url
