import RestGateway.Url.Authority
import RestGateway.Url.Path

/-!
# Reading URLs

Blanks around a URL and line breaks and tabs in it do not count. In a web address a backslash is a
slash, and any number of slashes may come before the host.
-/
namespace RestGateway.Url
open Text

def isControlOrBlank (c : Char) : Bool := c.toNat ≤ 0x20

def trim (cs : List Char) : List Char :=
  ((cs.dropWhile isControlOrBlank).reverse.dropWhile isControlOrBlank).reverse

def isLineOrTab (c : Char) : Bool := c = '\t' || c = '\n' || c = '\r'

def withoutLines (cs : List Char) : List Char := cs.filter (! isLineOrTab ·)

def isSchemeChar (c : Char) : Bool :=
  isLetter c || isDigit c || c = '+' || c = '-' || c = '.'

def readScheme : List Char → Option (List Char × List Char)
  | [] => none
  | c :: rest =>
    if isLetter c then
      match rest.dropWhile isSchemeChar with
      | ':' :: behind => some ((c :: rest.takeWhile isSchemeChar).map Char.toLower, behind)
      | _ => none
    else none

/-! ### Query and fragment -/

/-- The characters of a query that need no escape; the quote does in a web address. -/
def isQueryChar (web : Bool) (c : Char) : Bool :=
  0x20 < c.toNat && c.toNat < 0x7F && !(['"', '#', '<', '>'].contains c) && !(web && c = '\'')

def isFragmentChar (c : Char) : Bool :=
  0x20 < c.toNat && c.toNat < 0x7F && !(['"', '<', '>', '\x60'].contains c)

def endsPath (c : Char) : Bool := c = '?' || c = '#'

def pathPart (cs : List Char) : List Char := cs.takeWhile (! endsPath ·)

def readFragment : List Char → Option (List Char)
  | '#' :: rest => some (Percent.encode isFragmentChar rest)
  | _ => none

def readTail (web : Bool) (cs : List Char) : Option (List Char) × Option (List Char) :=
  match cs.dropWhile (! endsPath ·) with
  | '?' :: rest =>
    (some (Percent.encode (isQueryChar web) (rest.takeWhile (· != '#'))),
      readFragment (rest.dropWhile (· != '#')))
  | rest => (none, readFragment rest)

/-! ### Whole URLs -/

def isSlash (c : Char) : Bool := c = '/' || c = '\\'

def fileScheme : List Char := "file".toList

/-- The segments of a file, last first, and whether the first one is a disk. -/
structure FilePath where
  done : List (List Char)
  hasDrive : Bool

def drive? (segment : List Char) : Option (List Char) :=
  if isDrive segment then some (segment.take 1 ++ [':']) else none

/-- A disk and what follows it in one segment, when a line break or a tab parts them. -/
def partedDrive? (segment : List Char) : Option (List Char × List Char) :=
  let behind := (segment.dropWhile (· != ':')).drop 1
  let drive := withoutLines (segment.take (segment.length - behind.length))
  let text := withoutLines behind
  if behind.head?.any isLineOrTab && isDrive drive && !text.isEmpty then some (drive, text)
  else none

/-- The path after one more segment. The first one may name a disk. -/
def FilePath.add (p : FilePath) (segment : List Char) (isLast : Bool) : FilePath :=
  let ordinary := { p with done := addSegment p.done (withoutLines segment) isLast }
  if p.done.isEmpty then
    match drive? (withoutLines segment), partedDrive? segment with
    | some drive, _ => ⟨[drive], true⟩
    | none, some (drive, text) => { p with done := [Percent.encode isPathChar text, drive] }
    | none, none => ordinary
  else ordinary

def FilePath.addAll (p : FilePath) : List (List Char) → FilePath
  | [] => p
  | segment :: rest => (p.add segment rest.isEmpty).addAll rest

def FilePath.segments (p : FilePath) : List (List Char) :=
  match p.done.reverse.dropWhile List.isEmpty with
  | [] => [[]]
  | segments => segments

def readFilePath (cs : List Char) : FilePath :=
  match splitWhere isSlash (cs.takeWhile (! endsPath ·)) with
  | first :: second :: rest =>
    FilePath.addAll ⟨[], false⟩ <|
      if (withoutLines first).isEmpty then second :: rest else first :: second :: rest
  | parts => FilePath.addAll ⟨[], false⟩ parts

/-- The host and the path of a file, behind two slashes. A disk takes the place of the host. -/
def readFileHost (cs : List Char) : Except Error (List Char × FilePath) :=
  let host := withoutLines (cs.takeWhile fun c => !isSlash c && !endsPath c)
  if isDrive host then .ok ([], readFilePath cs)
  else
    let path := readFilePath (cs.dropWhile fun c => !isSlash c && !endsPath c)
    if host.isEmpty then .ok ([], path)
    else do
      let host ← webHost host
      return (if path.hasDrive || host = "localhost".toList then [] else host, path)

def afterSlash? (cs : List Char) : Option (List Char) :=
  match cs.dropWhile isLineOrTab with
  | c :: rest => if isSlash c then some rest else none
  | [] => none

/-- The host and the path of a file. Line breaks and tabs are still in the text. -/
def readFile (cs : List Char) : Except Error Url := do
  let (host, path) ← match (afterSlash? cs).bind afterSlash? with
    | some rest => readFileHost rest
    | none => .ok ([], readFilePath cs)
  let (query, fragment) := readTail true (withoutLines cs)
  return ⟨fileScheme, some ⟨[], [], host, none⟩, .segments path.segments, query, fragment⟩

def readAfterScheme (scheme : List Char) (cs : List Char) : Except Error Url :=
  if isWebScheme scheme then do
    let (authority, rest) ← readAuthority scheme (cs.dropWhile isSlash)
    let (query, fragment) := readTail true rest
    return ⟨scheme, some authority, .segments (webSegments (pathPart rest)), query, fragment⟩
  else
    match cs with
    | '/' :: '/' :: cs => do
      let (authority, rest) ← readAuthority scheme cs
      let (query, fragment) := readTail false rest
      return ⟨scheme, some authority, .segments (plainSegments (pathPart rest)), query, fragment⟩
    | cs =>
      let (query, fragment) := readTail false cs
      let path := pathPart cs
      let path := if path.head? = some '/' then .segments (plainSegments path)
        else .rootless (Percent.encode isShownAscii path)
      .ok ⟨scheme, none, path, query, fragment⟩

def parse (s : String) : Except Error Url :=
  let text := trim s.toList
  match readScheme (withoutLines text) with
  | none => .error .noScheme
  | some (scheme, rest) =>
    if scheme = fileScheme then readFile ((text.dropWhile (· != ':')).drop 1)
    else readAfterScheme scheme rest

end RestGateway.Url
