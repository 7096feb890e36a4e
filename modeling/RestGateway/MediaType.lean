import RestGateway.Headers

/-!
# Media types

A type, a subtype and possibly parameters, in letters of either case. A subtype may end in a plus
sign and a suffix. Data is JSON when the subtype without its suffix, or the suffix, is `json`.
-/
namespace RestGateway.MediaType

def upTo (marks : List Char) (cs : List Char) : List Char := cs.takeWhile (! marks.contains ·)

def trimmed (cs : List Char) : List Char :=
  ((cs.dropWhile (· = ' ')).reverse.dropWhile (· = ' ')).reverse

def isToken (cs : List Char) : Bool := !cs.isEmpty && cs.all Headers.isNameChar

/-- A subtype without its suffix, and the suffix behind its last plus sign. A plus sign at the start
is a part of the subtype. -/
def splitSuffix (subtype : List Char) : List Char × Option (List Char) :=
  let suffix := (subtype.reverse.takeWhile (· != '+')).reverse
  let front := subtype.take (subtype.length - suffix.length - 1)
  if front.isEmpty then (subtype, none) else (front, some suffix)

/-! ### Parameters -/

inductive Place where
  | beforeName
  | inName
  | beforeValue
  | inValue
  | afterOpeningQuote
  | inQuotes
  | afterQuotes

/-- Whether a text can stand in the place where parameters are read: names with values, which may be
in quotes. Quotes hold at least one character, which may be a quote itself. -/
def areParameters : Place → List Char → Bool
  | .beforeName, [] => true
  | .beforeName, c :: rest =>
    if c = ' ' then areParameters .beforeName rest
    else Headers.isNameChar c && areParameters .inName rest
  | .inName, [] => false
  | .inName, c :: rest =>
    if c = '=' then areParameters .beforeValue rest
    else Headers.isNameChar c && areParameters .inName rest
  | .beforeValue, [] => true
  | .beforeValue, c :: rest =>
    if c = '"' then areParameters .afterOpeningQuote rest
    else Headers.isNameChar c && areParameters .inValue rest
  | .inValue, [] => true
  | .inValue, c :: rest =>
    if c = ';' then areParameters .beforeName rest
    else Headers.isNameChar c && areParameters .inValue rest
  | .afterOpeningQuote, [] => false
  | .afterOpeningQuote, c :: rest => c != '\t' && areParameters .inQuotes rest
  | .inQuotes, [] => false
  | .inQuotes, c :: rest =>
    if c = '"' then areParameters .afterQuotes rest
    else c != '\t' && areParameters .inQuotes rest
  | .afterQuotes, [] => true
  | .afterQuotes, c :: rest =>
    if c = ';' then areParameters .beforeName rest
    else c = ' ' && areParameters .afterQuotes rest

def isJson (value : String) : Bool :=
  let cs := trimmed (Headers.lower value).toList
  let type := upTo ['/'] cs
  let rest := (cs.drop type.length).drop 1
  let subtype := upTo [';'] rest
  let (front, suffix) := splitSuffix subtype
  Headers.isVisible value && type = "application".toList && isToken subtype &&
    areParameters .beforeName ((rest.drop subtype.length).drop 1) &&
    (front = "json".toList || suffix = some "json".toList)

end RestGateway.MediaType
