import RestGateway.Percent

/-!
# Form encoding

The bytes of a text are letters, digits and `* - . _`, or escapes; only the form of a blank differs
between a query, where it is a plus sign, and a path segment, where it is an escape as well. A query
is a list of names and values.
-/
namespace RestGateway.Form

def isPlain (b : UInt8) : Bool :=
  (0x30 ≤ b && b ≤ 0x39) || (0x41 ≤ b && b ≤ 0x5A) || (0x61 ≤ b && b ≤ 0x7A) ||
    b == 0x2A || b == 0x2D || b == 0x2E || b == 0x5F

def encodeByte (blank : List Char) (b : UInt8) : List Char :=
  if isPlain b then [Char.ofNat b.toNat]
  else if b = 0x20 then blank
  else Percent.escape b

def encodeBytes (blank : List Char) (bs : List UInt8) : List Char :=
  bs.flatMap (encodeByte blank)

def encode (blank : List Char) (s : String) : List Char :=
  encodeBytes blank (Percent.utf8 s.toList)

def component (s : String) : List Char := encode ['+'] s

/-- A text as one segment of a path. None for the two segments that stand for a place and not for a
name. -/
def segment? (s : String) : Option (List Char) :=
  if s = "." ∨ s = ".." then none else some (encode (Percent.escape 0x20) s)

def pairText (pair : String × String) : List Char :=
  component pair.1 ++ '=' :: component pair.2

def query : List (String × String) → List Char
  | [] => []
  | [pair] => pairText pair
  | pair :: rest => pairText pair ++ '&' :: query rest

/-! ### Reading a query -/

def decode (cs : List Char) : List UInt8 :=
  Percent.decode (cs.map fun c => if c = '+' then ' ' else c)

def decodePair (cs : List Char) : List UInt8 × List UInt8 :=
  (decode (cs.takeWhile (· != '=')), decode ((cs.dropWhile (· != '=')).drop 1))

/-- The pairs of a query. -/
def decodeQuery (cs : List Char) : List (List UInt8 × List UInt8) :=
  ((cs.splitOn '&').filter fun part => !part.isEmpty).map decodePair

end RestGateway.Form
