import RestGateway.Dict

/-!
# Headers

The headers of a message are looked up as in a dictionary from names in small letters to values, but
stand in the order in which their names were put first. There is room for a fixed number of them:
nothing can be put into headers that are full, not even in the place of another.
-/
namespace RestGateway

abbrev Headers := Dict String

namespace Headers

def isNameChar (c : Char) : Bool :=
  c.isAlphanum || ['!', '#', '$', '%', '&', '\'', '*', '+', '-', '.', '^', '_', '\x60', '|',
    '~'].contains c

def longestName : Nat := 65535

def isName (s : String) : Bool :=
  !s.isEmpty && s.toList.all isNameChar && s.length ≤ longestName

/-- A character of a value: none that controls a device, apart from the tab. -/
def isValueChar (c : Char) : Bool := (0x20 ≤ c.toNat && c.toNat ≠ 0x7F) || c = '\t'

def isValue (s : String) : Bool := s.toList.all isValueChar

def isVisible (s : String) : Bool :=
  s.toList.all fun c => (0x20 ≤ c.toNat && c.toNat < 0x7F) || c = '\t'

/-- A text with small letters instead of the capital ones of ASCII. -/
def lower (s : String) : String := String.ofList (s.toList.map Char.toLower)

def room : Nat := 24576

/-- Headers with a value in the place of the one with the same name, or else behind all others. -/
def set (name value : String) : Headers → Headers
  | [] => [(name, value)]
  | (n, v) :: rest => if name = n then (name, value) :: rest else (n, v) :: set name value rest

def put? (headers : Headers) (name value : String) : Option Headers :=
  if headers.length < room then some (set name value headers) else none

/-- Put a header, or again the one with the same name. -/
def offer? (headers : Headers) (name value : String) : Option Headers :=
  headers.put? name ((headers.find? name).getD value)

def putAll? (headers : Headers) : List (String × String) → Option Headers
  | [] => some headers
  | (name, value) :: rest => do putAll? (← headers.put? name value) rest

end Headers

end RestGateway
