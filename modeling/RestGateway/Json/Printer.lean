import RestGateway.Json.Value
import RestGateway.Binary64.Shortest

/-!
# JSON text

`Json.compact` writes a value without blanks; only the quote, the backslash and the control
characters of a string are escaped. `Json.indented` puts every item on a line of its own.
-/
namespace RestGateway

/-- Numbers are positional from `0.00001` to below `10 ^ 16`. -/
def Number.style : DecimalStyle := ⟨some (-5, 15)⟩

def integerText (n : Int) : List Char :=
  if n < 0 then '-' :: Nat.toDigits 10 n.natAbs else Nat.toDigits 10 n.natAbs

def Number.text : Number → List Char
  | integer n => integerText n
  | float x => Number.style.render x

namespace Json

def hexDigit (n : Nat) : Char := Nat.digitChar (n % 16)

def escaped (c : Char) : List Char :=
  if c = '"' then ['\\', '"']
  else if c = '\\' then ['\\', '\\']
  else if c = '\x08' then ['\\', 'b']
  else if c = '\t' then ['\\', 't']
  else if c = '\n' then ['\\', 'n']
  else if c = '\x0c' then ['\\', 'f']
  else if c = '\r' then ['\\', 'r']
  else if c.toNat < 0x20 then
    ['\\', 'u', '0', '0', hexDigit (c.toNat / 16), hexDigit c.toNat]
  else [c]

def stringText (s : String) : List Char :=
  '"' :: (s.toList.flatMap escaped ++ ['"'])

mutual

def text : Json → List Char
  | null => "null".toList
  | bool true => "true".toList
  | bool false => "false".toList
  | number n => n.text
  | string s => stringText s
  | array [] => ['[', ']']
  | array (first :: rest) => '[' :: (text first ++ itemsText rest)
  | object [] => ['\x7b', '\x7d']
  | object ((key, value) :: rest) =>
    '\x7b' :: (stringText key ++ ':' :: (text value ++ membersText rest))

/-- The items after the first one, and the closing bracket. -/
def itemsText : List Json → List Char
  | [] => [']']
  | item :: rest => ',' :: (text item ++ itemsText rest)

def membersText : List (String × Json) → List Char
  | [] => ['\x7d']
  | (key, value) :: rest =>
    ',' :: (stringText key ++ ':' :: (text value ++ membersText rest))

end

def compact (v : Json) : String := String.ofList v.text

/-- A line break and two blanks for each level. -/
def newLine (level : Nat) : List Char := '\n' :: List.replicate (2 * level) ' '

mutual

def indentedText (level : Nat) : Json → List Char
  | array (first :: rest) =>
    '[' :: (newLine (level + 1) ++ indentedText (level + 1) first ++ indentedItems level rest)
  | object ((key, value) :: rest) =>
    '\x7b' :: (newLine (level + 1) ++ stringText key ++ ':' :: ' ' ::
      (indentedText (level + 1) value ++ indentedMembers level rest))
  | null => text null
  | bool b => text (bool b)
  | number n => text (number n)
  | string s => text (string s)
  | array [] => text (array [])
  | object [] => text (object [])

def indentedItems (level : Nat) : List Json → List Char
  | [] => newLine level ++ [']']
  | item :: rest =>
    ',' :: (newLine (level + 1) ++ indentedText (level + 1) item ++ indentedItems level rest)

def indentedMembers (level : Nat) : List (String × Json) → List Char
  | [] => newLine level ++ ['\x7d']
  | (key, value) :: rest =>
    ',' :: (newLine (level + 1) ++ stringText key ++ ':' :: ' ' ::
      (indentedText (level + 1) value ++ indentedMembers level rest))

end

def indented (v : Json) : String := String.ofList (v.indentedText 0)

end Json

end RestGateway
