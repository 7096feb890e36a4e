import RestGateway.Text.Digit

/-!
# Strings and keys of TOML

A string stands between double quotes, where a backslash introduces an escape, or between single
quotes, where every character stands for itself. Between three quotes it may have several lines; a
line break right after the opening quotes does not count, nor do the line breaks and blanks after a
backslash at the end of a line.
-/
namespace RestGateway.Toml

/-- Reads something from the start of a text; none when it is not there. -/
abbrev Reader (α : Type) := List Char → Option (α × List Char)

def isBlank (c : Char) : Bool := c = ' ' || c = '\t'

def skipBlanks (cs : List Char) : List Char := cs.dropWhile isBlank

def isPlain (c : Char) : Bool :=
  c = '\t' || (0x20 ≤ c.toNat && c.toNat ≤ 0x7E) || 0x80 ≤ c.toNat

def startsWithLineBreak : List Char → Bool
  | '\n' :: _ => true
  | '\r' :: '\n' :: _ => true
  | _ => false

/-- The text behind a line break at its start, if there is one. -/
def skipLineBreak : List Char → List Char
  | '\n' :: rest => rest
  | '\r' :: '\n' :: rest => rest
  | rest => rest

/-! ### Escapes -/

def charOfCode? (n : Nat) : Option Char :=
  if n < 0xD800 ∨ (0xDFFF < n ∧ n < 0x110000) then some (Char.ofNat n) else none

def charOfDigits? (digits : List Char) : Option Char := Text.hexValue? digits >>= charOfCode?

def unescaped? (c : Char) : Option Char :=
  if c = '"' then some '"'
  else if c = '\\' then some '\\'
  else if c = 'b' then some '\x08'
  else if c = 'f' then some '\x0c'
  else if c = 'n' then some '\n'
  else if c = 'r' then some '\r'
  else if c = 't' then some '\t'
  else none

/-! ### Strings -/

/-- The rest of a string between double quotes, after the characters in `read`, last first. -/
def readQuoted (read : List Char) : Reader String
  | [] => none
  | '"' :: rest => some (String.ofList read.reverse, rest)
  | '\\' :: 'u' :: a :: b :: c :: d :: rest =>
    match charOfDigits? [a, b, c, d] with
    | some x => readQuoted (x :: read) rest
    | none => none
  | '\\' :: 'U' :: a :: b :: c :: d :: e :: f :: g :: h :: rest =>
    match charOfDigits? [a, b, c, d, e, f, g, h] with
    | some x => readQuoted (x :: read) rest
    | none => none
  | '\\' :: c :: rest =>
    match unescaped? c with
    | some x => readQuoted (x :: read) rest
    | none => none
  | c :: rest => if isPlain c ∧ c ≠ '\\' then readQuoted (c :: read) rest else none

/-- The rest of a string between three double quotes. While `trimming`, blanks and line breaks do
not count. -/
def readLongQuoted (trimming : Bool) (read : List Char) : Reader String
  | [] => none
  | '"' :: '"' :: '"' :: '"' :: '"' :: rest =>
    some (String.ofList (('"' :: '"' :: read).reverse), rest)
  | '"' :: '"' :: '"' :: '"' :: rest => some (String.ofList (('"' :: read).reverse), rest)
  | '"' :: '"' :: '"' :: rest => some (String.ofList read.reverse, rest)
  | '\\' :: 'u' :: a :: b :: c :: d :: rest =>
    match charOfDigits? [a, b, c, d] with
    | some x => readLongQuoted false (x :: read) rest
    | none => none
  | '\\' :: 'U' :: a :: b :: c :: d :: e :: f :: g :: h :: rest =>
    match charOfDigits? [a, b, c, d, e, f, g, h] with
    | some x => readLongQuoted false (x :: read) rest
    | none => none
  | '\\' :: c :: rest =>
    match unescaped? c with
    | some x => readLongQuoted false (x :: read) rest
    | none =>
      if startsWithLineBreak (skipBlanks (c :: rest)) then readLongQuoted true read (c :: rest)
      else none
  | '\r' :: '\n' :: rest => readLongQuoted trimming (if trimming then read else '\n' :: read) rest
  | c :: rest =>
    if trimming ∧ (isBlank c ∨ c = '\n') then readLongQuoted true read rest
    else if (isPlain c ∧ c ≠ '\\') ∨ c = '\n' then readLongQuoted false (c :: read) rest
    else none

def readLongLiteral (read : List Char) : Reader String
  | [] => none
  | '\'' :: '\'' :: '\'' :: '\'' :: '\'' :: rest =>
    some (String.ofList (('\'' :: '\'' :: read).reverse), rest)
  | '\'' :: '\'' :: '\'' :: '\'' :: rest => some (String.ofList (('\'' :: read).reverse), rest)
  | '\'' :: '\'' :: '\'' :: rest => some (String.ofList read.reverse, rest)
  | '\r' :: '\n' :: rest => readLongLiteral ('\n' :: read) rest
  | c :: rest => if isPlain c ∨ c = '\n' then readLongLiteral (c :: read) rest else none

def readLiteral (cs : List Char) : Option (String × List Char) :=
  let text := cs.takeWhile fun c => isPlain c && c != '\''
  match cs.drop text.length with
  | '\'' :: rest => some (String.ofList text, rest)
  | _ => none

def readString : Reader String
  | '"' :: '"' :: '"' :: rest => readLongQuoted false [] (skipLineBreak rest)
  | '"' :: rest => readQuoted [] rest
  | '\'' :: '\'' :: '\'' :: rest => readLongLiteral [] (skipLineBreak rest)
  | '\'' :: rest => readLiteral rest
  | _ => none

/-! ### Keys -/

def isKeyChar (c : Char) : Bool := Text.isLetter c || Text.isDigit c || c = '_' || c = '-'

def readSimpleKey : Reader String
  | '"' :: rest => readQuoted [] rest
  | '\'' :: rest => readLiteral rest
  | cs =>
    let key := cs.takeWhile isKeyChar
    if key.isEmpty then none else some (String.ofList key, cs.dropWhile isKeyChar)

/-- Keys joined by points, with blanks around them. -/
def readKeys : Nat → Reader (List String)
  | 0, _ => none
  | more + 1, cs => do
    let (key, rest) ← readSimpleKey (skipBlanks cs)
    match skipBlanks rest with
    | '.' :: rest =>
      let (keys, rest) ← readKeys more rest
      return (key :: keys, rest)
    | rest => return ([key], rest)

/-- How many levels keys and values may go down. -/
def greatestDepth : Nat := 79

def readPath : Reader (List String) := readKeys greatestDepth

end RestGateway.Toml
