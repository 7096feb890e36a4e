import RestGateway.Json.Numeral

/-!
# Strings of a JSON text

An escape `\u` names a UTF-16 code unit, and the two units of a surrogate pair must follow each
other. The four digits of a unit are taken as bytes, so that a fault lies behind the fourth byte.
-/
namespace RestGateway.Json

def codeUnit? (a b c d : Char) : Option Nat := Text.hexValue? [a, b, c, d]

def isLeadingUnit (n : Nat) : Bool := 0xD800 ≤ n && n ≤ 0xDBFF

def isTrailingUnit (n : Nat) : Bool := 0xDC00 ≤ n && n ≤ 0xDFFF

def pairedChar (leading trailing : Nat) : Char :=
  Char.ofNat ((leading - 0xD800) * 0x400 + (trailing - 0xDC00) + 0x10000)

/-- The fault of an escape without four hexadecimal digits. -/
def codeUnitFault (rest : List Char) : Fault :=
  if (String.ofList rest).utf8ByteSize < 4 then .here .endOfString []
  else ⟨.invalidEscape, rest, 4, []⟩

def unescaped? (c : Char) : Option Char :=
  if c = '"' then some '"'
  else if c = '\\' then some '\\'
  else if c = '/' then some '/'
  else if c = 'b' then some '\x08'
  else if c = 'f' then some '\x0c'
  else if c = 'n' then some '\n'
  else if c = 'r' then some '\r'
  else if c = 't' then some '\t'
  else none

/-- The characters of a string up to its closing quote, before the ones in `read`, last first. -/
def readQuotation (read : List Char) : Reader (List Char)
  | [] => .error (.here .endOfString [])
  | '"' :: rest => .ok (read.reverse, rest)
  | '\\' :: 'u' :: a :: b :: c :: d :: rest =>
    match codeUnit? a b c d with
    | none => .error (codeUnitFault (a :: b :: c :: d :: rest))
    | some unit =>
      if isTrailingUnit unit then .error (.here .loneSurrogate rest)
      else if !isLeadingUnit unit then readQuotation (Char.ofNat unit :: read) rest
      else
        match rest with
        | '\\' :: 'u' :: a' :: b' :: c' :: d' :: rest' =>
          match codeUnit? a' b' c' d' with
          | none => .error (codeUnitFault (a' :: b' :: c' :: d' :: rest'))
          | some unit' =>
            if isTrailingUnit unit' then readQuotation (pairedChar unit unit' :: read) rest'
            else .error (.here .loneSurrogate rest')
        | '\\' :: 'u' :: rest' => .error (codeUnitFault rest')
        | ['\\'] => .error (.here .endOfString [])
        | '\\' :: rest' => .error (.next .endOfHexEscape rest')
        | [] => .error (.here .endOfString [])
        | rest' => .error (.next .endOfHexEscape rest')
  | '\\' :: 'u' :: rest => .error (codeUnitFault rest)
  | ['\\'] => .error (.here .endOfString [])
  | '\\' :: c :: rest =>
    match unescaped? c with
    | some x => readQuotation (x :: read) rest
    | none => .error (.next .invalidEscape (c :: rest))
  | c :: rest =>
    if c.toNat < 0x20 then .error (.next .controlCharacter (c :: rest))
    else readQuotation (c :: read) rest

def readString : Reader String := fun s => do
  let (cs, rest) ← readQuotation [] s
  return (String.ofList cs, rest)

end RestGateway.Json
