import RestGateway.Text.Digit

/-!
# Percent-encoding

A byte is written as a percent sign and two capital hexadecimal digits. `Percent.encode` writes the
characters that are not kept in this way, byte for byte of their UTF-8 form; `Percent.decode` reads
any text back as bytes, and takes what is no escape as it stands.
-/
namespace RestGateway.Percent

/-- The bytes of a text. -/
def utf8 (cs : List Char) : List UInt8 := cs.flatMap String.utf8EncodeChar

/-- The digit of a number below sixteen. -/
def capitalDigit (n : Nat) : Char :=
  if n < 10 then Char.ofNat (n + '0'.toNat) else Char.ofNat (n - 10 + 'A'.toNat)

def escape (b : UInt8) : List Char :=
  ['%', capitalDigit (b.toNat / 16), capitalDigit (b.toNat % 16)]

def encodeChar (kept : Char → Bool) (c : Char) : List Char :=
  if kept c then [c] else (String.utf8EncodeChar c).flatMap escape

def encode (kept : Char → Bool) (cs : List Char) : List Char := cs.flatMap (encodeChar kept)

/-- The byte that two digits name. -/
def byte? (a b : Char) : Option UInt8 := do
  return UInt8.ofNat ((← Text.hexDigit? a) * 16 + (← Text.hexDigit? b))

def decode : List Char → List UInt8
  | [] => []
  | '%' :: a :: b :: rest =>
    match byte? a b with
    | some byte => byte :: decode rest
    | none => '%'.toUInt8 :: decode (a :: b :: rest)
  | c :: rest => String.utf8EncodeChar c ++ decode rest

end RestGateway.Percent
