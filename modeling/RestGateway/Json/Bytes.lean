import RestGateway.Json.Quotation

/-!
# Bytes as a JSON text

A text may come as bytes that are not all UTF-8. In a string that is passed over they do no harm,
and anywhere else the text is refused. `readBytes` puts an escape in the place of such a byte that
stands for no character: `skipQuotation` passes over it, and no other reader takes it.
-/
namespace RestGateway.Json

def firstChar? (bytes : List UInt8) : Option Char :=
  ByteArray.utf8DecodeChar? ⟨(bytes.take 4).toArray⟩ 0

/-- An escape for a lone surrogate. The letter keeps it apart from an escape that is not complete
before it. -/
def blot : List Char := ['x', '\\', 'u', 'd', 'c', '0', '0']

/-- The text of some bytes, behind the characters in `read`, last first. So many bytes belong to the
last of these. -/
def readBytes (read : List Char) : Nat → List UInt8 → List Char
  | _, [] => read.reverse
  | pending + 1, _ :: bytes => readBytes read pending bytes
  | 0, b :: bytes =>
    match firstChar? (b :: bytes) with
    | some c => readBytes (c :: read) (c.utf8Size - 1) bytes
    | none => readBytes (blot.reverse ++ read) 0 bytes

end RestGateway.Json
