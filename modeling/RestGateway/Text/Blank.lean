import RestGateway.Text.Ranges

/-!
# Blank text

The characters with the property White_Space, and texts that consist of them.
-/
namespace RestGateway.Text

def blankRanges : Ranges := #[
  (0x9, 0xD), (0x20, 0x20), (0x85, 0x85), (0xA0, 0xA0), (0x1680, 0x1680), (0x2000, 0x200A),
  (0x2028, 0x2029), (0x202F, 0x202F), (0x205F, 0x205F), (0x3000, 0x3000)]

def isBlankChar (c : Char) : Bool := blankRanges.contains c

def isBlank (s : String) : Bool := s.toList.all isBlankChar

end RestGateway.Text
