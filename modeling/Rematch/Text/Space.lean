import Rematch.Text.InversionList

/-!
# Blank characters and line ends

The Unicode property White_Space, and the two characters that end a line.
-/

namespace Rematch
namespace Text

def whiteSpace : InversionList where
  rows := [
    [0x9, 0xE, 0x20, 0x21, 0x85, 0x86, 0xA0, 0xA1, 0x1680, 0x1681, 0x2000, 0x200B, 0x2028,
     0x202A, 0x202F, 0x2030, 0x205F, 0x2060, 0x3000, 0x3001]]

def isSpace (c : Char) : Bool :=
  whiteSpace.contains c.toNat

/-- A line ends at a line feed or a carriage return, and nowhere else. -/
def isNewline (c : Char) : Bool :=
  c == '\n' || c == '\r'

end Text
end Rematch
