import ProbeCheck.Text.Ranges

namespace ProbeCheck.Text

-- The Unicode characters with a white-space role, and the four ASCII separators 1C to 1F. Zero-width
-- characters are not among them.
def blankRanges : CodeRanges :=
  [(0x9, 0xD), (0x1C, 0x20), (0x85, 0x85), (0xA0, 0xA0), (0x1680, 0x1680), (0x2000, 0x200A),
   (0x2028, 0x2029), (0x202F, 0x202F), (0x205F, 0x205F), (0x3000, 0x3000)]

def isBlank (c : Char) : Bool := blankRanges.holds c

def trim (text : Text) : Text :=
  ((text.dropWhile isBlank).reverse.dropWhile isBlank).reverse

example : trim [' ', '\t', '5', ' ', '4', '\n'] = ['5', ' ', '4'] := by decide

end ProbeCheck.Text
