import DocStore.Text.Ranges

namespace DocStore.Text

-- Tab to carriage return, the four information separators and the space, next line, the no-break
-- space, and the spaces and separators beyond Latin.
def blankRanges : List (Nat × Nat) :=
  [(0x9, 0xD), (0x1C, 0x20), (0x85, 0x85), (0xA0, 0xA0), (0x1680, 0x1680), (0x2000, 0x200A),
   (0x2028, 0x2029), (0x202F, 0x202F), (0x205F, 0x205F), (0x3000, 0x3000)]

def isBlank (c : Char) : Bool :=
  inRanges blankRanges c.toNat

-- Whether nothing is left of a text once its blank characters are taken away.
def allBlank (s : String) : Bool :=
  s.toList.all isBlank

def dropBlank (s : List Char) : List Char :=
  s.dropWhile isBlank

end DocStore.Text
