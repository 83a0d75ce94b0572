import StatusLine.Unicode.Ranges

/-!
# White space

The characters with the property White_Space. It holds all that core calls white space, and the
form feed, the vertical tab and the wide, thin and ruling spaces besides.
-/
namespace StatusLine.Unicode

def blankRanges : Ranges :=
  [(0x9, 0xD), (0x20, 0x20), (0x85, 0x85), (0xA0, 0xA0), (0x1680, 0x1680), (0x2000, 0x200A),
   (0x2028, 0x2029), (0x202F, 0x202F), (0x205F, 0x205F), (0x3000, 0x3000)]

def isBlank (c : Char) : Bool := blankRanges.contains c

def trimBlank (cs : List Char) : List Char := cs.dropWhile isBlank

end StatusLine.Unicode
