import GoldenRun.Text.Ranges

/-!
# White space

The characters with the property White_Space: the controls from tab to carriage return, the space,
the next-line control, the no-break space, and the spaces and separators of other blocks.
-/

namespace GoldenRun.Text

/-- The code points with the property White_Space. -/
def blankRanges : Ranges :=
  [(0x09, 0x0D), (0x20, 0x20), (0x85, 0x85), (0xA0, 0xA0), (0x1680, 0x1680), (0x2000, 0x200A),
   (0x2028, 0x2029), (0x202F, 0x202F), (0x205F, 0x205F), (0x3000, 0x3000)]

def isBlank (c : Char) : Bool :=
  blankRanges.contains c

/-- A text without the longest run of a kind of characters at its end. -/
def dropEndWhile (p : Char → Bool) (text : List Char) : List Char :=
  (text.reverse.dropWhile p).reverse

def trimEnd (text : String) : String :=
  String.ofList (dropEndWhile isBlank text.toList)

end GoldenRun.Text
