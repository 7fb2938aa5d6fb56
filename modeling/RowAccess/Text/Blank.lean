/-!
# Blanks

Blank characters are those with the White_Space property. `trim` takes them off both ends of a text
and `isBlankText` asks whether nothing else is in it.
-/

namespace RowAccess.Text

/-- The White_Space property. -/
def isBlank (c : Char) : Bool :=
  let n := c.toNat
  (9 ≤ n && n ≤ 13) || n == 0x20 || n == 0x85 || n == 0xA0 || n == 0x1680 ||
    (0x2000 ≤ n && n ≤ 0x200A) || n == 0x2028 || n == 0x2029 || n == 0x202F || n == 0x205F ||
    n == 0x3000

def trimLeft (s : List Char) : List Char := s.dropWhile isBlank

def trimRight (s : List Char) : List Char := (s.reverse.dropWhile isBlank).reverse

/-- The text without blanks at either end. -/
def trim (s : List Char) : List Char := trimRight (trimLeft s)

def isBlankText (s : String) : Bool := s.toList.all isBlank

end RowAccess.Text
