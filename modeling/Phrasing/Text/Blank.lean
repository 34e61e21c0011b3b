/-!
# Blank characters

Which characters count as blank, and trimming them from the ends of a text.  The class is the Unicode
white space together with the four separators U+001C to U+001F.
-/

namespace Phrasing.Text

/-- A blank character. -/
def isBlank (c : Char) : Bool :=
  let n := c.toNat
  (0x09 ≤ n && n ≤ 0x0D) || (0x1C ≤ n && n ≤ 0x20) || n == 0x85 || n == 0xA0 || n == 0x1680 ||
    (0x2000 ≤ n && n ≤ 0x200A) || n == 0x2028 || n == 0x2029 || n == 0x202F || n == 0x205F ||
    n == 0x3000

/-- A text without the characters of a class at its end. -/
def dropTrailing (p : Char → Bool) (cs : List Char) : List Char :=
  (cs.reverse.dropWhile p).reverse

/-- The characters without the blank ones at either end. -/
def trim (cs : List Char) : List Char :=
  dropTrailing isBlank (cs.dropWhile isBlank)

/-- The text without the blank characters at either end. -/
def strip (s : String) : String :=
  String.ofList (trim s.toList)

/-- The text without the slashes at its end. -/
def dropTrailingSlashes (s : String) : String :=
  String.ofList (dropTrailing (· == '/') s.toList)

/-- A text with nothing but blank characters, the empty text included. -/
def isBlankText (s : String) : Bool :=
  s.toList.all isBlank

end Phrasing.Text
