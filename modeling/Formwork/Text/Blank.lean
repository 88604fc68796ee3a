/-!
# Blank characters

White space in the widest sense, and the trimming that removes it from both ends of a text.
-/

namespace Formwork.Text

/-- White space of any script, and the information separators U+001C to U+001F. -/
def isBlank (c : Char) : Bool :=
  let n := c.toNat
  (9 ≤ n && n ≤ 13) || (28 ≤ n && n ≤ 32) || n == 0x85 || n == 0xa0 || n == 0x1680 ||
  (0x2000 ≤ n && n ≤ 0x200a) || n == 0x2028 || n == 0x2029 || n == 0x202f || n == 0x205f ||
  n == 0x3000

/-- The text without the characters of a class at its two ends. -/
def trimEnds (drop : Char → Bool) (cs : List Char) : List Char :=
  ((cs.dropWhile drop).reverse.dropWhile drop).reverse

/-- The text without blanks at its two ends. -/
def trim (s : String) : String := String.ofList (trimEnds isBlank s.toList)

/-- A text with nothing but blanks. -/
def isBlankText (s : String) : Bool := s.toList.all isBlank

/-- Lower case of the ASCII letters. -/
def lowerAscii (s : String) : String := String.ofList (s.toList.map Char.toLower)

end Formwork.Text
