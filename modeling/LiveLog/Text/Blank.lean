/-!
# White space

The characters with the Unicode property `White_Space`, and trimming by it. This is wider than the
blanks of most formats: it holds the vertical tab, the no-break space and the ideographic space. The
zero width space and the byte order mark are not in it.
-/

namespace LiveLog.Text

/-- Whether a character is white space. -/
def isBlank (c : Char) : Bool :=
  let n := c.toNat
  (0x9 ≤ n && n ≤ 0xD) || n == 0x20 || n == 0x85 || n == 0xA0 || n == 0x1680 ||
    (0x2000 ≤ n && n ≤ 0x200A) || n == 0x2028 || n == 0x2029 || n == 0x202F || n == 0x205F ||
    n == 0x3000

/-- The characters without the blanks at both ends. -/
def trimChars (cs : List Char) : List Char :=
  ((cs.dropWhile isBlank).reverse.dropWhile isBlank).reverse

/-- **A text without the blanks at both ends.** -/
def trim (s : String) : String := String.ofList (trimChars s.toList)

end LiveLog.Text
