/-!
# White space

The characters with the property White_Space of the Unicode character
database, and the removal of such characters from both ends of a text.
-/

namespace LineBasic.Text

/-- Line and page controls, the spaces of every width, and the separators of
lines and paragraphs. The zero-width characters are not among them. -/
def isWhiteSpace (c : Char) : Bool :=
  let code := c.toNat
  (0x9 ≤ code && code ≤ 0xD) || code == 0x20 || code == 0x85 || code == 0xA0 ||
    code == 0x1680 || (0x2000 ≤ code && code ≤ 0x200A) || code == 0x2028 ||
    code == 0x2029 || code == 0x202F || code == 0x205F || code == 0x3000

/-- Removes the characters that satisfy `drop` from the end of a text. -/
def trimEnd (drop : Char → Bool) (text : List Char) : List Char :=
  (text.reverse.dropWhile drop).reverse

/-- Removes white space from both ends of a text. -/
def trim (text : List Char) : List Char :=
  trimEnd isWhiteSpace (text.dropWhile isWhiteSpace)

end LineBasic.Text
