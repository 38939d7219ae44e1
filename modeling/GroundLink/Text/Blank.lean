/-!
# Blank characters

The white space of the character database, and cutting it from the ends of a text.
-/

namespace GroundLink.Text

/-- Whether a character is white space. -/
def isBlank (c : Char) : Bool :=
  let code := c.toNat
  (0x9 ≤ code && code ≤ 0xD) || code == 0x20 || code == 0x85 || code == 0xA0 || code == 0x1680 ||
    (0x2000 ≤ code && code ≤ 0x200A) || code == 0x2028 || code == 0x2029 || code == 0x202F ||
    code == 0x205F || code == 0x3000

/-- Without the white space at the start. -/
def trimStart (text : List Char) : List Char :=
  text.dropWhile isBlank

/-- Without the white space at the end. -/
def trimEnd (text : List Char) : List Char :=
  (text.reverse.dropWhile isBlank).reverse

/-- Without the white space at either end. -/
def trim (text : List Char) : List Char :=
  trimEnd (trimStart text)

/-- A text without the white space at either end. -/
def trimmed (text : String) : String :=
  String.ofList (trim text.toList)

end GroundLink.Text
