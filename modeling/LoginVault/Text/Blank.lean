/-!
# Text.Blank — blank characters and trimming

Two classes of characters are skipped at the ends of a text: the white space of Unicode, which
surrounds a number, and the slightly larger class of blanks, which makes a form field empty.
-/

namespace LoginVault.Text

/-- The characters with the Unicode property White_Space. -/
def isWhite (c : Char) : Bool :=
  let n := c.toNat
  (0x9 ≤ n && n ≤ 0xd) || n == 0x20 || n == 0x85 || n == 0xa0 || n == 0x1680
    || (0x2000 ≤ n && n ≤ 0x200a) || n == 0x2028 || n == 0x2029 || n == 0x202f || n == 0x205f
    || n == 0x3000

/-- A blank is a white space or one of the four information separators. -/
def isBlank (c : Char) : Bool :=
  isWhite c || (0x1c ≤ c.toNat && c.toNat ≤ 0x1f)

/-- The text between the first and the last character outside the class `p`. -/
def trimWhere (p : Char → Bool) (s : List Char) : List Char :=
  ((s.dropWhile p).reverse.dropWhile p).reverse

/-- The text without the blanks at its two ends. -/
def trim (s : String) : String :=
  String.ofList (trimWhere isBlank s.toList)

/-- A text counts as empty in a form field when nothing is left of it after trimming. -/
def isEmptyField (s : String) : Bool :=
  (trim s).isEmpty

end LoginVault.Text
