/-! # Blank characters

The white space that trimming removes: the ASCII controls that move the cursor, the four
information separators, and the space characters of the other scripts. A zero-width space is
not blank.
-/

namespace GuidedJson.Text

/-- Characters that count as white space at the ends of a text. -/
def isBlank (c : Char) : Bool :=
  let n := c.toNat
  (9 ≤ n && n ≤ 13) || (28 ≤ n && n ≤ 32) || n == 0x85 || n == 0xA0 || n == 0x1680 ||
    (0x2000 ≤ n && n ≤ 0x200A) || n == 0x2028 || n == 0x2029 || n == 0x202F || n == 0x205F ||
    n == 0x3000

/-- A text without any visible character, the empty text among them. -/
def isBlankText (s : String) : Bool := s.toList.all isBlank

/-! ## Trimming -/

def trimStart (cs : List Char) : List Char := cs.dropWhile isBlank

def trimList (cs : List Char) : List Char :=
  (trimStart (trimStart cs).reverse).reverse

/-- The text without the blanks at its two ends. -/
def trim (s : String) : String := String.ofList (trimList s.toList)

end GuidedJson.Text
