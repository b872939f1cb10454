import HtmlTemplate.Text.Ranges

/-!
White space in the sense of the Unicode property, with the four information separators
U+001C to U+001F, and the trimming of both ends of a text.
-/

namespace HtmlTemplate.Text

def blankBounds : List Nat :=
  [9, 13, 28, 32, 133, 133, 160, 160, 5760, 5760, 8192, 8202, 8232, 8233, 8239, 8239, 8287, 8287,
    12288, 12288]

def isBlank (c : Char) : Bool := within blankBounds c.toNat

/-- The text without the blanks at its two ends. -/
def trim (s : List Char) : List Char :=
  ((s.dropWhile isBlank).reverse.dropWhile isBlank).reverse

end HtmlTemplate.Text
