/-!
The lines of a text, each with its line end. Besides the line feed and the carriage return, alone or
together, the vertical tab, the form feed, the three separators U+001C to U+001E, U+0085, U+2028 and
U+2029 end a line.
-/

namespace HtmlTemplate.Text

def isLineEnd (c : Char) : Bool :=
  let n := c.toNat
  (decide (10 ≤ n) && decide (n ≤ 13)) || (decide (0x1C ≤ n) && decide (n ≤ 0x1E)) || n == 0x85
    || n == 0x2028 || n == 0x2029

/-- The lines of a text, with their ends; an empty text has none. -/
def lines : List Char → List (List Char)
  | [] => []
  | '\r' :: '\n' :: rest => ['\r', '\n'] :: lines rest
  | c :: rest =>
    if isLineEnd c then [c] :: lines rest
    else
      match lines rest with
      | [] => [[c]]
      | line :: more => (c :: line) :: more

end HtmlTemplate.Text
