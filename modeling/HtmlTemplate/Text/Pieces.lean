/-!
Occurrences of one text in another: cutting a text at every separator, counting the separators, and
finding the first. Occurrences are taken from the left and do not overlap.
-/

namespace HtmlTemplate.Text

/-- Cuts a text at the separators. `skip` is the number of characters still to pass of the separator
that was met last. -/
def piecesFrom (sep : List Char) : (skip : Nat) → List Char → List (List Char)
  | _, [] => [[]]
  | skip + 1, _ :: rest => piecesFrom sep skip rest
  | 0, c :: rest =>
    if sep.isPrefixOf (c :: rest) then [] :: piecesFrom sep (sep.length - 1) rest
    else (piecesFrom sep 0 rest).modifyHead (c :: ·)

/-- The stretches of `text` between the occurrences of `sep`, which is not empty. There is one more
of them than there are occurrences. -/
def pieces (sep text : List Char) : List (List Char) := piecesFrom sep 0 text

def countOf (sep text : List Char) : Nat := (pieces sep text).length - 1

/-- The offset of the first occurrence; the empty text occurs at the start of any text. -/
def indexOf? (sought : List Char) : List Char → Option Nat
  | [] => if sought.isEmpty then some 0 else none
  | c :: rest =>
    if sought.isPrefixOf (c :: rest) then some 0 else (indexOf? sought rest).map (· + 1)

def occursIn (sought text : List Char) : Bool := (indexOf? sought text).isSome

end HtmlTemplate.Text
