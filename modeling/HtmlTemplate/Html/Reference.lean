import HtmlTemplate.Decimal.Written
import HtmlTemplate.Html.ReferenceTable
import HtmlTemplate.Text.Quoted

/-!
Character references: `&#38;`, `&#x26;` and `&amp;`. A named reference is the longest known name at
the front of the text, and some names may lack their semicolon. In an attribute value such a name
counts only if neither a letter, a digit nor an equals sign follows.
-/

namespace HtmlTemplate.Html

/-- The white space of HTML. -/
def isSpace (c : Char) : Bool :=
  c == ' ' || c == '\n' || c == '\t' || c == '\x0c' || c == '\r'

/-- What is written for a character that has no place in a page. -/
def replacement : Char := Char.ofNat 0xFFFD

/-- A known name, as far as it is not yet matched, and what it stands for. -/
structure Candidate where
  left : List Char
  image : List Char

def hexImage (digits : List Char) : List Char :=
  match Text.Quoted.hexChar? digits with
  | some c => [c]
  | none => []

def candidateOf (entry : List Char) : Candidate :=
  let name := entry.takeWhile (· != ':')
  let codes := (entry.drop (name.length + 1)).splitOn '.'
  { left := name, image := codes.flatMap hexImage }

/-- All known names. -/
def candidates : List Candidate :=
  referenceLines.flatMap fun line => (line.toList.splitOn ' ').map candidateOf

/-- The candidates whose name goes on with a character. -/
def advance (c : Char) (known : List Candidate) : List Candidate :=
  known.filterMap fun candidate =>
    match candidate.left with
    | d :: left => if d = c then some { candidate with left } else none
    | [] => none

/-- A name met in the text: its length, its last character, and what it stands for. -/
structure Named where
  size : Nat
  closed : Bool
  image : List Char

/-- Walks along the text as long as some name goes on, and remembers the longest name that ended.
Gives also the number of characters walked over. -/
def walkNames : (size : Nat) → (best : Option Named) → List Candidate → List Char →
    Nat × Option Named
  | size, best, _, [] => (size, best)
  | size, best, known, c :: rest =>
    match advance c known with
    | [] => (size, best)
    | known =>
      let ended := known.find? (·.left.isEmpty)
      let best :=
        match ended with
        | some candidate => some { size := size + 1, closed := c == ';', image := candidate.image }
        | none => best
      walkNames (size + 1) best known rest

/-- The characters that code points 80 to 9F (hexadecimal) stand for. -/
def windowsImages : List Nat :=
  [0x20AC, 0x81, 0x201A, 0x192, 0x201E, 0x2026, 0x2020, 0x2021, 0x2C6, 0x2030, 0x160, 0x2039, 0x152,
    0x8D, 0x17D, 0x8F, 0x90, 0x2018, 0x2019, 0x201C, 0x201D, 0x2022, 0x2013, 0x2014, 0x2DC, 0x2122,
    0x161, 0x203A, 0x153, 0x9D, 0x17E, 0x178]

/-- The character of a numeric reference. -/
def numericImage (n : Nat) : Char :=
  if n = 0 then replacement
  else if 0x80 ≤ n ∧ n ≤ 0x9F then Char.ofNat ((windowsImages[n - 0x80]?).getD n)
  else if n.isValidChar then Char.ofNat n
  else replacement

def isHexDigit (c : Char) : Bool := (Text.Quoted.hexValue? c).isSome

/-- What a reference stands for, and how many characters after the ampersand it takes up. -/
structure Reference where
  image : List Char
  size : Nat
  /-- The number of its decimal digits, if they are too many to be read. -/
  overlong : Option Nat := none

/-- A numeric reference, after its number sign. -/
def numericReference (s : List Char) : Reference :=
  match s with
  | [] => { image := ['&', '#'], size := 1 }
  | x :: rest =>
    if x = 'x' ∨ x = 'X' then number 16 [x] isHexDigit rest
    else number 10 [] Char.isDigit s
where
  number (radix : Nat) (mark : List Char) (allowed : Char → Bool) (s : List Char) : Reference :=
    match s.takeWhile allowed with
    | [] => { image := '&' :: '#' :: mark, size := 1 + mark.length }
    | digits =>
      let n := digits.foldl (fun n c => radix * n + (Text.Quoted.hexValue? c).getD 0) 0
      let semicolon := if (s.dropWhile allowed).head? = some ';' then 1 else 0
      { image := [numericImage n]
        size := 1 + mark.length + digits.length + semicolon
        overlong :=
          if radix = 10 ∧ Decimal.mostDigits < digits.length then some digits.length else none }

/-- Whether a name without its semicolon is left as it is in an attribute value. -/
def keepsName (next : Option Char) : Bool :=
  match next with
  | some c => c.isAlphanum || c == '='
  | none => false

/-- A named reference. What was walked over beyond the name belongs to the same stretch of text. -/
def namedReference (inAttribute : Bool) (s : List Char) : Reference :=
  match walkNames 0 none candidates s with
  | (walked, none) => { image := '&' :: s.take walked, size := walked }
  | (walked, some named) =>
    if inAttribute && !named.closed && keepsName ((s.drop named.size).head?) then
      { image := '&' :: s.take walked, size := walked }
    else
      { image := named.image ++ (s.take walked).drop named.size, size := walked }

/-- Reads a reference after its ampersand. In an attribute value the quote that ends it is given;
an ampersand in front of it, of white space, of `<` or of another ampersand stands for itself. -/
def readReference (inAttribute : Bool) (quote : Option Char) (s : List Char) : Reference :=
  match s with
  | [] => { image := ['&'], size := 0 }
  | c :: rest =>
    if isSpace c ∨ c = '<' ∨ c = '&' ∨ quote = some c then { image := ['&'], size := 0 }
    else if c = '#' then numericReference rest
    else namedReference inAttribute s

end HtmlTemplate.Html
