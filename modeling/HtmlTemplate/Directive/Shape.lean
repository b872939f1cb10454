import HtmlTemplate.Text.Pieces

/-!
The shape of a directive: its parts read off the front of a text, with what follows it. A number is
any run of digits and points here; whether it is a number is decided once the whole text has a
shape.
-/

namespace HtmlTemplate.Directive

/-- An expression as it is spelled. -/
inductive Operand where
  | word (value : Bool)
  | quoted (inside : List Char)
  | number (digits : List Char)
  | name (letters : List Char)
  deriving DecidableEq, Repr

inductive Shape where
  | ifShape (condition : Operand)
  | elifShape (condition : Operand)
  | elseShape
  | endIfShape
  | expression (body : Operand)
  | comment (body : List Char)
  deriving DecidableEq, Repr

def isSpace (c : Char) : Bool := c == ' ' || c == '\n'

def isNameStart (c : Char) : Bool := c.isAlpha

def isNamePart (c : Char) : Bool := c.isAlphanum || c == '_'

def isNumberPart (c : Char) : Bool := c.isDigit || c == '.'

/-- Drops the spaces and line breaks at the front. -/
def skip (s : List Char) : List Char := s.dropWhile isSpace

/-- Reads a fixed text. -/
def readFixed? (fixed : List Char) (s : List Char) : Option (List Char) :=
  if fixed.isPrefixOf s then some (s.drop fixed.length) else none

/-- Reads one or more spaces and line breaks. -/
def readSpace? : List Char → Option (List Char)
  | [] => none
  | c :: rest => if isSpace c then some (skip rest) else none

/-- The spellings of the two truth values. -/
def boolWords : List (String × Bool) :=
  [("true", true), ("false", false), ("True", true), ("False", false)]

/-- Whether no name goes on at the front of the text. -/
def endsName : List Char → Bool
  | [] => true
  | c :: _ => !isNamePart c

def readBool? (s : List Char) : Option (Operand × List Char) :=
  boolWords.findSome? fun (word, value) =>
    match readFixed? word.toList s with
    | some rest => if endsName rest then some (.word value, rest) else none
    | none => none

/-- Reads a non-empty text between two quotes of the given kind. -/
def readBetween? (quote : Char) : List Char → Option (Operand × List Char)
  | [] => none
  | c :: rest =>
    if c = quote then
      let inside := rest.takeWhile (· != quote)
      match inside, rest.dropWhile (· != quote) with
      | _ :: _, _ :: after => some (.quoted inside, after)
      | _, _ => none
    else none

def readString? (s : List Char) : Option (Operand × List Char) :=
  (readBetween? '"' s).or (readBetween? '\'' s)

def readNumber? (s : List Char) : Option (Operand × List Char) :=
  match s.takeWhile isNumberPart with
  | [] => none
  | digits => some (.number digits, s.dropWhile isNumberPart)

def readLiteral? (s : List Char) : Option (Operand × List Char) :=
  ((readBool? s).or (readString? s)).or (readNumber? s)

def readName? : List Char → Option (Operand × List Char)
  | [] => none
  | c :: rest =>
    if isNameStart c then
      some (.name (c :: rest.takeWhile isNamePart), rest.dropWhile isNamePart)
    else none

def readOperand? (s : List Char) : Option (Operand × List Char) :=
  (readLiteral? s).or (readName? s)

/-- Reads a keyword, spaces and an expression. -/
def readConditional? (keyword : String) (s : List Char) : Option (Operand × List Char) := do
  let rest ← readFixed? keyword.toList s
  let rest ← readSpace? rest
  readOperand? rest

def readStatement? (s : List Char) : Option (Shape × List Char) :=
  match readConditional? "if" s with
  | some (condition, rest) => some (.ifShape condition, rest)
  | none =>
    match readConditional? "elif" s with
    | some (condition, rest) => some (.elifShape condition, rest)
    | none =>
      match readFixed? "else".toList s with
      | some rest => some (.elseShape, rest)
      | none => (readFixed? "endif".toList s).map fun rest => (.endIfShape, rest)

/-- Reads up to the mark that ends a comment. -/
def readComment? (s : List Char) : Option (List Char × List Char) :=
  match s with
  | [] => none
  | '#' :: '}' :: rest => some ([], rest)
  | c :: rest => (readComment? rest).map fun (body, after) => (c :: body, after)

def readStatementTag? (s : List Char) : Option (Shape × List Char) := do
  let rest ← readFixed? ['{', '%'] s
  let (shape, rest) ← readStatement? (skip rest)
  let rest ← readFixed? ['%', '}'] (skip rest)
  some (shape, rest)

def readExpressionTag? (s : List Char) : Option (Shape × List Char) := do
  let rest ← readFixed? ['{', '{'] s
  let (body, rest) ← readOperand? (skip rest)
  let rest ← readFixed? ['}', '}'] (skip rest)
  some (.expression body, rest)

def readCommentTag? (s : List Char) : Option (Shape × List Char) := do
  let rest ← readFixed? ['{', '#'] s
  let (body, rest) ← readComment? rest
  some (.comment body, rest)

/-- Reads one directive at the front of a text. -/
def readShape? (s : List Char) : Option (Shape × List Char) :=
  ((readStatementTag? s).or (readExpressionTag? s)).or (readCommentTag? s)

end HtmlTemplate.Directive
