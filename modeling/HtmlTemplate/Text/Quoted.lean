import HtmlTemplate.Text.Printable

/-!
Quoted text: the form in which a text stands in generated code and in messages. Single quotes are
used, or double quotes when the text has a single quote and no double quote. A backslash, the quote
in use, and every character that is not printable are escaped, so a quoted text is one line and
`read` gets the text back.
-/

namespace HtmlTemplate.Text.Quoted

def hexDigit (n : Nat) : Char := Nat.digitChar (n % 16)

/-- The last `width` hexadecimal digits of `n`. -/
def hex : (width : Nat) → (n : Nat) → List Char
  | 0, _ => []
  | width + 1, n => hex width (n / 16) ++ [hexDigit n]

def quoteFor (s : List Char) : Char :=
  if s.contains '\'' && !s.contains '"' then '"' else '\''

def escape (quote c : Char) : List Char :=
  if c = quote ∨ c = '\\' then ['\\', c]
  else if c = '\n' then ['\\', 'n']
  else if c = '\r' then ['\\', 'r']
  else if c = '\t' then ['\\', 't']
  else if isPrintable c then [c]
  else if c.toNat < 0x100 then '\\' :: 'x' :: hex 2 c.toNat
  else if c.toNat < 0x10000 then '\\' :: 'u' :: hex 4 c.toNat
  else '\\' :: 'U' :: hex 8 c.toNat

def encode (s : List Char) : List Char :=
  let quote := quoteFor s
  quote :: s.flatMap (escape quote) ++ [quote]

def hexValue? (c : Char) : Option Nat :=
  if '0' ≤ c ∧ c ≤ '9' then some (c.toNat - 48)
  else if 'a' ≤ c ∧ c ≤ 'f' then some (c.toNat - 87)
  else if 'A' ≤ c ∧ c ≤ 'F' then some (c.toNat - 55)
  else none

def hexNumber? (digits : List Char) : Option Nat :=
  digits.foldlM (fun n c => (hexValue? c).map (16 * n + ·)) 0

/-- The character with the code point written in `digits`, if there is one. -/
def hexChar? (digits : List Char) : Option Char := do
  let n ← hexNumber? digits
  if n.isValidChar then some (Char.ofNat n) else none

/-- Reads up to the closing quote; gives the text and what follows the quote. -/
def readBody (quote : Char) : List Char → Option (List Char × List Char)
  | [] => none
  | '\\' :: 'n' :: rest => put '\n' (readBody quote rest)
  | '\\' :: 'r' :: rest => put '\r' (readBody quote rest)
  | '\\' :: 't' :: rest => put '\t' (readBody quote rest)
  | '\\' :: 'x' :: a :: b :: rest => putHex [a, b] (readBody quote rest)
  | '\\' :: 'u' :: a :: b :: c :: d :: rest => putHex [a, b, c, d] (readBody quote rest)
  | '\\' :: 'U' :: a :: b :: c :: d :: e :: f :: g :: h :: rest =>
    putHex [a, b, c, d, e, f, g, h] (readBody quote rest)
  | '\\' :: c :: rest =>
    if c = '\\' ∨ c = '\'' ∨ c = '"' then put c (readBody quote rest) else none
  | c :: rest =>
    if c = quote then some ([], rest)
    else if c = '\\' ∨ c = '\n' ∨ c = '\r' then none
    else put c (readBody quote rest)
where
  put (c : Char) (r : Option (List Char × List Char)) : Option (List Char × List Char) :=
    r.map fun (s, rest) => (c :: s, rest)
  putHex (digits : List Char) (r : Option (List Char × List Char)) :
      Option (List Char × List Char) :=
    (hexChar? digits).bind fun c => put c r

/-- Reads a quoted text at the front of the input. -/
def read : List Char → Option (List Char × List Char)
  | '\'' :: rest => readBody '\'' rest
  | '"' :: rest => readBody '"' rest
  | _ => none

end HtmlTemplate.Text.Quoted

namespace HtmlTemplate.Text

/-- The quoted form of a string. -/
def quote (s : String) : String := String.ofList (Quoted.encode s.toList)

end HtmlTemplate.Text
