import HtmlTemplate.Decimal.Read
import HtmlTemplate.Value

/-!
Reading the written form of a value. Elements have no literal: their written form starts with a name
that stands for nothing, as that of an infinite number inside a collection does. Such a name is met
before anything after it is looked at.
-/

namespace HtmlTemplate.Code.Literal

inductive Flaw where
  | undefined (name : String)
  | malformed
  deriving DecidableEq, Repr

def isNamePart (c : Char) : Bool := c.isAlphanum || c == '_'

def isNumberPart (c : Char) : Bool :=
  c.isDigit || c == '.' || c == 'e' || c == 'E' || c == '+' || c == '-'

/-- The value of a number without a sign. -/
def number? (digits : List Char) : Option Value :=
  if digits.all Char.isDigit then some (.int (Decimal.ofDigits digits))
  else (Decimal.readPlain? digits).map .float

def negative? : Value → Option Value
  | .int n => some (.int (-n))
  | .float x => some (.float (Decimal.negate x))
  | _ => none

def words : List (String × Value) := [("None", .none), ("True", .bool true), ("False", .bool false)]

/-- Reads a word; any other name stands for nothing. -/
def readWord (s : List Char) : Except Flaw (Value × List Char) :=
  match s.takeWhile isNamePart with
  | [] => .error .malformed
  | letters =>
    let word := String.ofList letters
    match words.find? (·.1 == word) with
    | some (_, value) => .ok (value, s.dropWhile isNamePart)
    | none => .error (.undefined word)

def readNumber (s : List Char) : Except Flaw (Value × List Char) :=
  match number? (s.takeWhile isNumberPart) with
  | some value => .ok (value, s.dropWhile isNumberPart)
  | none => .error .malformed

/-- Reads a number, a word or a quoted text. -/
def readScalar (s : List Char) : Except Flaw (Value × List Char) :=
  match s with
  | [] => .error .malformed
  | c :: rest =>
    if c = '\'' ∨ c = '"' then
      match Text.Quoted.read s with
      | some (inside, rest) => .ok (.str (String.ofList inside), rest)
      | none => .error .malformed
    else if c.isDigit then readNumber s
    else if c = '-' then
      match rest with
      | d :: _ =>
        if d.isDigit then do
          let (value, rest) ← readNumber rest
          match negative? value with
          | some value => .ok (value, rest)
          | none => .error .malformed
        else readWord rest
      | [] => .error .malformed
    else readWord s

def skip (s : List Char) : List Char := s.dropWhile (· == ' ')

mutual

/-- Reads a value; every step of the recursion takes something off the text. -/
def readValue (s : List Char) : (fuel : Nat) → Except Flaw (Value × List Char)
  | 0 => .error .malformed
  | fuel + 1 =>
    match s with
    | '[' :: rest => do
      let (items, _, rest) ← readItems ']' rest fuel
      .ok (.list items, rest)
    | '(' :: rest => do
      let (items, trailing, rest) ← readItems ')' rest fuel
      match items with
      | [item] => .ok (if trailing then .tuple [item] else item, rest)
      | items => .ok (.tuple items, rest)
    | '{' :: rest => do
      let (entries, rest) ← readEntries rest fuel
      .ok (.dict entries, rest)
    | _ => readScalar s

/-- Reads items up to a closing bracket; says also whether a comma stands in front of it. -/
def readItems (closing : Char) (s : List Char) :
    (fuel : Nat) → Except Flaw (List Value × Bool × List Char)
  | 0 => .error .malformed
  | fuel + 1 =>
    match skip s with
    | [] => .error .malformed
    | c :: rest =>
      if c = closing then .ok ([], true, rest)
      else do
        let (item, rest) ← readValue (c :: rest) fuel
        match skip rest with
        | ',' :: rest =>
          let (items, trailing, rest) ← readItems closing rest fuel
          .ok (item :: items, trailing, rest)
        | d :: rest => if d = closing then .ok ([item], false, rest) else .error .malformed
        | [] => .error .malformed

def readEntries (s : List Char) : (fuel : Nat) → Except Flaw (List (Value × Value) × List Char)
  | 0 => .error .malformed
  | fuel + 1 =>
    match skip s with
    | '}' :: rest => .ok ([], rest)
    | s => do
      let (key, rest) ← readValue s fuel
      match skip rest with
      | ':' :: rest =>
        let (value, rest) ← readValue (skip rest) fuel
        match skip rest with
        | ',' :: rest =>
          let (entries, rest) ← readEntries rest fuel
          .ok ((key, value) :: entries, rest)
        | '}' :: rest => .ok ([(key, value)], rest)
        | _ => .error .malformed
      | _ => .error .malformed

end

/-- Reads a text that is the written form of a value. -/
def read (s : List Char) : Except Flaw Value := do
  let (value, rest) ← readValue s (s.length + 1)
  if rest.isEmpty then .ok value else .error .malformed

end HtmlTemplate.Code.Literal
