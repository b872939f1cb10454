import HtmlTemplate.Decimal.Read
import HtmlTemplate.Decimal.Written
import HtmlTemplate.Text.Quoted
import HtmlTemplate.Value

/-!
Reading JSON into values. An object becomes a dictionary in which the last of several equal names
wins, at the place of the first; a number with a point or an exponent is a floating-point number,
any other an integer. The words `NaN`, `Infinity` and `-Infinity` are numbers too.
-/

namespace HtmlTemplate.Json

inductive Flaw where
  | value
  | extraData
  | propertyName
  | colon
  | comma
  | unterminated
  | control
  | escape
  | unicodeEscape
  | byteOrderMark
  /-- An integer with more digits than are read. -/
  | tooLong (digits : Nat)
  deriving DecidableEq, Repr

/-- A flaw, and how much of the text is left where it lies. -/
structure Fault where
  flaw : Flaw
  left : Nat
  deriving DecidableEq, Repr

/-- What reading gives: a result with the rest of the text, or a fault. -/
abbrev Reading (α : Type) := Except Fault (α × List Char)

def faultAt {α : Type} (flaw : Flaw) (rest : List Char) : Except Fault α :=
  .error { flaw, left := rest.length }

def isSpace (c : Char) : Bool := c == ' ' || c == '\t' || c == '\n' || c == '\r'

def skip (s : List Char) : List Char := s.dropWhile isSpace

def simpleEscape? (c : Char) : Option Char :=
  if c = '"' ∨ c = '\\' ∨ c = '/' then some c
  else if c = 'b' then some '\x08'
  else if c = 'f' then some '\x0c'
  else if c = 'n' then some '\n'
  else if c = 'r' then some '\r'
  else if c = 't' then some '\t'
  else none

def isHighSurrogate (n : Nat) : Bool := decide (0xD800 ≤ n) && decide (n < 0xDC00)

def isLowSurrogate (n : Nat) : Bool := decide (0xDC00 ≤ n) && decide (n < 0xE000)

def charOf (n : Nat) : Char := if n.isValidChar then Char.ofNat n else Char.ofNat 0xFFFD

/-- Joins each pair of surrogates into the character it stands for. -/
def joinSurrogates : List Nat → List Char
  | high :: low :: rest =>
    if isHighSurrogate high && isLowSurrogate low then
      charOf (0x10000 + (high - 0xD800) * 0x400 + (low - 0xDC00)) :: joinSurrogates rest
    else charOf high :: joinSurrogates (low :: rest)
  | [n] => [charOf n]
  | [] => []

def prepend (n : Nat) (r : Reading (List Nat)) : Reading (List Nat) :=
  r.map fun (units, rest) => (n :: units, rest)

/-- Reads the units of a string after its opening quote; `opened` is the length of the text from
that quote on. An escape of four hexadecimal digits is never the last thing in a text. -/
def readUnits (opened : Nat) : List Char → Reading (List Nat)
  | [] => .error { flaw := .unterminated, left := opened }
  | '"' :: rest => .ok ([], rest)
  | '\\' :: 'u' :: a :: b :: c :: d :: rest =>
    match Text.Quoted.hexNumber? [a, b, c, d], rest with
    -- Surrogates are joined later, when the units of the whole string are known.
    | some n, _ :: _ => prepend n (readUnits opened rest)
    | _, _ => .error { flaw := .unicodeEscape, left := rest.length + 5 }
  | '\\' :: 'u' :: rest => .error { flaw := .unicodeEscape, left := rest.length + 1 }
  | ['\\'] => .error { flaw := .unterminated, left := opened }
  | '\\' :: c :: rest =>
    match simpleEscape? c with
    | some image => prepend image.toNat (readUnits opened rest)
    | none => .error { flaw := .escape, left := rest.length + 2 }
  | c :: rest =>
    if c.toNat ≤ 0x1F then .error { flaw := .control, left := rest.length + 1 }
    else prepend c.toNat (readUnits opened rest)

/-- Reads a string whose opening quote is the first character of `s`. -/
def readString (s : List Char) : Except Fault (String × List Char) :=
  (readUnits s.length (s.drop 1)).map fun (units, rest) =>
    (String.ofList (joinSurrogates units), rest)

/-- The sign and the digits of an integer: a single zero, or digits that do not start with one. -/
def readWhole? (s : List Char) : Option (Bool × List Char × List Char) :=
  let (negative, digits) :=
    match s with
    | '-' :: rest => (true, rest)
    | _ => (false, s)
  match digits with
  | '0' :: rest => some (negative, ['0'], rest)
  | _ =>
    match digits.takeWhile Char.isDigit with
    | [] => none
    | whole => some (negative, whole, digits.dropWhile Char.isDigit)

/-- A point with at least one digit after it. -/
def readPart : List Char → List Char × List Char
  | '.' :: rest =>
    match rest.takeWhile Char.isDigit with
    | [] => ([], '.' :: rest)
    | part => (part, rest.dropWhile Char.isDigit)
  | s => ([], s)

/-- An exponent with at least one digit. -/
def readExponent (s : List Char) : Option Int × List Char :=
  match s with
  | c :: rest =>
    if c = 'e' ∨ c = 'E' then
      let (negative, digits) := Decimal.readSign rest
      match digits.takeWhile Char.isDigit with
      | [] => (none, s)
      | exponent =>
        let n : Int := Decimal.ofDigits exponent
        (some (if negative then -n else n), digits.dropWhile Char.isDigit)
    else (none, s)
  | [] => (none, s)

def readNumber (s : List Char) : Reading Value :=
  match readWhole? s with
  | none => faultAt .value s
  | some (negative, whole, rest) =>
    let (part, rest) := readPart rest
    let (exponent, rest) := readExponent rest
    if part.isEmpty && exponent.isNone then
      if whole.length > Decimal.mostDigits then faultAt (.tooLong whole.length) s
      else
        let n : Int := Decimal.ofDigits whole
        .ok (.int (if negative then -n else n), rest)
    else
      let x := ({ whole, part, exponent := exponent.getD 0 } : Decimal.Parts).toFloat
      .ok (.float (if negative then Decimal.negate x else x), rest)

/-- The words that stand for a value. -/
def words : List (String × Value) :=
  [("null", .none), ("true", .bool true), ("false", .bool false),
    ("NaN", .float Decimal.notANumber), ("Infinity", .float Decimal.infinity),
    ("-Infinity", .float (Decimal.negate Decimal.infinity))]

def readWord? (s : List Char) : Option (Value × List Char) :=
  words.findSome? fun (word, value) =>
    if word.toList.isPrefixOf s then some (value, s.drop word.length) else none

mutual

/-- Reads one value. Every second step of the recursion, at the latest, takes something off the
text. -/
def readValue (s : List Char) : (fuel : Nat) → Except Fault (Value × List Char)
  | 0 => faultAt .value s
  | fuel + 1 =>
    match s with
    | '"' :: _ => (readString s).map fun (text, rest) => (.str text, rest)
    | '{' :: rest =>
      match skip rest with
      | '}' :: rest => .ok (.dict [], rest)
      | rest => (readMembers [] rest fuel).map fun (entries, rest) => (.dict entries, rest)
    | '[' :: rest =>
      match skip rest with
      | ']' :: rest => .ok (.list [], rest)
      | rest => (readItems rest fuel).map fun (items, rest) => (.list items, rest)
    | _ =>
      -- A word may start like a number, with a minus sign, so the words are tried first.
      match readWord? s with
      | some found => .ok found
      | none => readNumber s

def readItems (s : List Char) : (fuel : Nat) → Except Fault (List Value × List Char)
  | 0 => faultAt .value s
  | fuel + 1 => do
    let (item, rest) ← readValue s fuel
    match skip rest with
    | ']' :: rest => .ok ([item], rest)
    | ',' :: rest =>
      let (items, rest) ← readItems (skip rest) fuel
      .ok (item :: items, rest)
    | rest => faultAt .comma rest

/-- Reads the members of an object into the entries read before. -/
def readMembers (entries : List (Value × Value)) (s : List Char) :
    (fuel : Nat) → Except Fault (List (Value × Value) × List Char)
  | 0 => faultAt .value s
  | fuel + 1 =>
    match s with
    | '"' :: _ => do
      let (name, rest) ← readString s
      match skip rest with
      | ':' :: rest =>
        let (value, rest) ← readValue (skip rest) fuel
        let entries := assign (Value.str name) value entries
        match skip rest with
        | '}' :: rest => .ok (entries, rest)
        | ',' :: rest => readMembers entries (skip rest) fuel
        | rest => faultAt .comma rest
      | rest => faultAt .colon rest
    | _ => faultAt .propertyName s

end

def readDocument (s : List Char) : Except Fault Value :=
  if s.head? = some (Char.ofNat 0xFEFF) then faultAt .byteOrderMark s
  else do
    let start := skip s
    let (value, rest) ← readValue start (2 * start.length + 1)
    let rest := skip rest
    if rest.isEmpty then .ok value else faultAt .extraData rest

def Flaw.label : Flaw → String
  | .value => "Expecting value"
  | .extraData => "Extra data"
  | .propertyName => "Expecting property name enclosed in double quotes"
  | .colon => "Expecting ':' delimiter"
  | .comma => "Expecting ',' delimiter"
  | .unterminated => "Unterminated string starting at"
  | .control => "Invalid control character at"
  | .escape => "Invalid \\escape"
  | .unicodeEscape => "Invalid \\uXXXX escape"
  | .byteOrderMark => "Unexpected UTF-8 BOM (decode using utf-8-sig)"
  | .tooLong digits => Decimal.overlongMessage digits

/-- Describes a fault of a text by its line, its column and its offset. -/
def Fault.message (fault : Fault) (text : List Char) : String :=
  match fault.flaw with
  -- An integer is too long as a whole, at no place in particular.
  | .tooLong _ => fault.flaw.label
  | flaw =>
    let offset := text.length - fault.left
    let before := text.take offset
    let line := before.count '\n' + 1
    let column := (before.reverse.takeWhile (· != '\n')).length + 1
    flaw.label ++ ": line " ++ Decimal.writeInt line ++ " column " ++ Decimal.writeInt column
      ++ " (char " ++ Decimal.writeInt offset ++ ")"

/-- Reads a JSON text, or says what is wrong with it. -/
def parse (text : String) : Except String Value :=
  (readDocument text.toList).mapError fun fault => fault.message text.toList

end HtmlTemplate.Json
