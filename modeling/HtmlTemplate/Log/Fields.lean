import HtmlTemplate.Value

/-!
Messages with fields. A field stands in braces: a name, perhaps with the positions or keys of items
inside the value, then perhaps `!r`, `!s` or `!a` to choose a form of the value, and after a colon
how it is laid out. A doubled brace is a brace. Fields are filled in from left to right, so the
first thing that goes wrong is the one reported.
-/

namespace HtmlTemplate.Log

/-- Why a message cannot be filled in. -/
inductive FieldError where
  | loneOpen
  | loneClose
  | openInName
  | unclosedName
  | noConversion
  | afterConversion
  | unclosedLayout
  | tooDeep
  | unknownConversion (c : Char)
  /-- No value of this name is given. -/
  | missing (name : String)
  /-- Fields by position have no values. -/
  | noPosition (n : Nat)
  | missingKey (key : Value)
  | outOfRange (kind : String)
  /-- The value has no items at all, or none under a key that is not a position. -/
  | noItems (kind : String)
  | noAttribute (kind name : String)
  | emptyKey
  | afterItem
  | badLayout (layout kind : String)
  | unknownLayout (c : Char) (kind : String)
  | noLayout (kind : String)
  | noPlaces
  /-- Only numbers have a sign, and a side between the sign and the digits. -/
  | signOfText (sign : Char)
  | insideText
  | placesOfInt

/-- The kind of a value, as messages name it. -/
def kindName : Value → String
  | .none => "NoneType"
  | .bool _ => "bool"
  | .int _ => "int"
  | .float _ => "float"
  | .str _ => "str"
  | .list _ => "list"
  | .tuple _ => "tuple"
  | .dict _ => "dict"
  | .vnode .. => "VNode"

def FieldError.message : FieldError → String
  | .loneOpen => "Single '\x7b' encountered in format string"
  | .loneClose => "Single '\x7d' encountered in format string"
  | .openInName => "unexpected '\x7b' in field name"
  | .unclosedName => "expected '\x7d' before end of string"
  | .noConversion => "end of string while looking for conversion specifier"
  | .afterConversion => "expected ':' after conversion specifier"
  | .unclosedLayout => "unmatched '\x7b' in format spec"
  | .tooDeep => "Max string recursion exceeded"
  | .unknownConversion c => "Unknown conversion specifier " ++ String.singleton c
  | .missing name => Text.quote name
  | .noPosition n =>
    "Replacement index " ++ Decimal.writeInt n ++ " out of range for positional args tuple"
  | .missingKey key => key.write
  | .outOfRange kind => kind ++ " index out of range"
  | .noItems kind =>
    if kind = "string" then "string indices must be integers, not 'str'"
    else if kind = "list" ∨ kind = "tuple" then
      kind ++ " indices must be integers or slices, not str"
    else "'" ++ kind ++ "' object is not subscriptable"
  | .noAttribute kind name => "'" ++ kind ++ "' object has no attribute '" ++ name ++ "'"
  | .emptyKey => "Empty attribute in format string"
  | .afterItem => "Only '.' or '[' may follow ']' in format field specifier"
  | .badLayout layout kind =>
    "Invalid format specifier '" ++ layout ++ "' for object of type '" ++ kind ++ "'"
  | .unknownLayout c kind =>
    "Unknown format code '" ++ String.singleton c ++ "' for object of type '" ++ kind ++ "'"
  | .noLayout kind => "unsupported format string passed to " ++ kind ++ ".__format__"
  | .noPlaces => "Format specifier missing precision"
  | .signOfText sign =>
    (if sign = ' ' then "Space" else "Sign") ++ " not allowed in string format specifier"
  | .insideText => "'=' alignment not allowed in string format specifier"
  | .placesOfInt => "Precision not allowed in integer format specifier"

inductive Piece where
  | text (s : List Char)
  | field (name : List Char) (conversion : Option Char) (layout : List Char)
  deriving DecidableEq, Repr

/-- Where the reader of a message stands; texts are kept last character first. -/
inductive Place where
  | text (seen : List Char)
  | name (seen : List Char)
  /-- Inside the square brackets of a name, where braces and colons are plain. -/
  | item (seen : List Char)
  | conversion (name : List Char)
  | converted (name : List Char) (c : Char)
  | layout (name : List Char) (conversion : Option Char) (seen : List Char) (depth : Nat)

/-- The pieces of a message up to its first flaw, and that flaw. -/
def cut : Place → List Char → List Piece × Option FieldError
  | .text seen, [] => ([.text seen.reverse], none)
  | .text _, ['{'] => ([], some .loneOpen)
  | .text seen, '{' :: '{' :: rest => cut (.text ('{' :: seen)) rest
  | .text seen, '{' :: rest => put (.text seen.reverse) (cut (.name []) rest)
  | .text seen, '}' :: '}' :: rest => cut (.text ('}' :: seen)) rest
  | .text _, '}' :: _ => ([], some .loneClose)
  | .text seen, c :: rest => cut (.text (c :: seen)) rest
  | .name _, [] => ([], some .unclosedName)
  | .name seen, c :: rest =>
    if c = '{' then ([], some .openInName)
    else if c = '}' then put (.field seen.reverse none []) (cut (.text []) rest)
    else if c = '!' then cut (.conversion seen.reverse) rest
    else if c = ':' then cut (.layout seen.reverse none [] 0) rest
    else if c = '[' then cut (.item (c :: seen)) rest
    else cut (.name (c :: seen)) rest
  | .item _, [] => ([], some .unclosedName)
  | .item seen, c :: rest =>
    if c = ']' then cut (.name (c :: seen)) rest else cut (.item (c :: seen)) rest
  | .conversion _, [] => ([], some .noConversion)
  | .conversion name, c :: rest => cut (.converted name c) rest
  | .converted .., [] => ([], some .unclosedLayout)
  | .converted name conversion, c :: rest =>
    if c = '}' then put (.field name (some conversion) []) (cut (.text []) rest)
    else if c = ':' then cut (.layout name (some conversion) [] 0) rest
    else ([], some .afterConversion)
  | .layout .., [] => ([], some .unclosedLayout)
  | .layout name conversion seen depth, c :: rest =>
    if c = '{' then cut (.layout name conversion (c :: seen) (depth + 1)) rest
    else if c = '}' then
      match depth with
      | 0 => put (.field name conversion seen.reverse) (cut (.text []) rest)
      | outer + 1 => cut (.layout name conversion (c :: seen) outer) rest
    else cut (.layout name conversion (c :: seen) depth) rest
where
  put (piece : Piece) (cutRest : List Piece × Option FieldError) : List Piece × Option FieldError :=
    (piece :: cutRest.1, cutRest.2)

/-! ### The value of a field -/

/-- A number in digits. -/
def position? (s : List Char) : Option Nat :=
  if s.isEmpty then none
  else if s.all Char.isDigit then some (s.foldl (fun n c => 10 * n + (c.toNat - 48)) 0)
  else none

def itemAt (kind : String) (items : List Value) (key : List Char) : Except FieldError Value :=
  match position? key with
  | some n =>
    match items[n]? with
    | some v => .ok v
    | none => .error (.outOfRange kind)
  | none => .error (.noItems kind)

/-- The item of a value under a key. -/
def item (key : List Char) : Value → Except FieldError Value
  | .list items => itemAt "list" items key
  | .tuple items => itemAt "tuple" items key
  | .str s => itemAt "string" (s.toList.map fun c => .str (String.singleton c)) key
  | .dict entries =>
    let name : Value :=
      match position? key with
      | some n => .int n
      | none => .str (String.ofList key)
    match entries.find? fun entry => entry.1 == name with
    | some entry => .ok entry.2
    | none => .error (.missingKey name)
  | v => .error (.noItems (kindName v))

/-- What a name or a key ends with. -/
def isEnd (c : Char) : Bool := c == '.' || c == '['

/-- Follows the keys after a name; `key` is the one being read, last character first. -/
def follow (v : Value) : (key : Option (List Char)) → List Char → Except FieldError Value
  | none, [] => .ok v
  | none, '[' :: rest => follow v (some []) rest
  | none, '.' :: rest =>
    match rest.takeWhile (!isEnd ·) with
    | [] => .error .emptyKey
    | name => .error (.noAttribute (kindName v) (String.ofList name))
  | none, _ => .error .afterItem
  | some _, [] => .error .unclosedName
  | some key, c :: rest =>
    if c = ']' then do
      let inner ← if key.isEmpty then .error .emptyKey else item key.reverse v
      follow inner none rest
    else follow v (some (c :: key)) rest

/-- The value of a field. A field without a name, or with a number for one, is one by position. -/
def fieldValue (values : List (String × Value)) (field : List Char) : Except FieldError Value :=
  let name := field.takeWhile (!isEnd ·)
  match name, position? name with
  | [], _ => .error (.noPosition 0)
  | _, some n => .error (.noPosition n)
  | _, none =>
    match Value.lookup? (String.ofList name) values with
    | some v => follow v none (field.dropWhile (!isEnd ·))
    | none => .error (.missing (String.ofList name))

/-- A value as plain text: a text is itself, anything else has its written form. -/
def plain : Value → String
  | .str s => s
  | v => v.write

/-- The written form of a value with only ASCII characters. -/
def ascii (v : Value) : String :=
  String.ofList <| v.write.toList.flatMap fun c =>
    if c.toNat < 0x80 then [c]
    else if c.toNat < 0x100 then '\\' :: 'x' :: Text.Quoted.hex 2 c.toNat
    else if c.toNat < 0x10000 then '\\' :: 'u' :: Text.Quoted.hex 4 c.toNat
    else '\\' :: 'U' :: Text.Quoted.hex 8 c.toNat

def convert (v : Value) : Option Char → Except FieldError Value
  | none => .ok v
  | some c =>
    if c = 'r' then .ok (.str v.write)
    else if c = 's' then .ok (.str (plain v))
    else if c = 'a' then .ok (.str (ascii v))
    else .error (.unknownConversion c)

/-! ### Layout -/

inductive Side where
  | left
  | right
  | centre
  /-- Between the sign and the digits. -/
  | inside
  deriving DecidableEq, Repr

/-- How a value is laid out: `[[fill]side][sign][0][width][.places][form]`. -/
structure Layout where
  fill : Option Char := none
  side : Option Side := none
  sign : Option Char := none
  width : Nat := 0
  places : Option Nat := none
  form : Option Char := none

def side? (c : Char) : Option Side :=
  if c = '<' then some .left
  else if c = '>' then some .right
  else if c = '^' then some .centre
  else if c = '=' then some .inside
  else none

def readSide (s : List Char) : Layout × List Char :=
  let bare : Layout × List Char :=
    match s with
    | c :: rest =>
      match side? c with
      | some side => ({ side := some side }, rest)
      | none => ({}, s)
    | [] => ({}, s)
  -- A fill is only there if a side follows it, and it may itself look like a side.
  match s with
  | fill :: c :: rest =>
    match side? c with
    | some side => ({ fill := some fill, side := some side }, rest)
    | none => bare
  | _ => bare

def readSign (l : Layout) : List Char → Layout × List Char
  | c :: rest =>
    if c = '+' ∨ c = '-' ∨ c = ' ' then ({ l with sign := some c }, rest) else (l, c :: rest)
  | [] => (l, [])

/-- A zero before the width is the fill, unless another one is given. -/
def readZero (l : Layout) : List Char → Layout × List Char
  | '0' :: rest => ({ l with fill := l.fill <|> some '0' }, rest)
  | s => (l, s)

def readWidth (l : Layout) (s : List Char) : Layout × List Char :=
  match position? (s.takeWhile Char.isDigit) with
  | some width => ({ l with width }, s.dropWhile Char.isDigit)
  | none => (l, s)

def readPlaces (l : Layout) : List Char → Except FieldError (Layout × List Char)
  | '.' :: rest =>
    match position? (rest.takeWhile Char.isDigit) with
    | some places => .ok ({ l with places := some places }, rest.dropWhile Char.isDigit)
    | none => .error .noPlaces
  | s => .ok (l, s)

/-- The layout of a value of the given kind. -/
def readLayout (kind : String) (layout : List Char) : Except FieldError Layout := do
  let (l, s) := readSide layout
  let (l, s) := readSign l s
  let (l, s) := readZero l s
  let (l, s) := readWidth l s
  let (l, s) ← readPlaces l s
  match s with
  | [] => .ok l
  | [c] => .ok { l with form := some c }
  | _ => .error (.badLayout (String.ofList layout) kind)

/-- The side of a number. A fill without a side is a zero, which stands between the sign and the
digits. -/
def Layout.numberSide (l : Layout) : Side :=
  l.side.getD (if l.fill.isSome then .inside else .right)

/-- Fills up to the width. -/
def Layout.pad (l : Layout) (side : Side) (sign body : List Char) : List Char :=
  let missing := l.width - (sign.length + body.length)
  let fill := fun n => List.replicate n (l.fill.getD ' ')
  match side with
  | .left => sign ++ body ++ fill missing
  | .right => fill missing ++ sign ++ body
  | .centre => fill (missing / 2) ++ sign ++ body ++ fill (missing - missing / 2)
  | .inside => sign ++ fill missing ++ body

def signText (l : Layout) (negative : Bool) : List Char :=
  if negative then ['-']
  else
    match l.sign with
    | some '+' => ['+']
    | some ' ' => [' ']
    | _ => []

/-- `num / den` with a fixed number of places after the point. -/
def fixed (num den places : Nat) : List Char :=
  let digits := Nat.toDigits 10 (Decimal.roundHalfEven (num * Nat.pow 10 places) den)
  let digits := List.replicate (places + 1 - digits.length) '0' ++ digits
  let whole := digits.take (digits.length - places)
  if places = 0 then whole else whole ++ '.' :: digits.drop (digits.length - places)

def layFixed (l : Layout) (x : Decimal.Binary) : List Char :=
  match x with
  | .nan => l.pad l.numberSide (signText l false) "nan".toList
  | .infinite negative => l.pad l.numberSide (signText l negative) "inf".toList
  | .finite negative mantissa exponent =>
    let (num, den) := Decimal.scaled mantissa 1 (-exponent)
    l.pad l.numberSide (signText l negative) (fixed num den (l.places.getD 6))

def layText (l : Layout) (s : String) : Except FieldError (List Char) :=
  match l.sign, l.side.getD .left with
  | some sign, _ => .error (.signOfText sign)
  | none, .inside => .error .insideText
  | none, side => .ok (l.pad side [] ((l.places.map s.toList.take).getD s.toList))

/-- The digits of a number in the base that a form stands for. -/
def digits? (n : Nat) : (form : Char) → Option (List Char)
  | 'd' | 'n' => some (Nat.toDigits 10 n)
  | 'b' => some (Nat.toDigits 2 n)
  | 'o' => some (Nat.toDigits 8 n)
  | 'x' => some (Nat.toDigits 16 n)
  | 'X' => some ((Nat.toDigits 16 n).map Char.toUpper)
  | _ => none

/-- A number, or a truth value as one, laid out. -/
def layInt (kind : String) (l : Layout) (n : Int) : Except FieldError (List Char) :=
  let form := l.form.getD 'd'
  match digits? n.natAbs form, l.places with
  | some digits, none => .ok (l.pad l.numberSide (signText l (decide (n < 0))) digits)
  | some _, some _ => .error .placesOfInt
  | none, _ =>
    if form = 'f' then
      -- The number is made a floating-point one first, so a large one loses its last digits.
      let x := Decimal.nearest n.natAbs 1
      .ok (layFixed l (.ofFloat (if n < 0 then Decimal.negate x else x)))
    else .error (.unknownLayout form kind)

def layFloat (l : Layout) (x : Float) : Except FieldError (List Char) :=
  match l.form, l.places with
  | none, none =>
    let digits := (Decimal.writeFloat x).toList
    let negative := digits.head? == some '-'
    .ok (l.pad l.numberSide (signText l negative) (if negative then digits.drop 1 else digits))
  | some 'f', _ => .ok (layFixed l (.ofFloat x))
  | some c, _ => .error (.unknownLayout c "float")
  | none, some _ => .error (.noLayout "float")

/-- A value laid out; without a layout it is its plain text. -/
def lay (v : Value) (layout : List Char) : Except FieldError (List Char) :=
  if layout.isEmpty then .ok (plain v).toList
  else
    let kind := kindName v
    match v with
    | .str s => do
      let l ← readLayout kind layout
      let form := l.form.getD 's'
      if form = 's' then layText l s else .error (.unknownLayout form kind)
    | .bool b => do
      let l ← readLayout kind layout
      layInt kind l (if b then 1 else 0)
    | .int n => do
      let l ← readLayout kind layout
      layInt kind l n
    | .float x => do
      let l ← readLayout kind layout
      layFloat l x
    | _ => .error (.noLayout kind)

/-- Fills in the fields of a message; fields may stand in a layout, to the given depth. -/
def fillTo (values : List (String × Value)) : (depth : Nat) → List Char →
    Except FieldError (List Char)
  | 0, _ => .error .tooDeep
  | depth + 1, message => do
    let (pieces, flaw) := cut (.text []) message
    let filled ← pieces.mapM fun piece =>
      match piece with
      | .text s => .ok s
      | .field name conversion layout => do
        let v ← fieldValue values name
        let v ← convert v conversion
        let layout ← if layout.contains '{' then fillTo values depth layout else .ok layout
        lay v layout
    -- The fields in front of the flaw have been filled in, and would have failed first.
    match flaw with
    | some e => .error e
    | none => .ok filled.flatten

/-- Fills in the fields of a message. -/
def fill (values : List (String × Value)) (message : String) : Except FieldError String :=
  (fillTo values 2 message.toList).map String.ofList

end HtmlTemplate.Log
