import HtmlTemplate.Decimal.Written
import HtmlTemplate.Text.Quoted

/-!
The values that templates are rendered with and rendered to: scalars, lists, tuples, dictionaries
and virtual elements. A value has a truth, a written form that shows its structure, and the plain
text it takes on in a page.
-/

namespace HtmlTemplate

inductive Value where
  | none
  | bool (b : Bool)
  | int (n : Int)
  | float (x : Float)
  | str (s : String)
  | list (items : List Value)
  | tuple (items : List Value)
  /-- Entries in the order of insertion, no key twice. -/
  | dict (entries : List (Value × Value))
  /-- A virtual element; `children` is `none`, or a list of child values. -/
  | vnode (tag : String) (props : List (String × Value)) (children : Value)
  deriving BEq

namespace Value

/-- Zero, the empty text and the empty collections are false, as are `none` and `false`. -/
def truth : Value → Bool
  | .none => false
  | .bool b => b
  | .int n => n != 0
  | .float x =>
    match Decimal.Binary.ofFloat x with
    | .finite _ mantissa _ => mantissa != 0
    | _ => true
  | .str s => !s.isEmpty
  | .list items => !items.isEmpty
  | .tuple items => !items.isEmpty
  | .dict entries => !entries.isEmpty
  | .vnode .. => true

/-- The whole number that a value is equal to, if there is one. -/
def whole? : Value → Option Int
  | .bool b => some (if b then 1 else 0)
  | .int n => some n
  | .float x => (Decimal.Binary.ofFloat x).toInt?
  | _ => Option.none

/-- Whether two scalars are equal. Numbers of different types are if they are the same whole number,
and truth values count as one and zero. -/
def alike (v w : Value) : Bool :=
  match v.whole?, w.whole? with
  | some m, some n => m == n
  | _, _ => v == w

def writeBool (b : Bool) : String := if b then "True" else "False"

mutual

/-- The written form, which shows quotes, brackets and field names. -/
def write : Value → String
  | .none => "None"
  | .bool b => writeBool b
  | .int n => Decimal.writeInt n
  | .float x => Decimal.writeFloat x
  | .str s => Text.quote s
  | .list items => "[" ++ ", ".intercalate (writeAll items) ++ "]"
  | .tuple [] => "()"
  | .tuple [item] => "(" ++ write item ++ ",)"
  | .tuple items => "(" ++ ", ".intercalate (writeAll items) ++ ")"
  | .dict entries => "\x7b" ++ ", ".intercalate (writeEntries entries) ++ "\x7d"
  | .vnode tag props children =>
    "VNode(tag=" ++ Text.quote tag ++ ", props=\x7b" ++ ", ".intercalate (writeProps props)
      ++ "\x7d, children=" ++ write children ++ ")"
termination_by structural v => v

def writeAll : List Value → List String
  | [] => []
  | item :: rest => write item :: writeAll rest
termination_by structural items => items

def writeEntries : List (Value × Value) → List String
  | [] => []
  | (key, value) :: rest => (write key ++ ": " ++ write value) :: writeEntries rest
termination_by structural entries => entries

def writeProps : List (String × Value) → List String
  | [] => []
  | (name, value) :: rest => (Text.quote name ++ ": " ++ write value) :: writeProps rest
termination_by structural props => props

end

/-- The text of a floating-point number in a page: a whole number has no point. -/
def floatText (x : Float) : String :=
  match Decimal.Binary.ofFloat x with
  | .nan => "NaN"
  | .infinite negative => if negative then "-Infinity" else "Infinity"
  | binary =>
    match binary.toInt? with
    | some n => Decimal.writeInt n
    | .none => Decimal.writeFloat x

/-- The text a value takes on in a page. Collections appear in their written form. -/
def text : Value → String
  | .none => ""
  | .bool b => if b then "true" else "false"
  | .float x => floatText x
  | .str s => s
  | v => write v

/-- The entry of a list of pairs under a name. -/
def lookup? (name : String) (entries : List (String × Value)) : Option Value :=
  (entries.find? fun entry => entry.1 == name).map (·.2)

/-- The key of an element, by which it is told from its siblings. -/
def key : Value → Value
  | .vnode _ props _ => (lookup? "key" props).getD .none
  | _ => .none

end Value

/-- A virtual element; one without properties has an empty list of them. -/
def makeElement (tag : String) (attrs : Option (List (String × Value))) (children : Value) :
    Value :=
  .vnode tag (attrs.getD []) children

/-- Puts a value under a name: a known name keeps its place, a new one goes last. -/
def assign {α β : Type} [BEq α] (name : α) (value : β) : List (α × β) → List (α × β)
  | [] => [(name, value)]
  | entry :: rest =>
    if entry.1 == name then (entry.1, value) :: rest else entry :: assign name value rest

end HtmlTemplate
