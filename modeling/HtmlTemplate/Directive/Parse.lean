import HtmlTemplate.Decimal.Read
import HtmlTemplate.Directive.Blame
import HtmlTemplate.Directive.Tag
import HtmlTemplate.Text.Blank

/-!
Reading directives. `parse` takes a text that is one directive; `bound` takes the directive that
starts at an offset of a longer text and also says where it ends. A text that has a shape and then
goes on is an error of its own kind, which marks the end of the directive.
-/

namespace HtmlTemplate

/-- Why a text is not a directive. Offsets count characters from the start of `text`. -/
inductive DirectiveError where
  /-- A directive ends at `offset`, and the text goes on. -/
  | trailing (text : List Char) (offset : Nat)
  /-- Reading got stuck at `offset`, where `rule` was expected. -/
  | invalid (text : List Char) (rule : Directive.Rule) (offset : Nat)
  /-- A run of digits and points that is not a number. -/
  | badNumber (text : List Char) (number : List Char)
  deriving DecidableEq, Repr

namespace DirectiveError

/-- Line of an offset, from one. -/
def lineOf (text : List Char) (offset : Nat) : Nat := (text.take offset).count '\n' + 1

/-- Column of an offset in its line, from one. -/
def columnOf (text : List Char) (offset : Nat) : Nat :=
  ((text.take offset).reverse.takeWhile (· != '\n')).length + 1

def place (text : List Char) (offset : Nat) : String :=
  "line " ++ Decimal.writeInt (lineOf text offset)
    ++ ", column " ++ Decimal.writeInt (columnOf text offset)

def quoteChars (s : List Char) : String := Text.quote (String.ofList s)

def message : DirectiveError → String
  | .trailing text offset => "Expected end of directive at " ++ place text offset
  | .invalid text rule offset =>
    "Invalid directive at " ++ place text offset ++ ": expected " ++ rule.name ++ ", found "
      ++ quoteChars ((text.drop offset).take 20)
  | .badNumber text number =>
    "Invalid number in directive " ++ quoteChars text
      ++ ": could not convert string to float: " ++ quoteChars number

/-- What was expected at the place of the error. -/
def expected : DirectiveError → String
  | .trailing .. => "end"
  | .invalid _ rule _ => rule.name
  | .badNumber .. => "float"

/-- The offsets where the offending characters start and end. -/
def location : DirectiveError → Nat × Nat
  | .trailing _ offset => (offset, offset + 1)
  | .invalid _ _ offset => (offset, offset + 1)
  | .badNumber text _ => (0, text.length)

def isTrailing : DirectiveError → Bool
  | .trailing .. => true
  | _ => false

end DirectiveError

namespace Directive

/-- The expression an operand spells, or the run of digits and points that is not a number. -/
def Operand.expr : Operand → Except (List Char) Expr
  | .word value => .ok (.literal (.bool value))
  | .quoted inside => .ok (.literal (.str (String.ofList inside)))
  | .number digits =>
    match Decimal.readPlain? digits with
    | some x => .ok (.literal (.float x))
    | none => .error digits
  | .name letters => .ok (.variable (String.ofList letters))

def Shape.tag : Shape → Except (List Char) Tag
  | .ifShape condition => condition.expr.map .ifTag
  | .elifShape condition => condition.expr.map .elifTag
  | .elseShape => .ok .elseTag
  | .endIfShape => .ok .endIfTag
  | .expression body => body.expr.map .expression
  | .comment body => .ok (.comment (String.ofList (Text.trim body)))

/-- Reads a text that is one directive. -/
def parse (text : List Char) : Except DirectiveError Tag :=
  match readShape? text with
  | none =>
    let miss := blame text
    .error (.invalid text miss.rule (text.length - miss.left))
  | some (shape, rest) =>
    if rest.isEmpty then shape.tag.mapError (.badNumber text)
    else .error (.trailing text (text.length - rest.length))

/-- Reads the directive at the front of a text, with its length. A directive that is followed by
more text is cut off there and read by itself. -/
def parseFront (text : List Char) : Except DirectiveError (Tag × Nat) :=
  match parse text with
  | .ok tag => .ok (tag, text.length)
  | .error (.trailing _ offset) => (parse (text.take offset)).map (·, offset)
  | .error e => .error e

/-- The directive that starts at an offset, and the offset of its end. -/
def bound (text : List Char) (position : Nat) : Except DirectiveError (Tag × Nat) :=
  (parseFront (text.drop position)).map fun (tag, size) => (tag, position + size)

/-- The two characters that open a directive. -/
def openers : List (List Char) := [['{', '{'], ['{', '%'], ['{', '#']]

/-- The opener at the front of a text. -/
def openerAt? (s : List Char) : Option (List Char) := openers.find? (·.isPrefixOf s)

/-- The first opener in a text, and its offset. -/
def findFront? : List Char → Option (List Char × Nat)
  | [] => none
  | c :: rest =>
    match openerAt? (c :: rest) with
    | some opener => some (opener, 0)
    | none => (findFront? rest).map fun (opener, offset) => (opener, offset + 1)

/-- The first opener at or after an offset. -/
def find? (text : List Char) (position : Nat) : Option (List Char × Nat) :=
  (findFront? (text.drop position)).map fun (opener, offset) => (opener, position + offset)

end Directive

end HtmlTemplate
