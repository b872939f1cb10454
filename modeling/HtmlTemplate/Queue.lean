import HtmlTemplate.Directive.Tag

/-!
The queue of directives that wait for their place in the page, in the order of the template, with
the number of those already taken.
-/

namespace HtmlTemplate

structure Queue where
  tags : List Tag := []
  popped : Nat := 0
  deriving BEq

/-- How placeholders and directives can be out of step. -/
inductive PlaceholderError where
  /-- The template has the placeholder in its own text. -/
  | reserved (placeholder : String) (position : Nat)
  /-- The placeholder with this number, counted from one, has no directive left. -/
  | underflow (number : Nat)
  | countMismatch (placeholders directives : Nat)
  /-- Directives that no text or attribute value of the page has taken. -/
  | unplaced (left total : Nat)
  deriving DecidableEq, Repr

def PlaceholderError.message : PlaceholderError → String
  | .reserved placeholder position =>
    "Template contains the reserved placeholder character " ++ Text.quote placeholder
      ++ " at position " ++ Decimal.writeInt position
  | .underflow number =>
    "Placeholder #" ++ Decimal.writeInt number
      ++ " has no directive; the template contains more sentinel characters than directives"
  | .countMismatch placeholders directives =>
    "Template has " ++ Decimal.writeInt placeholders ++ " placeholders for "
      ++ Decimal.writeInt directives ++ " directives"
  | .unplaced left total =>
    Decimal.writeInt left ++ " of " ++ Decimal.writeInt total
      ++ " directives could not be placed; "
      ++ "directives are only supported in text and attribute values"

namespace Queue

def ofList (tags : List Tag) : Queue := { tags }

def size (q : Queue) : Nat := q.tags.length

def isEmpty (q : Queue) : Bool := q.tags.isEmpty

def push (q : Queue) (tag : Tag) : Queue := { q with tags := q.tags ++ [tag] }

/-- Takes the tag for the next placeholder. -/
def pop (q : Queue) : Except PlaceholderError (Tag × Queue) :=
  match q.tags with
  | [] => .error (.underflow (q.popped + 1))
  | tag :: rest => .ok (tag, { tags := rest, popped := q.popped + 1 })

def write (q : Queue) : String :=
  "PlaceholderQueue([" ++ ", ".intercalate (q.tags.map Tag.write) ++ "])"

end Queue

end HtmlTemplate
