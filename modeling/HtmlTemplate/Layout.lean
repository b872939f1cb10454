import HtmlTemplate.Text.Blank
import HtmlTemplate.Text.Lines
import HtmlTemplate.Tree

/-!
Written forms laid out over several lines. What fits into the width that is left is written as it
is; a record or a list that does not is written with one field or item to a line, and a text is cut
at its lines and words. The width that is left is reduced by what has to follow on the same line,
but for the bracket that ends a record.
-/

namespace HtmlTemplate

/-- A written form with the structure along which it can be cut. -/
inductive Layout where
  | atom (text : String)
  | text (value : String)
  | record (name : String) (fields : List (String × Layout))
  | sequence (items : List Layout)

namespace Layout

mutual

/-- The written form on one line. -/
def flat : Layout → String
  | .atom s => s
  | .text value => Text.quote value
  | .record name fields => name ++ "(" ++ ", ".intercalate (flatFields fields) ++ ")"
  | .sequence items => "[" ++ ", ".intercalate (flatItems items) ++ "]"
termination_by structural layout => layout

def flatFields : List (String × Layout) → List String
  | [] => []
  | (name, value) :: rest => (name ++ "=" ++ flat value) :: flatFields rest
termination_by structural fields => fields

def flatItems : List Layout → List String
  | [] => []
  | item :: rest => flat item :: flatItems rest
termination_by structural items => items

end

/-- The width of a page. -/
def width : Int := 80

def spaces (n : Nat) : String := String.ofList (List.replicate n ' ')

/-- What separates the lines of a layout that is indented by `indent`. -/
def lineBreak (indent : Nat) : String := "\n" ++ spaces indent

/-- The words of a line, each with the white space after it. -/
def words (line : List Char) : List (List Char) :=
  go (line.length + 1) line
where
  go : (fuel : Nat) → List Char → List (List Char)
    | 0, _ => []
    | _, [] => []
    | fuel + 1, s =>
      let solid := s.takeWhile fun c => !Text.isBlank c
      let rest := s.dropWhile fun c => !Text.isBlank c
      (solid ++ rest.takeWhile Text.isBlank) :: go fuel (rest.dropWhile Text.isBlank)

def quotedLength (s : List Char) : Int := (Text.Quoted.encode s).length

/-- Joins words as long as they fit; `reserve` is kept free after the very last of them. -/
def fillWords (room reserve : Int) (isLast : Bool) (current : List Char) :
    List (List Char) → List (List Char)
  | [] => if current.isEmpty then [] else [current]
  | word :: rest =>
    let room := if rest.isEmpty && isLast then room - reserve else room
    let candidate := current ++ word
    if quotedLength candidate > room then
      -- A word that does not fit starts a chunk, even if it is too long for a chunk of its own.
      let filled := fillWords room reserve isLast word rest
      if current.isEmpty then filled else current :: filled
    else fillWords room reserve isLast candidate rest

/-- Cuts lines into chunks that fit. -/
def chunks (room reserve : Int) : List (List Char) → List (List Char)
  | [] => []
  | line :: rest =>
    let isLast := rest.isEmpty
    let limit := if isLast then room - reserve else room
    let here :=
      if quotedLength line ≤ limit then [line] else fillWords room reserve isLast [] (words line)
    here ++ chunks room reserve rest

/-- A text cut into quoted chunks, one to a line. -/
def layoutText (indent : Nat) (reserve : Int) (value : String) : String :=
  if value.isEmpty then Text.quote value
  else
    let cut := chunks (width - indent) reserve (Text.lines value.toList)
    (lineBreak indent).intercalate (cut.map fun chunk => Text.quote (String.ofList chunk))

mutual

/-- Lays out a form that starts at the column `indent`, with `reserve` columns to be kept free for
what follows its end. -/
def layout (indent : Nat) (reserve : Int) : Layout → String
  | .atom s => s
  | .text value =>
    let whole := Text.quote value
    if (whole.length : Int) ≤ width - indent - reserve then whole
    else layoutText indent reserve value
  | .record name fields =>
    let whole := flat (.record name fields)
    if (whole.length : Int) ≤ width - indent - reserve then whole
    else name ++ "(" ++ layoutFields (indent + name.length + 1) reserve fields ++ ")"
  | .sequence items =>
    let whole := flat (.sequence items)
    if (whole.length : Int) ≤ width - indent - reserve then whole
    else "[" ++ layoutItems (indent + 1) (reserve + 1) items ++ "]"
termination_by structural layout => layout

def layoutFields (indent : Nat) (reserve : Int) : List (String × Layout) → String
  | [] => ""
  | (name, value) :: rest =>
    let start := indent + name.length + 1
    if rest.isEmpty then name ++ "=" ++ layout start reserve value
    else
      name ++ "=" ++ layout start 1 value ++ "," ++ lineBreak indent
        ++ layoutFields indent reserve rest
termination_by structural fields => fields

def layoutItems (indent : Nat) (reserve : Int) : List Layout → String
  | [] => ""
  | item :: rest =>
    if rest.isEmpty then layout indent reserve item
    else
      layout indent 1 item ++ "," ++ lineBreak indent ++ layoutItems indent reserve rest
termination_by structural items => items

end

end Layout

def Expr.layout : Expr → Layout
  | .literal (.str s) => .record "Literal" [("value", .text s)]
  | .literal value => .record "Literal" [("value", .atom value.write)]
  | .variable name => .record "Variable" [("name", .text name)]
  | .foreign kind => .atom kind

def Tag.layout : Tag → Layout
  | .ifTag condition => .record "IfTag" [("condition", condition.layout)]
  | .elifTag condition => .record "ElifTag" [("condition", condition.layout)]
  | .elseTag => .record "ElseTag" []
  | .endIfTag => .record "EndIfTag" []
  | .expression body => .record "ExpressionTag" [("body", body.layout)]
  | .comment text => .record "CommentTag" [("text", .text text)]

def optionLayout : Option String → Layout
  | some s => .text s
  | none => .atom "None"

mutual

def Node.layout : Node → Layout
  | .text value => .record "TextLiteral" [("value", .text value)]
  | .tag t => t.layout
  | .element label ns attrs children =>
    .record "Element"
      [("tag", .text label), ("namespace", optionLayout ns),
        ("attrs", .sequence (attrLayouts attrs)), ("children", .sequence (nodeLayouts children))]
  | .fragment children =>
    .record "DocumentFragment" [("children", .sequence (nodeLayouts children))]
  | .foreign kind => .atom kind
termination_by structural node => node

def Attr.layout : Attr → Layout
  | .plain name value => .record "Attr" [("name", .text name), ("value", .text value)]
  | .parts name value =>
    .record "Attr" [("name", .text name), ("value", .sequence (nodeLayouts value))]
termination_by structural attr => attr

def nodeLayouts : List Node → List Layout
  | [] => []
  | node :: rest => node.layout :: nodeLayouts rest
termination_by structural nodes => nodes

def attrLayouts : List Attr → List Layout
  | [] => []
  | attr :: rest => attr.layout :: attrLayouts rest
termination_by structural attrs => attrs

end

/-- A tree laid out over several lines. -/
def Node.pretty (node : Node) : String := node.layout.layout 0 0

end HtmlTemplate
