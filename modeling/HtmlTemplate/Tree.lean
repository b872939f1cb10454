import HtmlTemplate.Directive.Tag

/-!
The combined tree: HTML elements and text with the directives of the template standing among them.
An attribute has a plain value, or a list of nodes when directives take part in its value.
-/

namespace HtmlTemplate

/-- A stretch of text, or a directive: what text with placeholders expands to. -/
inductive Part where
  | text (value : String)
  | tag (tag : Tag)
  deriving BEq

mutual

inductive Node where
  | text (value : String)
  | tag (tag : Tag)
  | element (tag : String) (ns : Option String) (attrs : List Attr) (children : List Node)
  | fragment (children : List Node)
  /-- Something that is not a node of the tree, known by the name of its type. -/
  | foreign (kind : String)

inductive Attr where
  | plain (name value : String)
  | parts (name : String) (value : List Node)

end

instance : Inhabited Node := ⟨.fragment []⟩

instance : Inhabited Attr := ⟨.plain "" ""⟩

def Part.node : Part → Node
  | .text value => .text value
  | .tag t => .tag t

def Part.kind : Part → String
  | .text _ => "TextLiteral"
  | .tag t => t.kind

def Attr.name : Attr → String
  | .plain name _ => name
  | .parts name _ => name

def writeText (value : String) : String := "TextLiteral(value=" ++ Text.quote value ++ ")"

def Part.write : Part → String
  | .text value => writeText value
  | .tag t => t.write

/-- The written form of a text that may be missing. -/
def writeOption : Option String → String
  | some s => Text.quote s
  | none => "None"

mutual

/-- The written form of a node, with the names of its fields. -/
def Node.write : Node → String
  | .text value => writeText value
  | .tag t => t.write
  | .element label ns attrs children =>
    "Element(tag=" ++ Text.quote label ++ ", namespace=" ++ writeOption ns
      ++ ", attrs=[" ++ ", ".intercalate (writeAttrs attrs)
      ++ "], children=[" ++ ", ".intercalate (writeNodes children) ++ "])"
  | .fragment children =>
    "DocumentFragment(children=[" ++ ", ".intercalate (writeNodes children) ++ "])"
  | .foreign kind => kind
termination_by structural node => node

def Attr.write : Attr → String
  | .plain name value => "Attr(name=" ++ Text.quote name ++ ", value=" ++ Text.quote value ++ ")"
  | .parts name value =>
    "Attr(name=" ++ Text.quote name ++ ", value=[" ++ ", ".intercalate (writeNodes value) ++ "])"
termination_by structural attr => attr

def writeNodes : List Node → List String
  | [] => []
  | node :: rest => node.write :: writeNodes rest
termination_by structural nodes => nodes

def writeAttrs : List Attr → List String
  | [] => []
  | attr :: rest => attr.write :: writeAttrs rest
termination_by structural attrs => attrs

end

end HtmlTemplate
