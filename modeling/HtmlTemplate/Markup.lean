import HtmlTemplate.Boolean
import HtmlTemplate.Text.Lowercase
import HtmlTemplate.Value

/-!
Markup: rendered values as HTML text. Text is escaped; an element shows its properties as attributes
under their HTML names, without its key, and a boolean attribute is there or not there. Nothing is
shown for `none`, `true` and `false`.
-/

namespace HtmlTemplate.Markup

/-- Elements that have no end tag. -/
def voidElements : List String :=
  ["area", "base", "br", "col", "embed", "hr", "img", "input", "link", "meta", "param", "source",
    "track", "wbr"]

/-- The attribute that a property is shown as. -/
def attributeName (prop : String) : String :=
  if prop = "className" then "class" else if prop = "htmlFor" then "for" else prop

def escapeText (c : Char) : List Char :=
  if c = '&' then "&amp;".toList
  else if c = '<' then "&lt;".toList
  else if c = '>' then "&gt;".toList
  else [c]

def escapeAttr (c : Char) : List Char :=
  if c = '"' then "&quot;".toList
  else if c = '\'' then "&#x27;".toList
  else escapeText c

def escape (escapeChar : Char → List Char) (s : String) : String :=
  String.ofList (s.toList.flatMap escapeChar)

/-- An attribute with the space in front of it, or nothing if it is not shown. -/
def renderProp (name : String) (value : Value) : String :=
  if name = "key" then ""
  else
    match value with
    | .none => ""
    | value =>
      let shown := attributeName name
      if booleanAttributes.contains (Text.lower shown) then
        if value.truth then " " ++ shown ++ "=\"\"" else ""
      else " " ++ shown ++ "=\"" ++ escape escapeAttr value.text ++ "\""

def renderProps (props : List (String × Value)) : String :=
  String.join (props.map fun (name, value) => renderProp name value)

mutual

/-- The markup of a value. -/
def render : Value → String
  | .none => ""
  | .bool _ => ""
  | .list items => renderAll items
  | .tuple items => renderAll items
  | .vnode tag props children =>
    let start := "<" ++ tag ++ renderProps props ++ ">"
    if voidElements.contains tag then start
    else start ++ render children ++ "</" ++ tag ++ ">"
  | value => escape escapeText value.text
termination_by structural value => value

def renderAll : List Value → String
  | [] => ""
  | item :: rest => render item ++ renderAll rest
termination_by structural items => items

end

end HtmlTemplate.Markup
