import HtmlTemplate.Code.Writer
import HtmlTemplate.Directive.Tag

/-!
The statements of a render routine, and the text that each is written as. A routine fills the list
`nodes`, saves the lists of the enclosing elements on `stack`, and keeps the children and the
attributes of the element it builds in `children` and `attrs`.
-/

namespace HtmlTemplate.Code

/-- What a statement computes with. -/
inductive Operand where
  | constant (value : Value)
  /-- A value of the context. -/
  | lookup (name : String)
  /-- A name that stands for nothing. -/
  | undefined (name : String)
  deriving BEq

/-- What a branch depends on. -/
inductive Test where
  | operand (operand : Operand)
  | oneNode
  | noNodes
  deriving BEq

inductive Statement where
  | define
  | newNodes
  | newStack
  | saveNodes
  | restoreNodes
  | pass
  | appendText (text : String)
  | appendOperand (operand : Operand)
  | noChildren
  | takeChildren
  | newAttrs
  | setAttr (name value : String)
  /-- Joins the nodes into the value of an attribute. -/
  | joinAttr (name : String)
  | appendElement (tag : String)
  | returnFirst
  | returnNone
  | returnWrapped (tag : String)
  | ifHeader (test : Test)
  | elifHeader (operand : Operand)
  | elseHeader
  deriving BEq

/-- Numbers that are not finite have no literal and are read from a text. -/
def Operand.text : Operand → String
  | .constant (.float x) =>
    match Decimal.Binary.ofFloat x with
    | .finite .. => Decimal.writeFloat x
    | _ => "float(" ++ Text.quote (Decimal.writeFloat x) ++ ")"
  | .constant value => value.write
  | .lookup name => "context[" ++ Text.quote name ++ "]"
  | .undefined name => name

def Test.text : Test → String
  | .operand o => o.text
  | .oneNode => "len(nodes) == 1"
  | .noNodes => "not nodes"

def joinText : String := "''.join(stringify(value) for value in nodes)"

def Statement.text : Statement → String
  | .define => "def render(context):"
  | .newNodes => "nodes = []"
  | .newStack => "stack = []"
  | .saveNodes => "stack.append(nodes)"
  | .restoreNodes => "nodes = stack.pop()"
  | .pass => "pass"
  | .appendText text => "nodes.append(" ++ Text.quote text ++ ")"
  | .appendOperand operand => "nodes.append(stringify(" ++ operand.text ++ "))"
  | .noChildren => "children = None"
  | .takeChildren => "children = nodes or None"
  | .newAttrs => "attrs = \x7b\x7d"
  | .setAttr name value => "attrs[" ++ Text.quote name ++ "] = " ++ Text.quote value
  | .joinAttr name => "attrs[" ++ Text.quote name ++ "] = " ++ joinText
  | .appendElement tag => "nodes.append(make_element(" ++ Text.quote tag ++ ", attrs, children))"
  | .returnFirst => "return nodes[0]"
  | .returnNone => "return None"
  | .returnWrapped tag => "return make_element(" ++ Text.quote tag ++ ", None, nodes)"
  | .ifHeader test => "if " ++ test.text ++ ":"
  | .elifHeader operand => "elif " ++ operand.text ++ ":"
  | .elseHeader => "else:"

instance : Line Statement where
  text := Statement.text
  nothing := .pass

end HtmlTemplate.Code
