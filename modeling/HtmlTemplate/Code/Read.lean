import HtmlTemplate.Code.Literal
import HtmlTemplate.Code.Statement

/-!
Reading statements from their text.
-/

namespace HtmlTemplate.Code

/-- What stands between a fixed beginning and a fixed end. -/
def between? (before after : String) (s : List Char) : Option (List Char) :=
  if before.toList.isPrefixOf s then
    let rest := s.drop before.length
    if after.toList.isSuffixOf rest then some (rest.take (rest.length - after.length)) else none
  else none

/-- Reads a text that is one quoted text. -/
def quoted? (s : List Char) : Option String :=
  match Text.Quoted.read s with
  | some (inside, []) => some (String.ofList inside)
  | _ => none

def readOperand? (s : List Char) : Option Operand :=
  match (between? "context[" "]" s).bind quoted? with
  | some name => some (.lookup name)
  | none =>
    match (between? "float(" ")" s).bind quoted? with
    | some number => (Decimal.readFloat? number.toList).map fun x => .constant (.float x)
    | none =>
      match Literal.read s with
      | .ok value => some (.constant value)
      | .error (.undefined name) => some (.undefined name)
      | .error .malformed => none

def readTest? (s : List Char) : Option Test :=
  if s = Test.oneNode.text.toList then some .oneNode
  else if s = Test.noNodes.text.toList then some .noNodes
  else (readOperand? s).map .operand

/-- The statements whose text is always the same. -/
def fixedStatements : List Statement :=
  [.define, .newNodes, .newStack, .saveNodes, .restoreNodes, .pass, .noChildren, .takeChildren,
    .newAttrs, .returnFirst, .returnNone, .elseHeader]

def readFixed? (s : List Char) : Option Statement :=
  fixedStatements.find? fun statement => statement.text.toList == s

/-- Reads the name of an attribute, and what is assigned to it. -/
def readAssignment? (s : List Char) : Option Statement :=
  match (between? "attrs[" "" s).bind Text.Quoted.read with
  | some (name, rest) =>
    match between? "] = " "" rest with
    | some value =>
      if value = joinText.toList then some (.joinAttr (String.ofList name))
      else (quoted? value).map fun value => .setAttr (String.ofList name) value
    | none => none
  | none => none

def readStatement? (s : List Char) : Option Statement :=
  (readFixed? s)
    |>.or ((between? "if " ":" s).bind fun test => (readTest? test).map .ifHeader)
    |>.or ((between? "elif " ":" s).bind fun operand => (readOperand? operand).map .elifHeader)
    |>.or ((between? "nodes.append(stringify(" "))" s).bind fun operand =>
      (readOperand? operand).map .appendOperand)
    |>.or ((between? "nodes.append(make_element(" ", attrs, children))" s).bind fun tag =>
      (quoted? tag).map .appendElement)
    |>.or ((between? "nodes.append(" ")" s).bind fun text => (quoted? text).map .appendText)
    |>.or (readAssignment? s)
    |>.or ((between? "return make_element(" ", None, nodes)" s).bind fun tag =>
      (quoted? tag).map .returnWrapped)

end HtmlTemplate.Code
