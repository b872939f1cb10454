import HtmlTemplate.Code.Statement
import HtmlTemplate.Tree

/-!
Compiling a combined tree to a render routine. Nodes are visited depth first, the children of an
element before its attributes; a child knows its place among its siblings as its key. Branches of
the template become branches of the routine, wherever in the tree their tags stand.
-/

namespace HtmlTemplate.Code

abbrev CodeWriter := Writer Statement

/-- The operand of an expression. -/
def operandOf : Expr → Except CompileError Operand
  | .literal value => .ok (.constant value)
  | .variable name => .ok (.lookup name)
  | .foreign kind => .error (.unknownNode kind)

/-- Attributes that have another name as a property of an element. -/
def propName (name : String) : String :=
  if name = "class" then "className" else if name = "for" then "htmlFor" else name

def openScope (w : CodeWriter) : CodeWriter := (w.add .saveNodes).add .newNodes

/-- Ends a scope with a statement that uses its nodes. -/
def closeScope (w : CodeWriter) (use : Statement) : CodeWriter := (w.add use).add .restoreNodes

def compileTag (tag : Tag) (w : CodeWriter) : Except CompileError CodeWriter :=
  match tag with
  | .ifTag condition => do
    let operand ← operandOf condition
    return w.openBlock (.ifHeader (.operand operand))
  | .elifTag condition => do
    let operand ← operandOf condition
    w.continueBlock (.elifHeader operand)
  | .elseTag => w.continueBlock .elseHeader
  | .endIfTag => w.closeBlock
  | .expression body => do
    let operand ← operandOf body
    return w.add (.appendOperand operand)
  | .comment _ => .ok w

/-- The key of the child at a place, where children have keys. -/
def keyAt (keyed : Bool) (index : Nat) : Option Nat := if keyed then some index else none

def addKey (key : Option Nat) (w : CodeWriter) : CodeWriter :=
  match key with
  | some index => w.add (.setAttr "key" (Decimal.writeInt index))
  | none => w

mutual

/-- Writes the statements of one node, which has a key or none. -/
def compileNode : Node → (key : Option Nat) → CodeWriter → Except CompileError CodeWriter
  | .text value, _, w => .ok (w.add (.appendText value))
  | .tag t, _, w => compileTag t w
  | .fragment children, _, w => compileNodes (decide (children.length > 1)) 0 children w
  | .foreign kind, _, _ => .error (.unknownNode kind)
  | .element label _ attrs children, key, w => do
    let w ←
      match children with
      | [] => pure (w.add .noChildren)
      | children => do
        let w ← compileNodes true 0 children (openScope w)
        pure (closeScope w .takeChildren)
    let w ← compileAttrs attrs (w.add .newAttrs)
    return (addKey key w).add (.appendElement label)
termination_by structural node => node

/-- Writes the statements of nodes, the first of which stands at `index` among its siblings. -/
def compileNodes (keyed : Bool) (index : Nat) :
    List Node → CodeWriter → Except CompileError CodeWriter
  | [], w => .ok w
  | node :: rest, w => do
    let w ← compileNode node (keyAt keyed index) w
    compileNodes keyed (index + 1) rest w
termination_by structural nodes => nodes

def compileAttr : Attr → CodeWriter → Except CompileError CodeWriter
  | .plain name value, w => .ok (w.add (.setAttr (propName name) value))
  | .parts name value, w => do
    let w ← compileNodes false 0 value (openScope w)
    return closeScope w (.joinAttr (propName name))
termination_by structural attr => attr

def compileAttrs : List Attr → CodeWriter → Except CompileError CodeWriter
  | [], w => .ok w
  | attr :: rest, w => do
    let w ← compileAttr attr w
    compileAttrs rest w
termination_by structural attrs => attrs

end

/-- What a routine starts with. -/
def prologue : CodeWriter :=
  (((({} : CodeWriter).add .define).deeper).add .newNodes).add .newStack

/-- What a routine ends with: one node is returned as it is, several are wrapped. -/
def epilogue (fragmentTag : String) (w : CodeWriter) : CodeWriter :=
  let w := ((w.add (.ifHeader .oneNode)).deeper.add .returnFirst).shallower
  let w := ((w.add (.ifHeader .noNodes)).deeper.add .returnNone).shallower
  (w.add (.returnWrapped fragmentTag)).shallower

/-- Compiles a tree to the lines of a routine. -/
def compileLines (fragmentTag : String) (root : Node) : Except CompileError CodeWriter := do
  let w ← compileNode root none prologue
  if w.blocks = 0 then return epilogue fragmentTag w else throw (.unclosed w.blocks)

/-- Compiles a tree to the source of a routine. -/
def compile (fragmentTag : String) (root : Node) : Except CompileError String :=
  (compileLines fragmentTag root).map Writer.text

end HtmlTemplate.Code
