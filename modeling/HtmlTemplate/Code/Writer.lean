import HtmlTemplate.Decimal.Written

/-!
A buffer of code lines with their indentation. A block is opened by a line such as `if x:`, goes on
in further branches, and is closed; every branch starts with a line that does nothing, so that a
branch without content is still a block.
-/

namespace HtmlTemplate

/-- Why a tree cannot be compiled. -/
inductive CompileError where
  | unknownNode (kind : String)
  /-- A branch that continues no block, by its line. -/
  | branchWithoutBlock (line : String)
  | endWithoutBlock
  | unclosed (blocks : Nat)
  deriving DecidableEq, Repr

def CompileError.message : CompileError → String
  | .unknownNode kind => "Unexpected node type: " ++ kind
  | .branchWithoutBlock line => "'" ++ line ++ "' without a matching if"
  | .endWithoutBlock => "endif without a matching if"
  | .unclosed blocks => Decimal.writeInt blocks ++ " if block(s) without endif"

namespace Code

/-- A kind of code line: its text, and the line that does nothing. -/
class Line (α : Type) where
  text : α → String
  nothing : α

instance : Line String where
  text := id
  nothing := "pass"

structure Writer (α : Type) where
  /-- Each line with its indentation. -/
  lines : Array (Int × α) := #[]
  indent : Int := 0
  blocks : Nat := 0

namespace Writer

variable {α : Type} [Line α]

/-- The number of columns that a block is indented by. -/
def indentStep : Int := 4

omit [Line α] in
def add (w : Writer α) (line : α) : Writer α :=
  { w with lines := w.lines.push (w.indent, line) }

omit [Line α] in
def deeper (w : Writer α) : Writer α := { w with indent := w.indent + indentStep }

omit [Line α] in
def shallower (w : Writer α) : Writer α := { w with indent := w.indent - indentStep }

def openBlock (w : Writer α) (line : α) : Writer α :=
  let w := (w.add line).deeper.add Line.nothing
  { w with blocks := w.blocks + 1 }

def continueBlock (w : Writer α) (line : α) : Except CompileError (Writer α) :=
  if w.blocks = 0 then .error (.branchWithoutBlock (Line.text line))
  else .ok ((w.shallower.add line).deeper.add Line.nothing)

omit [Line α] in
def closeBlock (w : Writer α) : Except CompileError (Writer α) :=
  if w.blocks = 0 then .error .endWithoutBlock
  else
    let w := w.shallower
    .ok { w with blocks := w.blocks - 1 }

/-- A line as it is written; a negative indentation counts as none. -/
def lineText (indent : Int) (line : α) : String :=
  String.ofList (List.replicate indent.toNat ' ') ++ Line.text line ++ "\n"

def text (w : Writer α) : String :=
  String.join (w.lines.toList.map fun (indent, line) => lineText indent line)

end Writer

end Code

end HtmlTemplate
