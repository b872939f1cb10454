import HtmlTemplate.Code.Load

/-!
Running a routine. The registers are the local variables of the routine: `children` and `attrs` have
no value until an element sets them, which a branch around a part of an element can prevent.
-/

namespace HtmlTemplate.Code

abbrev Context := List (String × Value)

structure Registers where
  nodes : List Value := []
  /-- The saved lists of nodes, the last saved first. -/
  stack : List (List Value) := []
  children : Option Value := none
  attrs : Option (List (String × Value)) := none

/-- Why a routine can fail. -/
inductive RunError where
  /-- The context has no value of this name. -/
  | missing (name : String)
  | nothingSaved
  /-- A register is used before it has a value. -/
  | unset (register : String)
  | undefined (name : String)
  /-- There is no context to look a name up in. -/
  | noContext
  deriving DecidableEq, Repr

def RunError.message : RunError → String
  | .missing name => Text.quote name
  | .nothingSaved => "pop from empty list"
  | .unset register =>
    "cannot access local variable '" ++ register ++ "' where it is not associated with a value"
  | .undefined name => "name '" ++ name ++ "' is not defined"
  | .noContext => "'NoneType' object is not subscriptable"

/-- Where a statement leaves a routine: it goes on, or it is done. -/
inductive Flow where
  | next (registers : Registers)
  | done (value : Value)

def Operand.eval (context : Option Context) : Operand → Except RunError Value
  | .constant value => .ok value
  | .lookup name =>
    match context with
    | none => .error .noContext
    | some entries =>
      match Value.lookup? name entries with
      | some value => .ok value
      | none => .error (.missing name)
  | .undefined name => .error (.undefined name)

def Test.holds (context : Option Context) (r : Registers) : Test → Except RunError Bool
  | .operand o => (o.eval context).map Value.truth
  | .oneNode => .ok (r.nodes.length == 1)
  | .noNodes => .ok r.nodes.isEmpty

/-- A list of nodes as the children of an element: none if it is empty. -/
def childrenValue (nodes : List Value) : Value := if nodes.isEmpty then .none else .list nodes

def joinNodes (nodes : List Value) : String := String.join (nodes.map Value.text)

/-- Assigns to an attribute of the element that is being built. -/
def Registers.assignAttr (r : Registers) (name value : String) : Except RunError Registers :=
  match r.attrs with
  | some attrs => .ok { r with attrs := some (assign name (.str value) attrs) }
  | none => .error (.unset "attrs")

def Registers.append (r : Registers) (value : Value) : Registers :=
  { r with nodes := r.nodes ++ [value] }

/-- The element that the registers describe. -/
def Registers.element (r : Registers) (tag : String) : Except RunError Value :=
  match r.attrs, r.children with
  | none, _ => .error (.unset "attrs")
  | some _, none => .error (.unset "children")
  | some attrs, some children => .ok (makeElement tag (some attrs) children)

def runStatement (context : Option Context) (r : Registers) :
    Statement → Except RunError Flow
  | .newNodes => .ok (.next { r with nodes := [] })
  | .newStack => .ok (.next { r with stack := [] })
  | .saveNodes => .ok (.next { r with stack := r.nodes :: r.stack })
  | .restoreNodes =>
    match r.stack with
    | nodes :: stack => .ok (.next { r with nodes, stack })
    | [] => .error .nothingSaved
  | .appendText text => .ok (.next (r.append (.str text)))
  | .appendOperand o => do
    let value ← o.eval context
    return .next (r.append (.str value.text))
  | .noChildren => .ok (.next { r with children := some .none })
  | .takeChildren => .ok (.next { r with children := some (childrenValue r.nodes) })
  | .newAttrs => .ok (.next { r with attrs := some [] })
  | .setAttr name value => (r.assignAttr name value).map .next
  | .joinAttr name => (r.assignAttr name (joinNodes r.nodes)).map .next
  | .appendElement tag => do
    let element ← r.element tag
    return .next (r.append element)
  | .returnFirst => .ok (.done (r.nodes.headD .none))
  | .returnNone => .ok (.done .none)
  | .returnWrapped tag => .ok (.done (makeElement tag none (.list r.nodes)))
  | .pass => .ok (.next r)
  | .define => .ok (.next r)
  | .ifHeader _ => .ok (.next r)
  | .elifHeader _ => .ok (.next r)
  | .elseHeader => .ok (.next r)

mutual

def runBlock (context : Option Context) : Block → Registers → Except RunError Flow
  | .statement s, r => runStatement context r s
  | .branches arms none, r => runArms context arms (fun r => .ok (.next r)) r
  | .branches arms (some body), r => runArms context arms (fun r => runBlocks context body r) r
termination_by structural block => block

def runBlocks (context : Option Context) : List Block → Registers → Except RunError Flow
  | [], r => .ok (.next r)
  | block :: rest, r =>
    match runBlock context block r with
    | .ok (.next r) => runBlocks context rest r
    | other => other
termination_by structural blocks => blocks

/-- Runs the first branch whose condition holds, or else the rest. -/
def runArms (context : Option Context) :
    List (Test × List Block) → (Registers → Except RunError Flow) → Registers →
      Except RunError Flow
  | [], otherwise, r => otherwise r
  | (test, body) :: rest, otherwise, r =>
    match test.holds context r with
    | .error e => .error e
    | .ok true => runBlocks context body r
    | .ok false => runArms context rest otherwise r
termination_by structural arms => arms

end

/-- Runs a routine on a context; one that ends without a result gives none. -/
def Routine.run (routine : Routine) (context : Option Context) : Except RunError Value :=
  match runBlocks context routine.body {} with
  | .ok (.done value) => .ok value
  | .ok (.next _) => .ok .none
  | .error e => .error e

end HtmlTemplate.Code
