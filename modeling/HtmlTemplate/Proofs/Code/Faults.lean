import HtmlTemplate.Proofs.Code.Emission

/-!
What keeps a tree from being compiled. Going through a tree, the writer needs to know nothing but
how many blocks are open, so whether it fails, and for what, is settled by a walk over the nodes that
it meets, in a row. The walk ends with the first node that is at fault, or with the number of blocks
that are open behind the last one.
-/

namespace HtmlTemplate

open Code

mutual

/-- The nodes without nodes of their own, in the order in which they are met: the children of an
element before the parts of its attributes. -/
def Node.met : Node → List Node
  | .text value => [.text value]
  | .tag t => [.tag t]
  | .element _ _ attrs children => nodesMet children ++ attrsMet attrs
  | .fragment children => nodesMet children
  | .foreign kind => [.foreign kind]
termination_by structural node => node

def nodesMet : List Node → List Node
  | [] => []
  | node :: rest => node.met ++ nodesMet rest
termination_by structural nodes => nodes

def Attr.met : Attr → List Node
  | .plain _ _ => []
  | .parts _ value => nodesMet value
termination_by structural attr => attr

def attrsMet : List Attr → List Node
  | [] => []
  | attr :: rest => attr.met ++ attrsMet rest
termination_by structural attrs => attrs

end

/-- The expression that a tag depends on. -/
def Tag.expr? : Tag → Option Expr
  | .ifTag condition => some condition
  | .elifTag condition => some condition
  | .elseTag => none
  | .endIfTag => none
  | .expression body => some body
  | .comment _ => none

/-- What is wrong with a node that is met when a number of blocks is open. A branch whose expression
cannot be used is at fault for that, whether or not there is a block for it. -/
inductive Node.Fault (blocks : Nat) : Node → CompileError → Prop where
  | node (kind : String) : Fault blocks (.foreign kind) (.unknownNode kind)
  | expression {tag : Tag} {kind : String} (depends : tag.expr? = some (.foreign kind)) :
      Fault blocks (.tag tag) (.unknownNode kind)
  | elifTag {condition : Expr} {operand : Operand} (usable : operandOf condition = .ok operand)
      (outside : blocks = 0) :
      Fault blocks (.tag (.elifTag condition))
        (.branchWithoutBlock ("elif " ++ operand.text ++ ":"))
  | elseTag (outside : blocks = 0) : Fault blocks (.tag .elseTag) (.branchWithoutBlock "else:")
  | endIfTag (outside : blocks = 0) : Fault blocks (.tag .endIfTag) .endWithoutBlock

/-- The number of open blocks behind a node. -/
def Node.count (blocks : Nat) : Node → Nat
  | .tag (.ifTag _) => blocks + 1
  | .tag .endIfTag => blocks - 1
  | _ => blocks

/-- A walk over nodes when a number of blocks is open: it stops at the first node at fault, or ends
with the number of blocks that are open then. -/
inductive Walks : Nat → List Node → Except CompileError Nat → Prop where
  | ends (blocks : Nat) : Walks blocks [] (.ok blocks)
  | stops {blocks : Nat} {node : Node} {e : CompileError} (fault : node.Fault blocks e)
      (rest : List Node) : Walks blocks (node :: rest) (.error e)
  | passes {blocks : Nat} {node : Node} {rest : List Node} {outcome : Except CompileError Nat}
      (fine : ∀ e, ¬ node.Fault blocks e) (onward : Walks (node.count blocks) rest outcome) :
      Walks blocks (node :: rest) outcome

/-! The walk -/

theorem Node.Fault.unique {blocks : Nat} {node : Node} {first second : CompileError}
    (one : node.Fault blocks first) (other : node.Fault blocks second) : first = second := by
  cases one with
  | node kind =>
    cases other
    rfl
  | expression depends =>
    cases other with
    | expression again =>
      rw [depends] at again
      cases again
      rfl
    | elifTag usable _ =>
      -- a branch with a foreign condition never comes to its block
      cases depends
      cases usable
    | elseTag _ => cases depends
    | endIfTag _ => cases depends
  | elifTag usable _ =>
    cases other with
    | expression depends =>
      cases depends
      cases usable
    | elifTag again _ =>
      rw [usable] at again
      cases again
      rfl
  | elseTag _ =>
    cases other with
    | expression depends => cases depends
    | elseTag _ => rfl
  | endIfTag _ =>
    cases other with
    | expression depends => cases depends
    | endIfTag _ => rfl

theorem Walks.unique {blocks : Nat} {nodes : List Node} {first second : Except CompileError Nat}
    (one : Walks blocks nodes first) (other : Walks blocks nodes second) : first = second := by
  induction one with
  | ends blocks =>
    cases other
    rfl
  | stops fault rest =>
    cases other with
    | stops again _ => rw [fault.unique again]
    | passes fine _ => exact absurd fault (fine _)
  | passes fine _ ih =>
    cases other with
    | stops fault _ => exact absurd fault (fine _)
    | passes _ onward => exact ih onward

section Append

variable {blocks : Nat} {front back : List Node}

theorem Walks.append_error {e : CompileError} (walk : Walks blocks front (.error e)) :
    Walks blocks (front ++ back) (.error e) := by
  generalize stopped : Except.error e = outcome at walk
  induction walk with
  | ends blocks => cases stopped
  | stops fault rest =>
    cases stopped
    exact .stops fault (rest ++ back)
  | passes fine _ ih => exact .passes fine (ih stopped)

theorem Walks.append_ok {between : Nat} {outcome : Except CompileError Nat}
    (walk : Walks blocks front (.ok between)) (onward : Walks between back outcome) :
    Walks blocks (front ++ back) outcome := by
  generalize ended : Except.ok between = middle at walk
  induction walk with
  | ends blocks =>
    cases ended
    exact onward
  | stops fault rest => cases ended
  | passes fine _ ih => exact .passes fine (ih ended)

/-! Compiling -/

/-- What is compiled one after the other is walked over one after the other. -/
theorem Walks.bind {first : Except CompileError CodeWriter}
    {next : CodeWriter → Except CompileError CodeWriter}
    (before : Walks blocks front (first.map Writer.blocks))
    (after : ∀ w : CodeWriter, Walks w.blocks back ((next w).map Writer.blocks)) :
    Walks blocks (front ++ back) ((first >>= next).map Writer.blocks) := by
  cases first with
  | error e => exact before.append_error
  | ok w => exact before.append_ok (after w)

/-- Lines that are added behind change nothing. -/
theorem Walks.line {first : Except CompileError CodeWriter}
    (before : Walks blocks front (first.map Writer.blocks)) {finish : CodeWriter → CodeWriter}
    (same : ∀ w : CodeWriter, (finish w).blocks = w.blocks) :
    Walks blocks front ((first >>= fun w => .ok (finish w)).map Writer.blocks) := by
  rw [← List.append_nil front]
  apply before.bind
  intro w
  simp only [Except.map, same]
  exact .ends w.blocks

end Append

theorem blocks_addKey (key : Option Nat) (w : CodeWriter) : (addKey key w).blocks = w.blocks := by
  cases key <;> rfl

/-- A node that is never at fault. -/
theorem Walks.pass {blocks : Nat} {node : Node} (fine : ∀ e, ¬ node.Fault blocks e) :
    Walks blocks [node] (.ok (node.count blocks)) :=
  .passes fine (.ends _)

theorem walks_continueBlock {node : Node} {header : Statement} (w : CodeWriter)
    (fault : ∀ e, node.Fault w.blocks e ↔
      w.blocks = 0 ∧ e = .branchWithoutBlock (Line.text header))
    (same : node.count w.blocks = w.blocks) :
    Walks w.blocks [node] ((w.continueBlock header).map Writer.blocks) := by
  by_cases outside : w.blocks = 0
  · rw [Writer.continueBlock, if_pos outside]
    exact .stops ((fault _).mpr ⟨outside, rfl⟩) []
  · rw [Writer.continueBlock, if_neg outside]
    have walk := Walks.pass fun e found => outside ((fault e).mp found).1
    rwa [same] at walk

theorem walks_elifTag {condition : Expr} {operand : Operand}
    (usable : operandOf condition = .ok operand) (w : CodeWriter) :
    Walks w.blocks [.tag (.elifTag condition)]
      ((w.continueBlock (.elifHeader operand)).map Writer.blocks) := by
  refine walks_continueBlock w (fun e => ⟨fun fault => ?_, ?_⟩) rfl
  · cases fault with
    | expression depends =>
      cases depends
      cases usable
    | elifTag again outside =>
      rw [usable] at again
      cases again
      exact ⟨outside, rfl⟩
  · rintro ⟨outside, rfl⟩
    exact .elifTag usable outside

theorem walks_elseTag (w : CodeWriter) :
    Walks w.blocks [.tag .elseTag] ((w.continueBlock .elseHeader).map Writer.blocks) := by
  refine walks_continueBlock w (fun e => ⟨fun fault => ?_, ?_⟩) rfl
  · cases fault with
    | expression depends => cases depends
    | elseTag outside => exact ⟨outside, rfl⟩
  · rintro ⟨outside, rfl⟩
    exact .elseTag outside

theorem walks_endIfTag (w : CodeWriter) :
    Walks w.blocks [.tag .endIfTag] (w.closeBlock.map Writer.blocks) := by
  by_cases outside : w.blocks = 0
  · rw [Writer.closeBlock, if_pos outside]
    exact .stops (.endIfTag outside) []
  · rw [Writer.closeBlock, if_neg outside]
    refine Walks.pass fun e fault => ?_
    cases fault with
    | expression depends => cases depends
    | endIfTag none => exact outside none

/-- A tag is at fault for its expression first, and then for the block that it needs. -/
theorem walks_compileTag (tag : Tag) (w : CodeWriter) :
    Walks w.blocks [.tag tag] ((compileTag tag w).map Writer.blocks) := by
  match tag with
  | .ifTag (.foreign _) | .elifTag (.foreign _) | .expression (.foreign _) =>
    exact .stops (.expression rfl) []
  | .ifTag (.literal _) | .ifTag (.variable _) | .expression (.literal _) |
    .expression (.variable _) | .comment _ =>
    refine Walks.pass fun e fault => ?_
    cases fault with
    | expression depends => cases depends
  | .elifTag (.literal _) | .elifTag (.variable _) => exact walks_elifTag rfl w
  | .elseTag => exact walks_elseTag w
  | .endIfTag => exact walks_endIfTag w

mutual

/-- Compiling a node comes to the same end as a walk over what is met in it. -/
theorem walks_compileNode (node : Node) (key : Option Nat) (w : CodeWriter) :
    Walks w.blocks node.met ((compileNode node key w).map Writer.blocks) := by
  match node with
  | .text value => exact Walks.pass fun e fault => by cases fault
  | .tag t => exact walks_compileTag t w
  | .fragment children => exact walks_compileNodes _ 0 children w
  | .foreign kind => exact .stops (.node kind) []
  | .element label ns attrs children =>
    -- the children come first, in a scope of their own if there are any
    have inner : Walks w.blocks (nodesMet children)
        ((compileChildren children w).map Writer.blocks) := by
      cases children with
      | nil => exact .ends w.blocks
      | cons node rest =>
        exact (walks_compileNodes true 0 (node :: rest) (openScope w)).line fun _ => rfl
    rw [compileNode_element, Node.met]
    apply inner.bind
    intro w
    -- behind the attributes there are only lines that neither open nor close a block
    have finished (w : CodeWriter) : ((addKey key w).add (.appendElement label)).blocks = w.blocks :=
      blocks_addKey key w
    exact (walks_compileAttrs attrs (w.add .newAttrs)).line finished
termination_by structural node

theorem walks_compileNodes (keyed : Bool) (index : Nat) (nodes : List Node) (w : CodeWriter) :
    Walks w.blocks (nodesMet nodes) ((compileNodes keyed index nodes w).map Writer.blocks) := by
  match nodes with
  | [] => exact .ends w.blocks
  | node :: rest =>
    exact (walks_compileNode node (keyAt keyed index) w).bind
      (walks_compileNodes keyed (index + 1) rest)
termination_by structural nodes

theorem walks_compileAttr (attr : Attr) (w : CodeWriter) :
    Walks w.blocks attr.met ((compileAttr attr w).map Writer.blocks) := by
  match attr with
  | .plain name value => exact .ends w.blocks
  | .parts name value =>
    exact (walks_compileNodes false 0 value (openScope w)).line fun _ => rfl
termination_by structural attr

theorem walks_compileAttrs (attrs : List Attr) (w : CodeWriter) :
    Walks w.blocks (attrsMet attrs) ((compileAttrs attrs w).map Writer.blocks) := by
  match attrs with
  | [] => exact .ends w.blocks
  | attr :: rest => exact (walks_compileAttr attr w).bind (walks_compileAttrs rest)
termination_by structural attrs

end

section Outcomes

variable {root : Node}

end Outcomes

-- The child is met before the attribute, and its condition is looked at before its block.
example : compile "div" (.element "p" none [.parts "title" [.tag .elseTag]]
    [.tag (.elifTag (.foreign "int"))]) = .error (.unknownNode "int") := rfl

end HtmlTemplate
