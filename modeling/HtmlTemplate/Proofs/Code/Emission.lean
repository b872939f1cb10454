import HtmlTemplate.Proofs.Code.Loading
import HtmlTemplate.Proofs.Code.Outline
import HtmlTemplate.Proofs.Sequence

/-!
The code of an outline. Compiling the nodes of an outline adds lines to the writer that are laid out
as blocks, and leaves the indentation and the number of open blocks as they were. The blocks are a
function of the outline; each branch starts with a line that does nothing.
-/

namespace HtmlTemplate.Code

/-- A writer with further lines, each at an indentation of its own. -/
def Writer.addAll (w : CodeWriter) (lines : List (Nat × Statement)) : CodeWriter :=
  { w with lines := w.lines ++ (heldLines lines).toArray }

namespace Writer

variable (w : CodeWriter)

theorem addAll_nil : w.addAll [] = w := by
  simp [addAll, heldLines]

theorem addAll_append (front back : List (Nat × Statement)) :
    w.addAll (front ++ back) = (w.addAll front).addAll back := by
  simp [addAll, heldLines]

theorem add_eq_addAll {indent : Nat} (deep : w.indent = indent) (statement : Statement) :
    w.add statement = w.addAll [(indent, statement)] := by
  simp [add, addAll, heldLines, deep]

end Writer

/-- Writing that adds lines which stand for blocks, wherever it starts. -/
def Emits (level : Nat) (write : CodeWriter → Except CompileError CodeWriter)
    (blocks : List Block) : Prop :=
  ∀ indent : Nat, ∃ lines, Laid level indent lines blocks ∧
    ∀ w : CodeWriter, w.indent = indent → write w = .ok (w.addAll lines)

/-- Writing that goes on with the branches of an open block, from inside the block. -/
def EmitsArms (level : Nat) (write : CodeWriter → Except CompileError CodeWriter)
    (arms : List (Test × List Block)) (otherwise : Option (List Block)) : Prop :=
  ∀ indent : Nat, ∃ lines, LaidArms level indent lines arms otherwise ∧
    ∀ w : CodeWriter, w.indent = (indent + 4 : Nat) → w.blocks ≠ 0 →
      write w = .ok (w.addAll lines)

namespace Emits

variable {level : Nat} {f g : CodeWriter → Except CompileError CodeWriter}
  {blocks more : List Block}

theorem nothing : Emits level .ok [] :=
  fun _ => ⟨[], .nil, fun w _ => congrArg Except.ok w.addAll_nil.symm⟩

theorem line {statement : Statement} (legible : statement.Legible)
    (plain : statement.isHeader = false) :
    Emits level (fun w => .ok (w.add statement)) [.statement statement] :=
  fun indent => ⟨[(indent, statement)], .statement legible plain .nil,
    fun w deep => congrArg Except.ok (w.add_eq_addAll deep statement)⟩

theorem seq (first : Emits level f blocks) (second : Emits level g more) :
    Emits level (fun w => f w >>= g) (blocks ++ more) := by
  intro indent
  obtain ⟨front, laidFront, writeFront⟩ := first indent
  obtain ⟨back, laidBack, writeBack⟩ := second indent
  refine ⟨front ++ back, laidFront.append laidBack, fun w deep => ?_⟩
  show f w >>= g = _
  rw [writeFront w deep, ok_bind, w.addAll_append]
  exact writeBack (w.addAll front) deep

theorem congr (emits : Emits level f blocks) (same : ∀ w, g w = f w) : Emits level g blocks :=
  (funext same : g = f) ▸ emits

theorem fixed {statement : Statement} (fixed : statement ∈ fixedStatements)
    (plain : statement.isHeader = false) :
    Emits level (fun w => .ok (w.add statement)) [.statement statement] :=
  line (Statement.legible_of_fixed fixed) plain

end Emits

/-- Blocks that collect nodes of their own, use them, and go back to the nodes before. -/
def inScope (inner : List Block) (use : Statement) : List Block :=
  [.statement .saveNodes] ++ ([.statement .newNodes] ++ (inner ++
    ([.statement use] ++ [.statement .restoreNodes])))

theorem Emits.scope {level : Nat} {f : CodeWriter → Except CompileError CodeWriter}
    {blocks : List Block} {use : Statement} (inner : Emits level f blocks)
    (legible : use.Legible) (plain : use.isHeader = false) :
    Emits level (fun w => f (openScope w) >>= fun w => .ok (closeScope w use))
      (inScope blocks use) := by
  have saves : Emits level (fun w => .ok (w.add .saveNodes)) [.statement .saveNodes] :=
    Emits.fixed (by simp [fixedStatements]) rfl
  have clears : Emits level (fun w => .ok (w.add .newNodes)) [.statement .newNodes] :=
    Emits.fixed (by simp [fixedStatements]) rfl
  have restores : Emits level (fun w => .ok (w.add .restoreNodes)) [.statement .restoreNodes] :=
    Emits.fixed (by simp [fixedStatements]) rfl
  exact saves.seq (clears.seq (inner.seq ((Emits.line legible plain).seq restores)))

theorem legible_pass : Statement.pass.Legible :=
  Statement.legible_of_fixed (by simp [fixedStatements])

/-- The lines of a branch: its header, the line that does nothing, and its body. -/
theorem openBlock_eq {w : CodeWriter} {indent : Nat} (deep : w.indent = indent)
    (header : Statement) :
    w.openBlock header =
      { w.addAll [(indent, header), (indent + 4, .pass)] with
        indent := (indent + 4 : Nat), blocks := w.blocks + 1 } := by
  simp only [Writer.openBlock, Writer.add, Writer.deeper, deep]
  rfl

theorem closeBlock_eq {w : CodeWriter} {indent : Nat} (deep : w.indent = indent) :
    Writer.closeBlock { w with indent := (indent + 4 : Nat), blocks := w.blocks + 1 } = .ok w := by
  simp [Writer.closeBlock, Writer.shallower, Writer.indentStep, ← deep]

theorem continueBlock_eq {w : CodeWriter} {indent : Nat} (deep : w.indent = (indent + 4 : Nat))
    (inside : w.blocks ≠ 0) (header : Statement) :
    w.continueBlock header = .ok (w.addAll [(indent, header), (indent + 4, .pass)]) := by
  -- The header stands outside the block that the writer is in, and the writer goes back inside.
  obtain ⟨lines, deepness, blocks⟩ := w
  subst deep
  have outside : ((indent + 4 : Nat) : Int) - Writer.indentStep = indent := by
    rw [Writer.indentStep]
    omega
  simp only [Writer.continueBlock, if_neg inside, Writer.add, Writer.deeper, Writer.shallower,
    outside]
  rfl

section Blocks

variable {w : CodeWriter} {indent : Nat}
  {body others : CodeWriter → Except CompileError CodeWriter}
  {bodyLines otherLines : List (Nat × Statement)}

/-- The lines of a block: its first branch and the others, with the writer outside again. -/
theorem block_eq (deep : w.indent = indent) (header : Statement)
    (writeBody : ∀ w : CodeWriter, w.indent = (indent + 4 : Nat) →
      body w = .ok (w.addAll bodyLines))
    (writeOthers : ∀ w : CodeWriter, w.indent = (indent + 4 : Nat) → w.blocks ≠ 0 →
      others w = .ok (w.addAll otherLines)) :
    body (w.openBlock header) >>= others >>= Writer.closeBlock =
      .ok (w.addAll ((indent, header) :: (indent + 4, .pass) :: (bodyLines ++ otherLines))) := by
  -- The block is closed on a writer that differs from an outer one by being inside the block.
  have closes := closeBlock_eq (w := ((w.addAll [(indent, header), (indent + 4, .pass)]).addAll
    bodyLines).addAll otherLines) deep
  rw [openBlock_eq deep, writeBody _ rfl, ok_bind, writeOthers _ rfl (Nat.succ_ne_zero _), ok_bind]
  refine closes.trans ?_
  rw [← w.addAll_append, ← w.addAll_append]
  rfl

/-- The lines of a further branch, with the writer inside the block before and after. -/
theorem branch_eq (deep : w.indent = (indent + 4 : Nat)) (opened : w.blocks ≠ 0)
    (header : Statement)
    (writeBody : ∀ w : CodeWriter, w.indent = (indent + 4 : Nat) →
      body w = .ok (w.addAll bodyLines)) :
    w.continueBlock header >>= body =
      .ok (w.addAll ((indent, header) :: (indent + 4, .pass) :: bodyLines)) := by
  rw [continueBlock_eq deep opened, ok_bind, writeBody (w.addAll _) deep, ← w.addAll_append]
  rfl

end Blocks

section Branches

variable {level : Nat} {body others rest : CodeWriter → Except CompileError CodeWriter}
  {operand : Operand} {inside blocks : List Block} {arms : List (Test × List Block)}
  {otherwise : Option (List Block)}

/-- A block of branches is opened, filled, goes on in its other branches, and is closed. -/
theorem Emits.branches (legible : operand.Legible) (room : level < mostLevels)
    (first : Emits (level + 1) body inside) (second : EmitsArms level others arms otherwise)
    (last : Emits level rest blocks) :
    Emits level
      (fun w => body (w.openBlock (.ifHeader (.operand operand))) >>= others >>= Writer.closeBlock
        >>= rest)
      (.branches ((.operand operand, .statement .pass :: inside) :: arms) otherwise :: blocks) := by
  intro indent
  obtain ⟨bodyLines, laidBody, writeBody⟩ := first (indent + 4)
  obtain ⟨otherLines, laidOthers, writeOthers⟩ := second indent
  obtain ⟨lines, laidRest, writeRest⟩ := last indent
  refine ⟨_, .branches (Statement.legible_ifHeader legible) room (by omega)
    (.statement legible_pass rfl laidBody) laidOthers laidRest, fun w deep => ?_⟩
  show body (w.openBlock (.ifHeader (.operand operand))) >>= others >>= Writer.closeBlock >>= rest =
    _
  rw [block_eq deep _ writeBody writeOthers, ok_bind, writeRest (w.addAll _) deep,
    ← w.addAll_append]
  simp

theorem EmitsArms.congr {write : CodeWriter → Except CompileError CodeWriter}
    (emits : EmitsArms level others arms otherwise) (same : ∀ w, write w = others w) :
    EmitsArms level write arms otherwise :=
  (funext same : write = others) ▸ emits

theorem EmitsArms.done : EmitsArms level .ok [] none :=
  fun _ => ⟨[], .nil, fun w _ _ => congrArg Except.ok w.addAll_nil.symm⟩

theorem EmitsArms.last (room : level < mostLevels) (first : Emits (level + 1) body inside) :
    EmitsArms level (fun w => w.continueBlock .elseHeader >>= body) []
      (some (.statement .pass :: inside)) := by
  intro indent
  obtain ⟨bodyLines, laidBody, writeBody⟩ := first (indent + 4)
  refine ⟨_, .otherwise room (by omega) (.statement legible_pass rfl laidBody),
    fun w deep opened => ?_⟩
  exact branch_eq deep opened _ writeBody

theorem EmitsArms.further (legible : operand.Legible) (room : level < mostLevels)
    (first : Emits (level + 1) body inside) (second : EmitsArms level others arms otherwise) :
    EmitsArms level (fun w => w.continueBlock (.elifHeader operand) >>= body >>= others)
      ((.operand operand, .statement .pass :: inside) :: arms) otherwise := by
  intro indent
  obtain ⟨bodyLines, laidBody, writeBody⟩ := first (indent + 4)
  obtain ⟨otherLines, laidOthers, writeOthers⟩ := second indent
  refine ⟨_, .further (Statement.legible_elifHeader legible) room (by omega)
    (.statement legible_pass rfl laidBody) laidOthers, fun w deep opened => ?_⟩
  show w.continueBlock (.elifHeader operand) >>= body >>= others = _
  rw [branch_eq deep opened _ writeBody, ok_bind, writeOthers (w.addAll _) deep opened,
    ← w.addAll_append]
  simp

end Branches

theorem compileNodes_append (keyed : Bool) (index : Nat) (front back : List Node)
    (w : CodeWriter) :
    compileNodes keyed index (front ++ back) w =
      compileNodes keyed index front w >>= compileNodes keyed (index + front.length) back := by
  induction front generalizing index w with
  | nil => rfl
  | cons node rest ih =>
    rw [List.cons_append, compileNodes, compileNodes, List.length_cons]
    cases compileNode node (keyAt keyed index) w with
    | error e => rfl
    | ok w =>
      rw [ok_bind, ok_bind, ih, Nat.add_assoc, Nat.add_comm 1]

end HtmlTemplate.Code

namespace HtmlTemplate

open Code

def Term.operand : Term → Operand
  | .bool b => .constant (.bool b)
  | .str s => .constant (.str s)
  | .float x => .constant (.float x)
  | .lookup name => .lookup name

theorem Term.operandOf_expr (term : Term) : operandOf term.expr = .ok term.operand := by
  cases term <;> rfl

theorem Term.legible_operand (term : Term) : term.operand.Legible := by
  cases term with
  | bool b => exact Operand.legible_bool b
  | str s => exact Operand.legible_str s
  | float x => exact Operand.legible_float x
  | lookup name => exact Operand.legible_lookup name

/-- The blocks that give an element its children, if it has a place for any. -/
def childBlocks (nodes : List Node) (inner : List Block) : List Block :=
  if nodes.isEmpty then [.statement .noChildren] else inScope inner .takeChildren

def keyBlocks (keyed : Bool) (index : Nat) : List Block :=
  if keyed then [.statement (.setAttr "key" (Decimal.writeInt index))] else []

mutual

/-- The blocks of an outline, the first of its nodes standing at `index`. -/
def Outline.blocks (keyed : Bool) {place : Place} : Outline place → (index : Nat) → List Block
  | .done, _ => []
  | .text value rest, index => [.statement (.appendText value)] ++ rest.blocks keyed (index + 1)
  | .shown term rest, index =>
    [.statement (.appendOperand term.operand)] ++ rest.blocks keyed (index + 1)
  | .comment _ rest, index => rest.blocks keyed (index + 1)
  | .element tag _ attrs children rest, index =>
    (childBlocks children.nodes (children.blocks true 0) ++ ([.statement .newAttrs] ++
      (attrs.blocks ++ (keyBlocks keyed index ++ [.statement (.appendElement tag)])))) ++
      rest.blocks keyed (index + 1)
  | .choice condition body others rest, index =>
    .branches
        ((.operand condition.operand, .statement .pass :: body.blocks keyed (index + 1)) ::
          (others.blocks keyed (index + 1 + body.nodes.length)).1)
        (others.blocks keyed (index + 1 + body.nodes.length)).2 ::
      rest.blocks keyed (index + 1 + body.nodes.length + others.nodes.length + 1)
termination_by structural outline => outline

def Branches.blocks (keyed : Bool) {place : Place} :
    Branches place → (index : Nat) → List (Test × List Block) × Option (List Block)
  | .done, _ => ([], none)
  | .otherwise body, index => ([], some (.statement .pass :: body.blocks keyed (index + 1)))
  | .further condition body others, index =>
    ((.operand condition.operand, .statement .pass :: body.blocks keyed (index + 1)) ::
        (others.blocks keyed (index + 1 + body.nodes.length)).1,
      (others.blocks keyed (index + 1 + body.nodes.length)).2)
termination_by structural branches => branches

def AttrOutline.blocks : AttrOutline → List Block
  | .done => []
  | .plain name value rest => [.statement (.setAttr (propName name) value)] ++ rest.blocks
  | .parts name value rest =>
    inScope (value.blocks false 0) (.joinAttr (propName name)) ++ rest.blocks
termination_by structural outline => outline

end

section Compile

variable (keyed : Bool) (index : Nat) (term : Term) (nodes : List Node) (w : CodeWriter)

theorem compileNodes_shown :
    compileNodes keyed index (.tag (.expression term.expr) :: nodes) w =
      compileNodes keyed (index + 1) nodes (w.add (.appendOperand term.operand)) := by
  rw [compileNodes, compileNode, compileTag, term.operandOf_expr]
  rfl

theorem compileNodes_if :
    compileNodes keyed index (.tag (.ifTag term.expr) :: nodes) w =
      compileNodes keyed (index + 1) nodes (w.openBlock (.ifHeader (.operand term.operand))) := by
  rw [compileNodes, compileNode, compileTag, term.operandOf_expr]
  rfl

theorem compileNodes_elif :
    compileNodes keyed index (.tag (.elifTag term.expr) :: nodes) w =
      w.continueBlock (.elifHeader term.operand) >>= compileNodes keyed (index + 1) nodes := by
  rw [compileNodes, compileNode, compileTag, term.operandOf_expr]
  rfl

/-- Writes what gives an element its children. -/
def compileChildren (nodes : List Node) (w : CodeWriter) : Except CompileError CodeWriter :=
  match nodes with
  | [] => .ok (w.add .noChildren)
  | node :: rest =>
    compileNodes true 0 (node :: rest) (openScope w) >>= fun w => .ok (closeScope w .takeChildren)

theorem compileNode_element (tag : String) (ns : Option String) (attrs : List Attr)
    (children : List Node) (key : Option Nat) :
    compileNode (.element tag ns attrs children) key w =
      compileChildren children w >>= fun w => .ok (w.add .newAttrs) >>= fun w =>
        compileAttrs attrs w >>= fun w => .ok (addKey key w) >>= fun w =>
          .ok (w.add (.appendElement tag)) := by
  cases children with
  | nil => rfl
  | cons node rest =>
    have element : compileNode (.element tag ns attrs (node :: rest)) key w =
        compileNodes true 0 (node :: rest) (openScope w) >>= fun w =>
          compileAttrs attrs ((closeScope w .takeChildren).add .newAttrs) >>= fun w =>
            .ok ((addKey key w).add (.appendElement tag)) := rfl
    rw [element, compileChildren]
    cases compileNodes true 0 (node :: rest) (openScope w) <;> rfl

theorem compileNodes_element (tag : String) (ns : Option String) (attrs : List Attr)
    (children : List Node) :
    compileNodes keyed index (.element tag ns attrs children :: nodes) w =
      (compileChildren children w >>= fun w => .ok (w.add .newAttrs) >>= fun w =>
        compileAttrs attrs w >>= fun w => .ok (addKey (keyAt keyed index) w) >>= fun w =>
          .ok (w.add (.appendElement tag))) >>= compileNodes keyed (index + 1) nodes := by
  rw [compileNodes, compileNode_element]

end Compile

theorem room_max {level a b : Nat} :
    level + max a b ≤ mostLevels ↔ level + a ≤ mostLevels ∧ level + b ≤ mostLevels := by
  omega

theorem emits_children {level : Nat} {nodes : List Node} {blocks : List Block}
    (inner : Emits level (compileNodes true 0 nodes) blocks) :
    Emits level (compileChildren nodes) (childBlocks nodes blocks) := by
  cases nodes with
  | nil => exact Emits.fixed (by simp [fixedStatements]) rfl
  | cons node rest =>
    exact inner.scope (Statement.legible_of_fixed (by simp [fixedStatements])) rfl

theorem emits_key {level : Nat} (keyed : Bool) (index : Nat) :
    Emits level (fun w => .ok (addKey (keyAt keyed index) w)) (keyBlocks keyed index) := by
  cases keyed with
  | false => exact .nothing
  | true => exact .line (Statement.legible_setAttr ..) rfl

mutual

/-- Compiling the nodes of an outline writes its blocks. -/
theorem Outline.emits {place : Place} (outline : Outline place) (keyed : Bool) (index level : Nat)
    (room : level + outline.depth ≤ mostLevels) :
    Emits level (compileNodes keyed index outline.nodes) (outline.blocks keyed index) := by
  match outline with
  | .done => exact .nothing
  | .text value rest =>
    exact (Emits.line (Statement.legible_appendText value) rfl).seq
      (rest.emits keyed (index + 1) level room)
  | .shown term rest =>
    have legible := Statement.legible_appendOperand term.legible_operand
    exact ((Emits.line legible rfl).seq (rest.emits keyed (index + 1) level room)).congr
      (compileNodes_shown keyed index term rest.nodes)
  | .comment text rest => exact rest.emits keyed (index + 1) level room
  | .element tag ns attrs children rest =>
    obtain ⟨rooms, roomLater⟩ := room_max.mp room
    obtain ⟨roomInner, roomNamed⟩ := room_max.mp rooms
    have attributes : Emits level (fun w => .ok (w.add .newAttrs)) [.statement .newAttrs] :=
      .fixed (by simp [fixedStatements]) rfl
    have element : Emits level (fun w => .ok (w.add (.appendElement tag)))
        [.statement (.appendElement tag)] := .line (Statement.legible_appendElement tag) rfl
    exact (((emits_children (children.emits true 0 level roomInner)).seq
      (attributes.seq ((attrs.emits level roomNamed).seq
        ((emits_key keyed index).seq element)))).seq
      (rest.emits keyed (index + 1) level roomLater)).congr
      (compileNodes_element keyed index rest.nodes · tag ns attrs.attrs children.nodes)
  | .choice condition body others rest =>
    obtain ⟨roomInner, roomLater⟩ := room_max.mp room
    -- The other branches stand on the level of the block, but their bodies are one further in.
    have roomBody : level + 1 + body.depth ≤ mostLevels := by omega
    have roomOthers : level + 1 + others.depth ≤ mostLevels := by omega
    refine (Emits.branches condition.legible_operand (by omega)
      (body.emits keyed (index + 1) (level + 1) roomBody)
      (others.emits keyed (index + 1 + body.nodes.length) level roomOthers)
      (rest.emits keyed (index + 1 + body.nodes.length + others.nodes.length + 1) level
        roomLater)).congr fun w => ?_
    -- What is compiled in one go is cut where the body and the other branches end.
    rw [Outline.nodes, compileNodes_if, compileNodes_append, bind_assoc, bind_assoc]
    refine congrArg _ (funext fun w => ?_)
    rw [compileNodes_append]
    rfl

theorem Branches.emits {place : Place} (branches : Branches place) (keyed : Bool)
    (index level : Nat) (room : level + 1 + branches.depth ≤ mostLevels) :
    EmitsArms level (compileNodes keyed index branches.nodes)
      (branches.blocks keyed index).1 (branches.blocks keyed index).2 := by
  match branches with
  | .done => exact .done
  | .otherwise body =>
    exact .last (by omega) (body.emits keyed (index + 1) (level + 1) room)
  | .further condition body others =>
    obtain ⟨roomBody, roomOthers⟩ := room_max.mp room
    refine (EmitsArms.further condition.legible_operand (by omega)
      (body.emits keyed (index + 1) (level + 1) roomBody)
      (others.emits keyed (index + 1 + body.nodes.length) level roomOthers)).congr
      fun w => ?_
    rw [Branches.nodes, compileNodes_elif, bind_assoc]
    exact congrArg _ (funext (compileNodes_append keyed (index + 1) body.nodes others.nodes))

theorem AttrOutline.emits (attrs : AttrOutline) (level : Nat)
    (room : level + attrs.depth ≤ mostLevels) :
    Emits level (compileAttrs attrs.attrs) attrs.blocks := by
  match attrs with
  | .done => exact .nothing
  | .plain name value rest =>
    exact (Emits.line (Statement.legible_setAttr (propName name) value) rfl).seq
      (rest.emits level room)
  | .parts name value rest =>
    obtain ⟨roomInner, roomLater⟩ := room_max.mp room
    exact ((value.emits false 0 level roomInner).scope
      (Statement.legible_joinAttr (propName name)) rfl).seq (rest.emits level roomLater)

end

end HtmlTemplate
