import HtmlTemplate.Proofs.Code.Emission
import HtmlTemplate.Proofs.Code.Spelling

/-!
The visit of a tree, as a list of events. An event adds a line, opens a block, goes on with it,
closes it, or is something that cannot be compiled. Compiling a tree is writing the events of its
visit one after the other. What one event does to the writer is said once: it adds the lines of its
statements, and keeps the indentation in step with the number of open blocks.
-/

namespace HtmlTemplate.Code

/-- A statement that opens no block. -/
abbrev PlainLine :=
  { statement : Statement // statement.isHeader = false ∧ statement.isDefined = true }

/-- A statement that opens a block. -/
abbrev Header :=
  { statement : Statement // statement.isHeader = true ∧ statement.isDefined = true }

inductive Event where
  | line (statement : PlainLine)
  | opens (header : Header)
  | continues (header : Header)
  | closes
  /-- Something that is neither a node nor an expression. -/
  | unknown (kind : String)

/-- What is written for an event. -/
def Event.write : Event → CodeWriter → Except CompileError CodeWriter
  | .line statement, w => .ok (w.add statement)
  | .opens header, w => .ok (w.openBlock header)
  | .continues header, w => w.continueBlock header
  | .closes, w => w.closeBlock
  | .unknown kind, _ => .error (.unknownNode kind)

def writeAll : List Event → CodeWriter → Except CompileError CodeWriter
  | [], w => .ok w
  | event :: rest, w => event.write w >>= writeAll rest

/-- The event that uses an expression. -/
def visitExpr (use : (operand : Operand) → operand.isDefined = true → Event) : Expr → List Event
  | .literal value => [use (.constant value) rfl]
  | .variable name => [use (.lookup name) rfl]
  | .foreign kind => [.unknown kind]

def visitTag : Tag → List Event
  | .ifTag condition =>
    visitExpr (fun operand defined => .opens ⟨.ifHeader (.operand operand), rfl, defined⟩) condition
  | .elifTag condition =>
    visitExpr (fun operand defined => .continues ⟨.elifHeader operand, rfl, defined⟩) condition
  | .elseTag => [.continues ⟨.elseHeader, rfl, rfl⟩]
  | .endIfTag => [.closes]
  | .expression body =>
    visitExpr (fun operand defined => .line ⟨.appendOperand operand, rfl, defined⟩) body
  | .comment _ => []

/-- The events of nodes that are collected on their own and then used. -/
def visitScope (inner : List Event) (use : PlainLine) : List Event :=
  .line ⟨.saveNodes, rfl, rfl⟩ :: .line ⟨.newNodes, rfl, rfl⟩ ::
    (inner ++ [.line use, .line ⟨.restoreNodes, rfl, rfl⟩])

def visitKey : Option Nat → List Event
  | some index => [.line ⟨.setAttr "key" (Decimal.writeInt index), rfl, rfl⟩]
  | none => []

/-- The events of the children of an element, once those of the children themselves are known. -/
def visitChildren (inner : List Event) : List Node → List Event
  | [] => [.line ⟨.noChildren, rfl, rfl⟩]
  | _ :: _ => visitScope inner ⟨.takeChildren, rfl, rfl⟩

mutual

/-- The events of a node, which has a key or none: children first, then attributes. -/
def visitNode : Node → (key : Option Nat) → List Event
  | .text value, _ => [.line ⟨.appendText value, rfl, rfl⟩]
  | .tag t, _ => visitTag t
  | .fragment children, _ => visitNodes (decide (children.length > 1)) 0 children
  | .foreign kind, _ => [.unknown kind]
  | .element label _ attrs children, key =>
    visitChildren (visitNodes true 0 children) children ++ .line ⟨.newAttrs, rfl, rfl⟩ ::
      (visitAttrs attrs ++ (visitKey key ++ [.line ⟨.appendElement label, rfl, rfl⟩]))
termination_by structural node => node

def visitNodes (keyed : Bool) (index : Nat) : List Node → List Event
  | [] => []
  | node :: rest => visitNode node (keyAt keyed index) ++ visitNodes keyed (index + 1) rest
termination_by structural nodes => nodes

def visitAttr : Attr → List Event
  | .plain name value => [.line ⟨.setAttr (propName name) value, rfl, rfl⟩]
  | .parts name value =>
    visitScope (visitNodes false 0 value) ⟨.joinAttr (propName name), rfl, rfl⟩
termination_by structural attr => attr

def visitAttrs : List Attr → List Event
  | [] => []
  | attr :: rest => visitAttr attr ++ visitAttrs rest
termination_by structural attrs => attrs

end

theorem writeAll_append (front back : List Event) (w : CodeWriter) :
    writeAll (front ++ back) w = writeAll front w >>= writeAll back := by
  induction front generalizing w with
  | nil => rfl
  | cons event rest ih =>
    rw [List.cons_append, writeAll, writeAll, bind_assoc]
    exact congrArg _ (funext ih)

theorem compileTag_eq_writeAll (tag : Tag) (w : CodeWriter) :
    compileTag tag w = writeAll (visitTag tag) w := by
  match tag with
  | .ifTag (.literal _) | .ifTag (.variable _) | .ifTag (.foreign _) => rfl
  -- A step that can fail is followed by writing nothing more.
  | .elifTag (.literal _) | .elifTag (.variable _) => exact (bind_pure _).symm
  | .elifTag (.foreign _) => rfl
  | .elseTag => exact (bind_pure _).symm
  | .endIfTag => exact (bind_pure _).symm
  | .expression (.literal _) | .expression (.variable _) | .expression (.foreign _) => rfl
  | .comment _ => rfl

theorem writeAll_scope (inner : List Event) (use : PlainLine) (w : CodeWriter) :
    writeAll (visitScope inner use) w =
      writeAll inner (openScope w) >>= fun w => .ok (closeScope w use) := by
  show writeAll (inner ++ _) (openScope w) = _
  rw [writeAll_append]
  rfl

theorem compileChildren_eq_writeAll {nodes : List Node} {inner : List Event}
    (same : ∀ w, compileNodes true 0 nodes w = writeAll inner w) (w : CodeWriter) :
    compileChildren nodes w = writeAll (visitChildren inner nodes) w := by
  cases nodes with
  | nil => rfl
  | cons node rest => rw [compileChildren, visitChildren, writeAll_scope, same]

/-- What is written of an element when its children are done. -/
theorem writeAll_attrs (attrs : List Event) (key : Option Nat) (element : PlainLine)
    (w : CodeWriter) :
    writeAll (.line ⟨.newAttrs, rfl, rfl⟩ :: (attrs ++ (visitKey key ++ [.line element]))) w =
      writeAll attrs (w.add .newAttrs) >>= fun w => .ok ((addKey key w).add element) := by
  show writeAll (attrs ++ _) (w.add .newAttrs) = _
  rw [writeAll_append]
  -- Behind the attributes nothing can fail, with or without a key.
  refine congrArg _ (funext fun w => ?_)
  cases key <;> rfl

mutual

/-- Compiling a node is writing the events of its visit. -/
theorem compileNode_eq_writeAll (node : Node) (key : Option Nat) (w : CodeWriter) :
    compileNode node key w = writeAll (visitNode node key) w := by
  match node with
  | .text value => rfl
  | .tag t => exact compileTag_eq_writeAll t w
  | .fragment children => exact compileNodes_eq_writeAll _ 0 children w
  | .foreign kind => rfl
  | .element label ns attrs children =>
    have inner := compileChildren_eq_writeAll (compileNodes_eq_writeAll true 0 children) w
    have named := compileAttrs_eq_writeAll attrs
    rw [compileNode_element, visitNode, writeAll_append, inner]
    -- Both sides go on from what the children have left in the writer.
    refine congrArg _ (funext fun w => ?_)
    rw [ok_bind, named, writeAll_attrs]
    rfl
termination_by structural node

theorem compileNodes_eq_writeAll (keyed : Bool) (index : Nat) (nodes : List Node)
    (w : CodeWriter) :
    compileNodes keyed index nodes w = writeAll (visitNodes keyed index nodes) w := by
  match nodes with
  | [] => rfl
  | node :: rest =>
    rw [compileNodes, visitNodes, writeAll_append, compileNode_eq_writeAll node]
    exact congrArg _ (funext (compileNodes_eq_writeAll keyed (index + 1) rest))
termination_by structural nodes

theorem compileAttr_eq_writeAll (attr : Attr) (w : CodeWriter) :
    compileAttr attr w = writeAll (visitAttr attr) w := by
  match attr with
  | .plain name value => rfl
  | .parts name value =>
    rw [compileAttr, visitAttr, writeAll_scope, compileNodes_eq_writeAll false 0 value]
    rfl
termination_by structural attr

theorem compileAttrs_eq_writeAll (attrs : List Attr) (w : CodeWriter) :
    compileAttrs attrs w = writeAll (visitAttrs attrs) w := by
  match attrs with
  | [] => rfl
  | attr :: rest =>
    rw [compileAttrs, visitAttrs, writeAll_append, compileAttr_eq_writeAll attr]
    exact congrArg _ (funext (compileAttrs_eq_writeAll rest))
termination_by structural attrs

end

/-- The statements that an event puts on lines. -/
def Event.statements : Event → List Statement
  | .line statement => [statement]
  | .opens header => [header, .pass]
  | .continues header => [header, .pass]
  | .closes => []
  | .unknown _ => []

/-- The indentation of a writer inside a routine goes with the number of its open blocks. -/
def Writer.Level (w : CodeWriter) : Prop := w.indent = 4 * (1 + (w.blocks : Int))

/-- What writing does: it adds lines of some statements, and ends with a fitting indentation. -/
structure Wrote (w w' : CodeWriter) (statements : List Statement) : Prop where
  level : w'.Level
  lines : ∃ lines, w'.lines.toList = w.lines.toList ++ heldLines lines ∧
    lines.map Prod.snd = statements

theorem Wrote.trans {w₁ w₂ w₃ : CodeWriter} {first second : List Statement}
    (before : Wrote w₁ w₂ first) (after : Wrote w₂ w₃ second) :
    Wrote w₁ w₃ (first ++ second) := by
  obtain ⟨front, heldFront, statementsFront⟩ := before.lines
  obtain ⟨back, heldBack, statementsBack⟩ := after.lines
  refine ⟨after.level, front ++ back, ?_, ?_⟩
  · rw [heldBack, heldFront, List.append_assoc, heldLines, heldLines, heldLines, List.map_append]
  · rw [List.map_append, statementsFront, statementsBack]

theorem Wrote.addAll {w w' : CodeWriter} (lines : List (Nat × Statement)) (level : w'.Level)
    (added : w'.lines = (w.addAll lines).lines) : Wrote w w' (lines.map Prod.snd) :=
  ⟨level, lines, by simp [added, Writer.addAll], rfl⟩

theorem blocks_of_continueBlock {w w' : CodeWriter} {header : Statement}
    (written : w.continueBlock header = .ok w') : w.blocks ≠ 0 ∧ w'.blocks = w.blocks := by
  unfold Writer.continueBlock at written
  split at written
  · cases written
  next inside =>
    cases written
    exact ⟨inside, rfl⟩

theorem blocks_of_closeBlock {w w' : CodeWriter} (written : w.closeBlock = .ok w') :
    w.blocks ≠ 0 ∧ w' = { w.shallower with blocks := w.blocks - 1 } := by
  unfold Writer.closeBlock at written
  split at written
  · cases written
  next inside =>
    cases written
    exact ⟨inside, rfl⟩

/-- The step: an event that is written adds the lines of its statements. -/
theorem Event.wrote {event : Event} {w w' : CodeWriter} (level : w.Level)
    (written : event.write w = .ok w') : Wrote w w' event.statements := by
  -- The levels are natural numbers, and so are the columns that lines are laid out with.
  have deep : w.indent = (4 * (1 + w.blocks) : Nat) := by
    rw [level]
    omega
  cases event with
  | line statement =>
    cases written
    exact Wrote.addAll [(4 * (1 + w.blocks), statement.val)] level
      (congrArg Writer.lines (w.add_eq_addAll deep statement))
  | opens header =>
    cases written
    refine Wrote.addAll [(4 * (1 + w.blocks), header.val), (4 * (1 + w.blocks) + 4, .pass)] ?_
      (by rw [openBlock_eq deep])
    rw [openBlock_eq deep, Writer.Level]
    push_cast
    omega
  | continues header =>
    have inside := (blocks_of_continueBlock written).1
    -- The header of a branch stands one level further out than the writer is.
    have within : w.indent = (4 * w.blocks + 4 : Nat) := by
      rw [deep]
      omega
    simp only [Event.write, continueBlock_eq within inside] at written
    cases written
    exact Wrote.addAll [(4 * w.blocks, header.val), (4 * w.blocks + 4, .pass)] level rfl
  | closes =>
    obtain ⟨inside, rfl⟩ := blocks_of_closeBlock written
    -- Nothing is written, but the indentation follows the number of blocks down.
    refine Wrote.addAll [] ?_ (by rw [Writer.addAll_nil, Writer.shallower])
    simp only [Writer.Level, Writer.shallower, Writer.indentStep, deep]
    omega
  | unknown kind => cases written

/-- The run: events that are written add the lines of their statements. -/
theorem wrote_writeAll {events : List Event} {w w' : CodeWriter} (level : w.Level)
    (written : writeAll events w = .ok w') : Wrote w w' (events.flatMap Event.statements) := by
  induction events generalizing w with
  | nil =>
    cases written
    exact Wrote.addAll [] level (by rw [Writer.addAll_nil])
  | cons event rest ih =>
    obtain ⟨between, first, later⟩ := exists_of_bind written
    have step := Event.wrote level first
    exact step.trans (ih step.level later)

theorem level_prologue : prologue.Level := rfl

/-- A tree is compiled if its visit can be written and leaves no block open. -/
theorem compile_eq_ok_iff {fragmentTag : String} {root : Node} {source : String} :
    compile fragmentTag root = .ok source ↔
      ∃ w, writeAll (visitNode root none) prologue = .ok w ∧ w.blocks = 0 ∧
        (epilogue fragmentTag w).text = source := by
  rw [compile, compileLines, compileNode_eq_writeAll]
  cases writeAll (visitNode root none) prologue with
  | error e =>
    constructor
    · intro accepted
      cases accepted
    · rintro ⟨w, written, -⟩
      cases written
  | ok w =>
    rw [ok_bind]
    -- Writing has come to its end, so all depends on the blocks that are still open.
    by_cases closed : w.blocks = 0
    · rw [if_pos closed]
      constructor
      · intro accepted
        cases accepted
        exact ⟨w, rfl, closed, rfl⟩
      · rintro ⟨w, written, -, rfl⟩
        cases written
        rfl
    · rw [if_neg closed]
      constructor
      · intro accepted
        cases accepted
      · rintro ⟨w, written, none, -⟩
        cases written
        exact absurd none closed

/-- The lines that a routine starts with. -/
def firstLines : List (Nat × Statement) := [(0, .define), (4, .newNodes), (4, .newStack)]

/-- The lines that a routine ends with. -/
def lastLines (fragmentTag : String) : List (Nat × Statement) :=
  [(4, .ifHeader .oneNode), (8, .returnFirst), (4, .ifHeader .noNodes), (8, .returnNone),
    (4, .returnWrapped fragmentTag)]

theorem lines_epilogue (fragmentTag : String) {w : CodeWriter} (deep : w.indent = 4) :
    (epilogue fragmentTag w).lines.toList =
      w.lines.toList ++ heldLines (lastLines fragmentTag) := by
  simp [epilogue, Writer.add, Writer.deeper, Writer.shallower, Writer.indentStep, deep, heldLines,
    lastLines]

/-- The statements of the routine of a tree, line by line. -/
def visited (fragmentTag : String) (root : Node) : List Statement :=
  firstLines.map Prod.snd ++ (visitNode root none).flatMap Event.statements ++
    (lastLines fragmentTag).map Prod.snd

theorem isDefined_statements {event : Event} {statement : Statement}
    (member : statement ∈ event.statements) : statement.isDefined = true := by
  cases event with
  | line line =>
    rw [List.mem_singleton.mp member]
    exact line.2.2
  | opens header =>
    rcases List.mem_cons.mp member with rfl | member
    · exact header.2.2
    · rw [List.mem_singleton.mp member]
      rfl
  | continues header =>
    rcases List.mem_cons.mp member with rfl | member
    · exact header.2.2
    · rw [List.mem_singleton.mp member]
      rfl
  | closes => cases member
  | unknown kind => cases member

theorem isDefined_visited (fragmentTag : String) (root : Node) :
    ∀ statement ∈ visited fragmentTag root, statement.isDefined = true := by
  have first : ∀ statement ∈ firstLines.map Prod.snd, statement.isDefined = true := by decide
  have inner : ∀ statement ∈ (visitNode root none).flatMap Event.statements,
      statement.isDefined = true := by
    intro statement member
    obtain ⟨event, -, of⟩ := List.mem_flatMap.mp member
    exact isDefined_statements of
  have last : ∀ statement ∈ (lastLines fragmentTag).map Prod.snd,
      statement.isDefined = true := by
    simp [lastLines, Statement.isDefined]
  exact List.forall_mem_append.mpr ⟨List.forall_mem_append.mpr ⟨first, inner⟩, last⟩

/-- The lines of the source of a tree are the statements of its visit, one on each line. -/
theorem sourceLines_visited (fragmentTag : String) {root : Node} {w : CodeWriter}
    (written : writeAll (visitNode root none) prologue = .ok w) (closed : w.blocks = 0) :
    ∃ lines, (epilogue fragmentTag w).lines.toList = heldLines lines ∧
      sourceLines (epilogue fragmentTag w).text.toList = numbered 1 lines ∧
      lines.map Prod.snd = visited fragmentTag root := by
  obtain ⟨level, lines, held, statements⟩ := wrote_writeAll level_prologue written
  have deep : w.indent = 4 := by
    rw [level, closed]
    rfl
  -- A closed writer is back on the level of the routine, where the last lines go.
  have whole : (epilogue fragmentTag w).lines.toList =
      heldLines (firstLines ++ lines ++ lastLines fragmentTag) := by
    rw [lines_epilogue fragmentTag deep, held]
    simp [heldLines, firstLines, prologue, Writer.add, Writer.deeper, Writer.indentStep]
  have same : (firstLines ++ lines ++ lastLines fragmentTag).map Prod.snd =
      visited fragmentTag root := by
    rw [List.map_append, List.map_append, statements, visited]
  refine ⟨_, whole, sourceLines_text whole fun line member => ?_, same⟩
  apply Statement.oneLine_of_isDefined
  exact isDefined_visited fragmentTag root _ (same ▸ List.mem_map_of_mem member)

end HtmlTemplate.Code
