import HtmlTemplate.Proofs.Code.Visit

/-!
The balance of branches. The tags that open, continue and close blocks can be read in two orders: as
a template writes them, the attributes of an element before its children, and as a tree is visited,
children first. What is compiled is balanced in the second order, since the writer counts the blocks
that are open. The first order follows only where no block reaches from the attributes of an element
into its children.
-/

namespace HtmlTemplate

/-- What a tag does to the block of branches around it. -/
inductive Control where
  | opens
  | further
  | otherwise
  | closes
  deriving DecidableEq, Repr

def Tag.control? : Tag → Option Control
  | .ifTag _ => some .opens
  | .elifTag _ => some .further
  | .elseTag => some .otherwise
  | .endIfTag => some .closes
  | .expression _ => none
  | .comment _ => none

/-- The orders in which an element can be read: its attributes first, or its children. -/
inductive Order where
  | written
  | visited
  deriving DecidableEq, Repr

def Order.join (order : Order) (attrs children : List Tag) : List Tag :=
  match order with
  | .written => attrs ++ children
  | .visited => children ++ attrs

mutual

/-- The tags of a tree, in an order. -/
def Node.tags (order : Order) : Node → List Tag
  | .text _ => []
  | .tag t => [t]
  | .element _ _ attrs children => order.join (attrsTags order attrs) (nodesTags order children)
  | .fragment children => nodesTags order children
  | .foreign _ => []
termination_by structural node => node

def nodesTags (order : Order) : List Node → List Tag
  | [] => []
  | node :: rest => node.tags order ++ nodesTags order rest
termination_by structural nodes => nodes

def Attr.tags (order : Order) : Attr → List Tag
  | .plain _ _ => []
  | .parts _ value => nodesTags order value
termination_by structural attr => attr

def attrsTags (order : Order) : List Attr → List Tag
  | [] => []
  | attr :: rest => attr.tags order ++ attrsTags order rest
termination_by structural attrs => attrs

end

/-- The control tags among tags. -/
def controlsIn (tags : List Tag) : List Control := tags.filterMap Tag.control?

theorem controlsIn_append (front back : List Tag) :
    controlsIn (front ++ back) = controlsIn front ++ controlsIn back :=
  List.filterMap_append

theorem controlsIn_singleton (tag : Tag) : controlsIn [tag] = tag.control?.toList := by
  rw [controlsIn, List.filterMap_cons, List.filterMap_nil]
  cases tag.control? <;> rfl

/-- The control tags of a tree, in an order. -/
def Node.controls (order : Order) (node : Node) : List Control := controlsIn (node.tags order)

/-- The number of open blocks after a control tag, if there is a block for it. -/
def Control.step (blocks : Nat) : Control → Option Nat
  | .opens => some (blocks + 1)
  | .closes => if blocks = 0 then none else some (blocks - 1)
  | .further => if blocks = 0 then none else some blocks
  | .otherwise => if blocks = 0 then none else some blocks

/-- The number of open blocks after some control tags. -/
def openAfter : (blocks : Nat) → List Control → Option Nat
  | blocks, [] => some blocks
  | blocks, control :: rest => (control.step blocks).bind fun blocks => openAfter blocks rest

/-- Every tag that continues or closes a block has one that is open, and every block is closed. -/
def Balanced (controls : List Control) : Prop := openAfter 0 controls = some 0

instance (controls : List Control) : Decidable (Balanced controls) :=
  inferInstanceAs (Decidable (openAfter 0 controls = some 0))

theorem openAfter_append (blocks : Nat) (front back : List Control) :
    openAfter blocks (front ++ back) =
      (openAfter blocks front).bind fun blocks => openAfter blocks back := by
  induction front generalizing blocks with
  | nil => rfl
  | cons control rest ih =>
    rw [List.cons_append, openAfter, openAfter, Option.bind_assoc]
    exact congrArg _ (funext ih)

theorem Control.step_add {control : Control} {blocks after : Nat}
    (step : control.step blocks = some after) (outer : Nat) :
    control.step (blocks + outer) = some (after + outer) := by
  cases control <;> simp only [Control.step] at step ⊢ <;> grind

/-- Blocks that are open further out make no difference. -/
theorem openAfter_add {controls : List Control} {blocks after : Nat}
    (opened : openAfter blocks controls = some after) (outer : Nat) :
    openAfter (blocks + outer) controls = some (after + outer) := by
  induction controls generalizing blocks with
  | nil =>
    cases opened
    rfl
  | cons control rest ih =>
    obtain ⟨between, step, later⟩ := Option.bind_eq_some_iff.mp opened
    rw [openAfter, Control.step_add step outer]
    exact ih later

theorem Balanced.openAfter {controls : List Control} (balanced : Balanced controls)
    (blocks : Nat) : openAfter blocks controls = some blocks := by
  have opened := openAfter_add balanced blocks
  rwa [Nat.zero_add] at opened

end HtmlTemplate

namespace HtmlTemplate.Code

def Event.control? : Event → Option Control
  | .line _ => none
  | .opens _ => some .opens
  | .continues ⟨.elseHeader, _⟩ => some .otherwise
  | .continues _ => some .further
  | .closes => some .closes
  | .unknown _ => none

def Event.isKnown : Event → Bool
  | .unknown _ => false
  | _ => true

/-- Events all of which can be compiled. -/
def Known (events : List Event) : Prop := ∀ event ∈ events, event.isKnown = true

theorem known_append {front back : List Event} :
    Known (front ++ back) ↔ Known front ∧ Known back :=
  List.forall_mem_append

theorem known_cons {event : Event} {rest : List Event} :
    Known (event :: rest) ↔ event.isKnown = true ∧ Known rest :=
  List.forall_mem_cons

/-- The control tags among events. -/
def controlsOf (events : List Event) : List Control := events.filterMap Event.control?

theorem controlsOf_append (front back : List Event) :
    controlsOf (front ++ back) = controlsOf front ++ controlsOf back :=
  List.filterMap_append

theorem controlsOf_cons (event : Event) (rest : List Event) :
    controlsOf (event :: rest) = event.control?.toList ++ controlsOf rest := by
  rw [controlsOf, List.filterMap_cons]
  cases event.control? <;> rfl

theorem controlsOf_line (statement : PlainLine) (rest : List Event) :
    controlsOf (.line statement :: rest) = controlsOf rest := rfl

/-- The step: what an event does to the number of open blocks. -/
theorem Event.openAfter {event : Event} {w w' : CodeWriter} (written : event.write w = .ok w') :
    event.isKnown = true ∧ openAfter w.blocks event.control?.toList = some w'.blocks := by
  cases event with
  | line statement =>
    cases written
    exact ⟨rfl, rfl⟩
  | opens header =>
    cases written
    exact ⟨rfl, rfl⟩
  | continues header =>
    obtain ⟨inside, same⟩ := blocks_of_continueBlock written
    obtain ⟨header, opens⟩ := header
    rw [same]
    refine ⟨rfl, ?_⟩
    -- Whatever its header, a branch leaves the number of open blocks as it is.
    cases header <;> simp [Event.control?, HtmlTemplate.openAfter, Control.step, inside]
  | closes =>
    obtain ⟨inside, rfl⟩ := blocks_of_closeBlock written
    exact ⟨rfl, by simp [Event.control?, HtmlTemplate.openAfter, Control.step, inside]⟩
  | unknown kind => cases written

/-- The run: events that are written are known, and their control tags find their blocks. -/
theorem openAfter_of_written {events : List Event} {w w' : CodeWriter}
    (written : writeAll events w = .ok w') :
    Known events ∧ openAfter w.blocks (controlsOf events) = some w'.blocks := by
  induction events generalizing w with
  | nil =>
    cases written
    exact ⟨List.forall_mem_nil _, rfl⟩
  | cons event rest ih =>
    obtain ⟨between, first, later⟩ := exists_of_bind written
    obtain ⟨known, step⟩ := Event.openAfter first
    obtain ⟨others, run⟩ := ih later
    refine ⟨known_cons.mpr ⟨known, others⟩, ?_⟩
    rw [controlsOf_cons, openAfter_append, step]
    exact run

theorem controlsOf_visitTag {tag : Tag} (known : Known (visitTag tag)) :
    controlsOf (visitTag tag) = controlsIn [tag] := by
  match tag with
  | .ifTag (.literal _) | .ifTag (.variable _) => rfl
  | .elifTag (.literal _) | .elifTag (.variable _) => rfl
  | .elseTag => rfl
  | .endIfTag => rfl
  | .expression (.literal _) | .expression (.variable _) => rfl
  | .comment _ => rfl
  | .ifTag (.foreign _) | .elifTag (.foreign _) | .expression (.foreign _) =>
    -- An expression that is none is not known, and neither is the event that uses it.
    exact Bool.noConfusion (known _ List.mem_cons_self)

theorem known_visitScope {inner : List Event} {use : PlainLine}
    (known : Known (visitScope inner use)) : Known inner :=
  (known_append.mp (known_cons.mp (known_cons.mp known).2).2).1

theorem controlsOf_visitScope (inner : List Event) (use : PlainLine) :
    controlsOf (visitScope inner use) = controlsOf inner := by
  rw [visitScope, controlsOf_line, controlsOf_line, controlsOf_append]
  exact List.append_nil _

theorem controlsOf_visitKey (key : Option Nat) : controlsOf (visitKey key) = [] := by
  cases key <;> rfl

mutual

/-- The control tags of a tree, children before attributes, are met in this order in its visit. -/
theorem controlsOf_visitNode (node : Node) (key : Option Nat)
    (known : Known (visitNode node key)) :
    controlsOf (visitNode node key) = controlsIn (node.tags .visited) := by
  match node with
  | .text value => rfl
  | .tag t => exact controlsOf_visitTag known
  | .fragment children => exact controlsOf_visitNodes _ 0 children known
  | .foreign kind => exact Bool.noConfusion (known _ List.mem_cons_self)
  | .element label ns attrs children =>
    obtain ⟨inner, named⟩ := known_append.mp known
    obtain ⟨named, -⟩ := known_append.mp (known_cons.mp named).2
    have body : controlsOf (visitChildren (visitNodes true 0 children) children) =
        controlsIn (nodesTags .visited children) := by
      cases children with
      | nil => rfl
      | cons node rest =>
        rw [visitChildren, controlsOf_visitScope]
        exact controlsOf_visitNodes true 0 (node :: rest) (known_visitScope inner)
    -- The lines around the children and the attributes control nothing.
    rw [visitNode, controlsOf_append, body, controlsOf_line, controlsOf_append,
      controlsOf_visitAttrs attrs named, controlsOf_append, controlsOf_visitKey, Node.tags,
      Order.join, controlsIn_append]
    exact congrArg _ (List.append_nil _)
termination_by structural node

theorem controlsOf_visitNodes (keyed : Bool) (index : Nat) (nodes : List Node)
    (known : Known (visitNodes keyed index nodes)) :
    controlsOf (visitNodes keyed index nodes) = controlsIn (nodesTags .visited nodes) := by
  match nodes with
  | [] => rfl
  | node :: rest =>
    obtain ⟨first, others⟩ := known_append.mp known
    rw [visitNodes, controlsOf_append, controlsOf_visitNode node _ first,
      controlsOf_visitNodes keyed (index + 1) rest others, nodesTags, controlsIn_append]
termination_by structural nodes

theorem controlsOf_visitAttr (attr : Attr) (known : Known (visitAttr attr)) :
    controlsOf (visitAttr attr) = controlsIn (attr.tags .visited) := by
  match attr with
  | .plain name value => rfl
  | .parts name value =>
    rw [visitAttr, controlsOf_visitScope]
    exact controlsOf_visitNodes false 0 value (known_visitScope known)
termination_by structural attr

theorem controlsOf_visitAttrs (attrs : List Attr) (known : Known (visitAttrs attrs)) :
    controlsOf (visitAttrs attrs) = controlsIn (attrsTags .visited attrs) := by
  match attrs with
  | [] => rfl
  | attr :: rest =>
    obtain ⟨first, others⟩ := known_append.mp known
    rw [visitAttrs, controlsOf_append, controlsOf_visitAttr attr first,
      controlsOf_visitAttrs rest others, attrsTags, controlsIn_append]
termination_by structural attrs

end

end HtmlTemplate.Code

namespace HtmlTemplate

open Code

mutual

/-- Of every element, the attributes or the children are balanced by themselves, so that no block
reaches from the ones into the others. -/
def Node.Apart : Node → Prop
  | .text _ => True
  | .tag _ => True
  | .element _ _ attrs children =>
    (Balanced (controlsIn (attrsTags .written attrs)) ∨
        Balanced (controlsIn (nodesTags .written children))) ∧
      attrsApart attrs ∧ nodesApart children
  | .fragment children => nodesApart children
  | .foreign _ => True
termination_by structural node => node

def nodesApart : List Node → Prop
  | [] => True
  | node :: rest => node.Apart ∧ nodesApart rest
termination_by structural nodes => nodes

def Attr.Apart : Attr → Prop
  | .plain _ _ => True
  | .parts _ value => nodesApart value
termination_by structural attr => attr

def attrsApart : List Attr → Prop
  | [] => True
  | attr :: rest => attr.Apart ∧ attrsApart rest
termination_by structural attrs => attrs

end

theorem openAfter_append_comm {front back : List Tag}
    (apart : Balanced (controlsIn front) ∨ Balanced (controlsIn back)) (blocks : Nat) :
    openAfter blocks (controlsIn (front ++ back)) =
      openAfter blocks (controlsIn (back ++ front)) := by
  rw [controlsIn_append, openAfter_append, controlsIn_append, openAfter_append]
  -- The balanced part leaves the number of blocks alone, in front of the other or behind it.
  rcases apart with balanced | balanced
  · simp only [balanced.openAfter, Option.bind_some, Option.bind_fun_some]
  · simp only [balanced.openAfter, Option.bind_some, Option.bind_fun_some]

theorem openAfter_append_congr {front front' back back' : List Tag}
    (first : ∀ blocks, openAfter blocks (controlsIn front) = openAfter blocks (controlsIn front'))
    (second : ∀ blocks, openAfter blocks (controlsIn back) = openAfter blocks (controlsIn back'))
    (blocks : Nat) :
    openAfter blocks (controlsIn (front ++ back)) =
      openAfter blocks (controlsIn (front' ++ back')) := by
  rw [controlsIn_append, openAfter_append, controlsIn_append, openAfter_append, first,
    funext second]

mutual

/-- Where no block reaches from attributes into children, both orders open the same blocks. -/
theorem openAfter_tags (node : Node) (apart : node.Apart) (blocks : Nat) :
    openAfter blocks (controlsIn (node.tags .written)) =
      openAfter blocks (controlsIn (node.tags .visited)) := by
  match node with
  | .text value => rfl
  | .tag t => rfl
  | .fragment children => exact openAfter_nodesTags children apart blocks
  | .foreign kind => rfl
  | .element label ns attrs children =>
    obtain ⟨either, named, inner⟩ := apart
    calc openAfter blocks (controlsIn (attrsTags .written attrs ++ nodesTags .written children))
      _ = openAfter blocks (controlsIn (nodesTags .written children ++ attrsTags .written attrs)) :=
        openAfter_append_comm either blocks
      _ = openAfter blocks (controlsIn (nodesTags .visited children ++ attrsTags .visited attrs)) :=
        openAfter_append_congr (openAfter_nodesTags children inner)
          (openAfter_attrsTags attrs named) blocks
termination_by structural node

theorem openAfter_nodesTags (nodes : List Node) (apart : nodesApart nodes) (blocks : Nat) :
    openAfter blocks (controlsIn (nodesTags .written nodes)) =
      openAfter blocks (controlsIn (nodesTags .visited nodes)) := by
  match nodes with
  | [] => rfl
  | node :: rest =>
    exact openAfter_append_congr (openAfter_tags node apart.1)
      (openAfter_nodesTags rest apart.2) blocks
termination_by structural nodes

theorem openAfter_attrTags (attr : Attr) (apart : attr.Apart) (blocks : Nat) :
    openAfter blocks (controlsIn (attr.tags .written)) =
      openAfter blocks (controlsIn (attr.tags .visited)) := by
  match attr with
  | .plain name value => rfl
  | .parts name value => exact openAfter_nodesTags value apart blocks
termination_by structural attr

theorem openAfter_attrsTags (attrs : List Attr) (apart : attrsApart attrs) (blocks : Nat) :
    openAfter blocks (controlsIn (attrsTags .written attrs)) =
      openAfter blocks (controlsIn (attrsTags .visited attrs)) := by
  match attrs with
  | [] => rfl
  | attr :: rest =>
    exact openAfter_append_congr (openAfter_attrTags attr apart.1)
      (openAfter_attrsTags rest apart.2) blocks
termination_by structural attrs

end

theorem balanced_of_compile {fragmentTag source : String} {root : Node}
    (accepted : compile fragmentTag root = .ok source) : Balanced (root.controls .visited) := by
  obtain ⟨w, written, closed, -⟩ := compile_eq_ok_iff.mp accepted
  obtain ⟨known, opened⟩ := openAfter_of_written written
  rw [controlsOf_visitNode root none known, closed] at opened
  exact opened

/-- A tree that is compiled has its control tags balanced in the order of the visit, children before
attributes. In the order of the template they are balanced as well, if no block reaches from the
attributes of an element into its children. -/
theorem compile_balances_visit {fragmentTag source : String} {root : Node}
    (accepted : compile fragmentTag root = .ok source) :
    Balanced (root.controls .visited) ∧ (root.Apart → Balanced (root.controls .written)) := by
  have balanced := balanced_of_compile accepted
  refine ⟨balanced, fun apart => ?_⟩
  rw [Balanced, Node.controls, openAfter_tags root apart]
  exact balanced

/-- A block in an attribute, and one among the children that goes on inside a child. -/
def innerElse : Node :=
  .fragment
    [.element "p" none
      [.parts "title" [.tag (.ifTag (.variable "named")), .text "news", .tag .endIfTag]]
      [.tag (.ifTag (.variable "open")), .text "today",
        .element "b" none [] [.tag .elseTag, .text "later"], .tag .endIfTag]]

theorem compile_balances_innerElse : ∃ source, compile "div" innerElse = .ok source ∧
    innerElse.Apart ∧ Balanced (innerElse.controls .visited) ∧
    Balanced (innerElse.controls .written) := by
  have accepted : ∃ source, compile "div" innerElse = .ok source := ⟨_, rfl⟩
  have apart : innerElse.Apart := by
    simp [innerElse, Node.Apart, nodesApart, attrsApart, Attr.Apart, attrsTags]
    decide
  obtain ⟨source, accepted⟩ := accepted
  obtain ⟨visited, written⟩ := compile_balances_visit accepted
  exact ⟨source, accepted, apart, visited, written apart⟩

/-- A block that is opened and continued among the children of an element, and closed in the
attribute in front of them. -/
def lateEnd : Node :=
  .fragment
    [.element "p" none [.parts "title" [.text "news", .tag .endIfTag]]
      [.tag (.ifTag (.variable "open")), .text "today", .tag .elseTag]]

/-- The tag that closes a block stands in front of the tag that opens it, and is accepted. -/
theorem compile_accepts_lateEnd :
    (∃ source, compile "div" lateEnd = .ok source) ∧ ¬ Balanced (lateEnd.controls .written) :=
  ⟨⟨_, rfl⟩, by decide⟩

end HtmlTemplate
