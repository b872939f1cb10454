import HtmlTemplate.Proofs.Code.Visit

/-!
The literals of a routine. Whatever text a template holds, it stands in the routine as the inside of
a literal: the lines of the source, taken apart into code and literals, give back the strings of the
tree in the order of its visit, and nothing else.
-/

namespace HtmlTemplate.Code

def exprStrings : Expr → List String
  | .literal value => (Operand.constant value).strings
  | .variable name => [name]
  | .foreign _ => []

def tagStrings : Tag → List String
  | .ifTag condition => exprStrings condition
  | .elifTag condition => exprStrings condition
  | .expression body => exprStrings body
  | _ => []

def keyStrings : Option Nat → List String
  | some index => ["key", Decimal.writeInt index]
  | none => []

mutual

/-- The strings of a node, which has a key or none, in the order of the visit. -/
def nodeStrings : Node → (key : Option Nat) → List String
  | .text value, _ => [value]
  | .tag t, _ => tagStrings t
  | .fragment children, _ => nodesStrings (decide (children.length > 1)) 0 children
  | .foreign _, _ => []
  | .element label _ attrs children, key =>
    nodesStrings true 0 children ++ (attrsStrings attrs ++ (keyStrings key ++ [label]))
termination_by structural node => node

def nodesStrings (keyed : Bool) (index : Nat) : List Node → List String
  | [] => []
  | node :: rest => nodeStrings node (keyAt keyed index) ++ nodesStrings keyed (index + 1) rest
termination_by structural nodes => nodes

def attrStrings : Attr → List String
  | .plain name value => [propName name, value]
  -- The parts are joined by the method of an empty text.
  | .parts name value => nodesStrings false 0 value ++ [propName name, ""]
termination_by structural attr => attr

def attrsStrings : List Attr → List String
  | [] => []
  | attr :: rest => attrStrings attr ++ attrsStrings rest
termination_by structural attrs => attrs

end

/-- The strings on the lines of events. -/
def eventStrings (events : List Event) : List String :=
  (events.flatMap Event.statements).flatMap Statement.strings

theorem eventStrings_append (front back : List Event) :
    eventStrings (front ++ back) = eventStrings front ++ eventStrings back := by
  simp only [eventStrings, List.flatMap_append]

theorem eventStrings_line (statement : PlainLine) (rest : List Event) :
    eventStrings (.line statement :: rest) = statement.val.strings ++ eventStrings rest := by
  simp only [eventStrings, List.flatMap_cons, Event.statements, List.flatMap_append,
    List.flatMap_nil, List.append_nil]

theorem eventStrings_tag (tag : Tag) : eventStrings (visitTag tag) = tagStrings tag := by
  match tag with
  | .ifTag (.literal _) | .elifTag (.literal _) | .expression (.literal _) =>
    exact List.append_nil _
  | .ifTag (.variable _) | .elifTag (.variable _) | .expression (.variable _) => rfl
  | .ifTag (.foreign _) | .elifTag (.foreign _) | .expression (.foreign _) => rfl
  | .elseTag | .endIfTag | .comment _ => rfl

theorem eventStrings_scope (inner : List Event) (use : PlainLine) :
    eventStrings (visitScope inner use) = eventStrings inner ++ use.val.strings := by
  rw [visitScope, eventStrings_line, eventStrings_line, eventStrings_append, eventStrings_line]
  -- The lines that save the nodes, clear them and go back to them hold no strings.
  exact congrArg (eventStrings inner ++ ·) (List.append_nil _)

theorem eventStrings_key (key : Option Nat) : eventStrings (visitKey key) = keyStrings key := by
  cases key <;> rfl

theorem eventStrings_children {nodes : List Node} {inner : List Event}
    (same : eventStrings inner = nodesStrings true 0 nodes) :
    eventStrings (visitChildren inner nodes) = nodesStrings true 0 nodes := by
  cases nodes with
  | nil => rfl
  | cons node rest =>
    rw [visitChildren, eventStrings_scope, same]
    exact List.append_nil _

mutual

/-- The lines of a visit hold the strings of the node, in order. -/
theorem eventStrings_node (node : Node) (key : Option Nat) :
    eventStrings (visitNode node key) = nodeStrings node key := by
  match node with
  | .text value => rfl
  | .tag t => exact eventStrings_tag t
  | .fragment children => exact eventStrings_nodes _ 0 children
  | .foreign kind => rfl
  | .element label ns attrs children =>
    have inner := eventStrings_children (eventStrings_nodes true 0 children)
    rw [visitNode, nodeStrings, eventStrings_append, inner, eventStrings_line,
      eventStrings_append, eventStrings_attrs attrs, eventStrings_append, eventStrings_key,
      eventStrings_line]
    rfl
termination_by structural node

theorem eventStrings_nodes (keyed : Bool) (index : Nat) (nodes : List Node) :
    eventStrings (visitNodes keyed index nodes) = nodesStrings keyed index nodes := by
  match nodes with
  | [] => rfl
  | node :: rest =>
    rw [visitNodes, nodesStrings, eventStrings_append, eventStrings_node node,
      eventStrings_nodes keyed (index + 1) rest]
termination_by structural nodes

theorem eventStrings_attr (attr : Attr) : eventStrings (visitAttr attr) = attrStrings attr := by
  match attr with
  | .plain name value => rfl
  | .parts name value =>
    rw [visitAttr, attrStrings, eventStrings_scope, eventStrings_nodes false 0 value]
    rfl
termination_by structural attr

theorem eventStrings_attrs (attrs : List Attr) :
    eventStrings (visitAttrs attrs) = attrsStrings attrs := by
  match attrs with
  | [] => rfl
  | attr :: rest =>
    rw [visitAttrs, attrsStrings, eventStrings_append, eventStrings_attr attr,
      eventStrings_attrs rest]
termination_by structural attrs

end

/-- A routine holds the strings of the tree, and the tag that several nodes are wrapped in. -/
theorem strings_visited (fragmentTag : String) (root : Node) :
    (visited fragmentTag root).flatMap Statement.strings =
      nodeStrings root none ++ [fragmentTag] := by
  rw [visited, List.flatMap_append, List.flatMap_append, ← eventStrings_node root none]
  rfl

/-- What a text is written as: a quote, an inside in which every such quote is escaped, and the
quote again. -/
theorem quote_closed (s : String) :
    ∃ quote inside, (Text.quote s).toList = quote :: (inside ++ [quote]) ∧
      (quote = '\'' ∨ quote = '"') ∧
      Text.Quoted.closing? quote false (inside ++ [quote]) = some inside.length := by
  have kind := Text.Quoted.quoteFor_kind s.toList
  refine ⟨_, _, ?_, kind, Text.Quoted.closing?_encode kind s.toList []⟩
  rw [Text.quote, String.toList_ofList]
  rfl

theorem literals_numbered (number : Nat) {lines : List (Nat × Statement)}
    (defined : ∀ line ∈ lines, line.2.isDefined = true) :
    List.Forall₂ (fun line statement => line.text = statement.text.toList ∧
        literals line.text = some statement.strings)
      (numbered number lines) (lines.map Prod.snd) := by
  induction lines generalizing number with
  | nil => exact .nil
  | cons line rest ih =>
    obtain ⟨first, later⟩ := List.forall_mem_cons.mp defined
    exact .cons ⟨rfl, (Statement.spelled_text first).literals_eq⟩ (ih (number + 1) later)

theorem return_notMem_text {w : CodeWriter} {lines : List (Nat × Statement)}
    (held : w.lines.toList = heldLines lines)
    (defined : ∀ line ∈ lines, line.2.isDefined = true) : '\r' ∉ w.text.toList := by
  rw [toList_text held, List.mem_flatMap]
  rintro ⟨line, member, inside⟩
  rw [writtenLine, List.append_assoc, List.mem_append, List.mem_append] at inside
  rcases inside with blank | text | feed
  · exact absurd (List.mem_replicate.mp blank).2 (by decide)
  · exact (Statement.spelled_text (defined line member)).not_isBreak _ text (.inr rfl)
  · exact absurd (List.mem_singleton.mp feed) (by decide)

/-- No text can leave its literal. A text is written between two quotes, on one line, with every
such quote inside escaped, and is read back. So each line of the source of a compiled tree has one
statement of the visit on it, whose literals are found to be the strings of that statement, and all
of these together are the strings of the tree. -/
theorem compile_contains_literals :
    (∀ s : String, ∃ quote inside, (Text.quote s).toList = quote :: (inside ++ [quote]) ∧
      (quote = '\'' ∨ quote = '"') ∧ '\n' ∉ (Text.quote s).toList ∧ '\r' ∉ (Text.quote s).toList ∧
      Text.Quoted.closing? quote false (inside ++ [quote]) = some inside.length ∧
      Text.Quoted.read (Text.quote s).toList = some (s.toList, [])) ∧
    ∀ fragmentTag root source, compile fragmentTag root = .ok source →
      '\r' ∉ source.toList ∧
      List.Forall₂ (fun line statement => line.text = statement.text.toList ∧
          literals line.text = some statement.strings)
        (sourceLines source.toList) (visited fragmentTag root) ∧
      (visited fragmentTag root).flatMap Statement.strings =
        nodeStrings root none ++ [fragmentTag] := by
  constructor
  · intro s
    obtain ⟨quote, inside, whole, kind, closed⟩ := quote_closed s
    have noBreak := (Spelled.quote s).not_isBreak
    exact ⟨quote, inside, whole, kind, fun member => noBreak _ member (.inl rfl),
      fun member => noBreak _ member (.inr rfl), closed, read_quote s⟩
  · intro fragmentTag root source accepted
    obtain ⟨w, written, closed, rfl⟩ := compile_eq_ok_iff.mp accepted
    obtain ⟨lines, held, source, statements⟩ := sourceLines_visited fragmentTag written closed
    have defined : ∀ line ∈ lines, line.2.isDefined = true := fun line member =>
      isDefined_visited fragmentTag root _ (statements ▸ List.mem_map_of_mem member)
    refine ⟨return_notMem_text held defined, ?_, strings_visited fragmentTag root⟩
    rw [source, ← statements]
    exact literals_numbered 1 defined

/-- Texts that look like the end of a literal, of a line and of a statement. -/
def hostile : Node :=
  .element "p" none
    [.plain "title" "'] = \"\\", .parts "class" [.tag (.expression (.variable "x'"))]]
    [.text "'); raise\r\n#", .tag (.expression (.literal (.str "\\'\"")))]

theorem compile_contains_hostile : ∃ source, compile "main" hostile = .ok source ∧
    '\r' ∉ source.toList ∧
    (visited "main" hostile).flatMap Statement.strings =
      ["'); raise\r\n#", "\\'\"", "title", "'] = \"\\", "x'", "className", "", "p", "main"] := by
  have accepted : ∃ source, compile "main" hostile = .ok source := ⟨_, rfl⟩
  obtain ⟨source, accepted⟩ := accepted
  obtain ⟨noReturn, -, strings⟩ := compile_contains_literals.2 "main" hostile source accepted
  exact ⟨source, accepted, noReturn, strings⟩

end HtmlTemplate.Code
