import HtmlTemplate.Proofs.Code.Indentation
import HtmlTemplate.Proofs.Code.Visit

/-!
The blocks of a routine. The events of a visit nest like brackets: a block goes from the event that
opens it to the event that closes it, and every event in between belongs to the branch that was
started last, wherever in the tree these events come from. If a tree is compiled, its events nest in
exactly one way, and the source of its routine is read by indentation as that nesting.
-/

namespace HtmlTemplate.Code

mutual

/-- Events in which every block is closed, and the lines that they nest to. -/
inductive Nested : List Event → Forest Statement → Prop where
  | nil : Nested [] .nil
  | line (statement : PlainLine) {events : List Event} {later : Forest Statement}
      (rest : Nested events later) :
      Nested (.line statement :: events) (.cons statement .nil later)
  | block (header : Header) {inner more events : List Event} {body arms later : Forest Statement}
      (inside : Nested inner body) (others : NestedArms more arms) (rest : Nested events later) :
      Nested (.opens header :: (inner ++ (more ++ .closes :: events)))
        (.cons header (.cons .pass .nil body) (arms ++ later))

/-- The events of the further branches of a block, and their lines. -/
inductive NestedArms : List Event → Forest Statement → Prop where
  | nil : NestedArms [] .nil
  | cons (header : Header) {inner more : List Event} {body arms : Forest Statement}
      (inside : Nested inner body) (others : NestedArms more arms) :
      NestedArms (.continues header :: (inner ++ more))
        (.cons header (.cons .pass .nil body) arms)

end

-- Both follow the nesting, case by case.
mutual

theorem Nested.headed {events : List Event} {forest : Forest Statement}
    (nested : Nested events forest) : forest.Headed Statement.isHeader := by
  match nested with
  | .nil => trivial
  | .line statement rest => exact ⟨by simp [statement.2.1], trivial, rest.headed⟩
  | .block header inside others rest =>
    exact ⟨by simp [header.2.1], ⟨by simp [Statement.isHeader], trivial, inside.headed⟩,
      others.headed.append rest.headed⟩

theorem NestedArms.headed {events : List Event} {forest : Forest Statement}
    (nested : NestedArms events forest) : forest.Headed Statement.isHeader := by
  match nested with
  | .nil => trivial
  | .cons header inside others =>
    exact ⟨by simp [header.2.1], ⟨by simp [Statement.isHeader], trivial, inside.headed⟩,
      others.headed⟩

end

mutual

/-- Events that nest are written as the layout of their lines. -/
theorem Nested.written {events : List Event} {forest : Forest Statement}
    (nested : Nested events forest) (w : CodeWriter) {indent : Nat} (deep : w.indent = indent) :
    writeAll events w = .ok (w.addAll (forest.lines indent)) := by
  match nested with
  | .nil => exact congrArg Except.ok w.addAll_nil.symm
  | .line statement rest =>
    have later := rest.written (w.addAll [(indent, statement.val)]) deep
    rw [← w.addAll_append] at later
    show writeAll _ (w.add statement) = _
    rw [w.add_eq_addAll deep, later]
    rfl
  | .block header inside others rest =>
    have block := block_eq deep header.val (fun w => inside.written w) (fun w => others.written w)
    show writeAll (_ ++ (_ ++ .closes :: _)) (w.openBlock header) = _
    -- The events of the block are written in three parts: body, branches, and the end.
    rw [writeAll_append, funext (writeAll_append _ _), ← bind_assoc]
    show _ >>= (fun w : CodeWriter => w.closeBlock >>= writeAll _) = _
    rw [← bind_assoc, block, ok_bind, rest.written (w.addAll _) deep, ← w.addAll_append]
    simp [Forest.lines, Forest.lines_append]

/-- Further branches are written from inside the block, as lines on the level of its header. -/
theorem NestedArms.written {events : List Event} {forest : Forest Statement}
    (nested : NestedArms events forest) (w : CodeWriter) {indent : Nat}
    (deep : w.indent = (indent + 4 : Nat)) (opened : w.blocks ≠ 0) :
    writeAll events w = .ok (w.addAll (forest.lines indent)) := by
  match nested with
  | .nil => exact congrArg Except.ok w.addAll_nil.symm
  | .cons header inside others =>
    show w.continueBlock header >>= writeAll (_ ++ _) = _
    rw [funext (writeAll_append _ _), ← bind_assoc,
      branch_eq deep opened header.val (fun w => inside.written w), ok_bind,
      others.written (w.addAll _) deep opened, ← w.addAll_append]
    rfl

end

/-- Events that close a number of open blocks, one after the other, and leave none open. -/
inductive Closes : Nat → List Event → Prop where
  | done {events : List Event} {forest : Forest Statement} (nested : Nested events forest) :
      Closes 0 events
  | block {outer : Nat} {inner more events : List Event} {body arms : Forest Statement}
      (inside : Nested inner body) (others : NestedArms more arms) (rest : Closes outer events) :
      Closes (outer + 1) (inner ++ (more ++ .closes :: events))

namespace Closes

variable {blocks : Nat} {events : List Event}

theorem line (statement : PlainLine) (closes : Closes blocks events) :
    Closes blocks (.line statement :: events) := by
  cases closes with
  | done nested => exact .done (.line statement nested)
  | block inside others rest => exact .block (.line statement inside) others rest

theorem opens (header : Header) (closes : Closes (blocks + 1) events) :
    Closes blocks (.opens header :: events) := by
  cases closes with
  | block inside others rest =>
    -- The block that is opened here is the first to be closed; it joins what stands behind it.
    cases rest with
    | done nested => exact .done (.block header inside others nested)
    | block inside' others' rest' =>
      have joined := Closes.block (.block header inside others inside') others' rest'
      simpa using joined

theorem continues (header : Header) (closes : Closes (blocks + 1) events) :
    Closes (blocks + 1) (.continues header :: events) := by
  cases closes with
  | block inside others rest =>
    have joined := Closes.block .nil (.cons header inside others) rest
    simpa using joined

theorem closes (closes : Closes blocks events) : Closes (blocks + 1) (.closes :: events) :=
  .block .nil .nil closes

end Closes

/-- Events that can be written, and leave no block open, close the blocks that were open. -/
theorem closes_of_written {events : List Event} {w w' : CodeWriter}
    (written : writeAll events w = .ok w') (closed : w'.blocks = 0) : Closes w.blocks events := by
  induction events generalizing w with
  | nil =>
    cases written
    rw [closed]
    exact .done .nil
  | cons event rest ih =>
    cases event with
    | line statement => exact (ih written).line statement
    | opens header => exact (ih written).opens header
    | continues header =>
      obtain ⟨between, first, later⟩ := exists_of_bind written
      obtain ⟨inside, same⟩ := blocks_of_continueBlock first
      -- A branch belongs to the innermost block, so there is one.
      obtain ⟨outer, more⟩ := Nat.exists_eq_succ_of_ne_zero inside
      have closes := ih later
      rw [same, more] at closes
      rw [more]
      exact closes.continues header
    | closes =>
      obtain ⟨between, first, later⟩ := exists_of_bind written
      obtain ⟨inside, rfl⟩ := blocks_of_closeBlock first
      obtain ⟨outer, more⟩ := Nat.exists_eq_succ_of_ne_zero inside
      have closes := ih later
      rw [more] at closes ⊢
      exact closes.closes
    | unknown kind => cases written

theorem Closes.exists_nested {events : List Event} (closes : Closes 0 events) :
    ∃ forest, Nested events forest := by
  cases closes with
  | done nested => exact ⟨_, nested⟩

theorem heldLines_injective : Function.Injective heldLines := by
  intro first second same
  refine List.map_injective_iff.mpr ?_ same
  rintro ⟨indent, statement⟩ ⟨indent', statement'⟩ equal
  simpa using equal

/-- Events nest in one way only: their lines can be told from what is written. -/
theorem Nested.unique {events : List Event} {first second : Forest Statement}
    (nested : Nested events first) (other : Nested events second) : first = second := by
  -- Each nesting says what is written, and what is written gives the lines back.
  have margin : ({} : CodeWriter).indent = (0 : Nat) := rfl
  have written := nested.written {} margin
  rw [other.written {} margin] at written
  have lines : heldLines (second.lines 0) = heldLines (first.lines 0) := by
    simpa [Writer.addAll] using Except.ok.inj written
  exact Forest.eq_of_lines nested.headed other.headed (heldLines_injective lines).symm

/-- The lines that a routine ends with, outside every block of the template. -/
def lastForest (fragmentTag : String) : Forest Statement :=
  .cons (.ifHeader .oneNode) (.cons .returnFirst .nil .nil)
    (.cons (.ifHeader .noNodes) (.cons .returnNone .nil .nil)
      (.cons (.returnWrapped fragmentTag) .nil .nil))

/-- The lines of a routine around those of a template. -/
def routineForest (fragmentTag : String) (body : Forest Statement) : Forest Statement :=
  .cons .define (.cons .newNodes .nil (.cons .newStack .nil (body ++ lastForest fragmentTag))) .nil

theorem headed_routineForest {fragmentTag : String} {body : Forest Statement}
    (headed : body.Headed Statement.isHeader) :
    (routineForest fragmentTag body).Headed Statement.isHeader := by
  have last : (lastForest fragmentTag).Headed Statement.isHeader := by
    simp [lastForest, Forest.Headed, Statement.isHeader]
  simpa [routineForest, Forest.Headed, Statement.isHeader] using headed.append last

theorem lines_routineForest (fragmentTag : String) (body : Forest Statement) :
    (routineForest fragmentTag body).lines 0 =
      firstLines ++ body.lines 4 ++ lastLines fragmentTag := by
  simp [routineForest, Forest.lines, Forest.lines_append, firstLines, lastLines, lastForest]

/-- A line of source opens a block if it ends with a colon. -/
def opensBlock (text : List Char) : Bool := text.getLast? == some ':'

theorem opensBlock_text (statement : Statement) :
    opensBlock statement.text.toList = statement.isHeader := by
  -- A text is told by its last character, which its fixed ending has in most cases.
  have ends (back : String) (c : Char) (last : back.toList.getLast? = some c) (front : String) :
      opensBlock (front ++ back).toList = (c == ':') := by
    rw [opensBlock, String.toList_append, List.getLast?_append, last]
    rfl
  cases statement with
  | setAttr name value =>
    -- The only statement that ends with a literal: its last character is a quote.
    have last : (Text.quote value).toList.getLast? =
        some (Text.Quoted.quoteFor value.toList) := by
      rw [Text.quote, String.toList_ofList, Text.Quoted.encode, List.getLast?_concat]
    refine (ends _ _ last _).trans ?_
    rcases Text.Quoted.quoteFor_kind value.toList with same | same <;> rw [same] <;> rfl
  | appendText => exact ends ")" ')' rfl _
  | appendOperand => exact ends "))" ')' rfl _
  | joinAttr => exact ends joinText ')' rfl _
  | appendElement => exact ends ", attrs, children))" ')' rfl _
  | returnWrapped => exact ends ", None, nodes)" ')' rfl _
  | ifHeader => exact ends ":" ':' rfl _
  | elifHeader => exact ends ":" ':' rfl _
  | _ => rfl

/-- Reads source by the indentation of its lines. -/
def readSource (source : String) : Option (Forest (List Char)) :=
  readLines opensBlock ((sourceLines source.toList).map fun line => (line.indent, line.text))

theorem map_numbered (number : Nat) (lines : List (Nat × Statement)) :
    (numbered number lines).map (fun line => (line.indent, line.text)) =
      lines.map fun line => (line.1, line.2.text.toList) := by
  induction lines generalizing number with
  | nil => rfl
  | cons line rest ih => rw [numbered, List.map_cons, List.map_cons, ih]

/-- The lines of a compiled source are those of the routine with the nesting of the visit in it. -/
theorem sourceLines_compile {fragmentTag source : String} {root : Node} {body : Forest Statement}
    (accepted : compile fragmentTag root = .ok source)
    (nested : Nested (visitNode root none) body) :
    sourceLines source.toList = numbered 1 ((routineForest fragmentTag body).lines 0) := by
  obtain ⟨w, written, closed, rfl⟩ := compile_eq_ok_iff.mp accepted
  obtain ⟨lines, held, source, -⟩ := sourceLines_visited fragmentTag written closed
  have layout := nested.written prologue (show prologue.indent = (4 : Nat) from rfl)
  rw [written] at layout
  -- The writer holds what the nesting is laid out as, so these are the lines of the source.
  have same : lines = (routineForest fragmentTag body).lines 0 := by
    rw [Except.ok.inj layout] at held
    apply heldLines_injective
    rw [← held, lines_epilogue fragmentTag rfl, lines_routineForest]
    simp [Writer.addAll, heldLines, firstLines, prologue, Writer.add, Writer.deeper,
      Writer.indentStep]
  rw [source, same]

/-- The source of a compiled tree is read by indentation as the nesting of its visit. -/
theorem readSource_compile {fragmentTag source : String} {root : Node} {body : Forest Statement}
    (accepted : compile fragmentTag root = .ok source)
    (nested : Nested (visitNode root none) body) :
    readSource source =
      some ((routineForest fragmentTag body).map fun statement => statement.text.toList) := by
  have headed : (routineForest fragmentTag body).Headed
      (opensBlock ∘ fun statement => statement.text.toList) := by
    have agrees : (opensBlock ∘ fun statement : Statement => statement.text.toList) =
        Statement.isHeader := funext opensBlock_text
    rw [agrees]
    exact headed_routineForest nested.headed
  have read := readLines_lines headed.map
  rw [Forest.lines_map] at read
  rw [readSource, sourceLines_compile accepted nested, map_numbered]
  exact read

/-- At every point of a visit that can be written, the indentation fits the open blocks. -/
theorem level_of_written {events before after : List Event} {w : CodeWriter}
    (written : writeAll events prologue = .ok w) (split : events = before ++ after) :
    ∃ w', writeAll before prologue = .ok w' ∧ w'.Level := by
  rw [split, writeAll_append] at written
  obtain ⟨between, first, -⟩ := exists_of_bind written
  exact ⟨between, first, (wrote_writeAll level_prologue first).level⟩

/-- The source of a tree that is compiled means the blocks of the tree's visit. The visit nests in
exactly one way, the source is read by indentation as the routine with that nesting in it, and
between any two events of the visit the indentation is four columns for the routine and four for
each open block. -/
theorem compile_reads_as_nested {fragmentTag source : String} {root : Node}
    (accepted : compile fragmentTag root = .ok source) :
    compileNode root none prologue = writeAll (visitNode root none) prologue ∧
      (∃ body, Nested (visitNode root none) body ∧
        (∀ other, Nested (visitNode root none) other → other = body) ∧
        readSource source =
          some ((routineForest fragmentTag body).map fun statement => statement.text.toList)) ∧
      ∀ before after, visitNode root none = before ++ after →
        ∃ w, writeAll before prologue = .ok w ∧ w.indent = 4 * (1 + (w.blocks : Int)) := by
  obtain ⟨w, written, closed, -⟩ := compile_eq_ok_iff.mp accepted
  obtain ⟨body, nested⟩ := (closes_of_written written closed).exists_nested
  refine ⟨compileNode_eq_writeAll root none prologue, ⟨body, nested, ?_, ?_⟩, ?_⟩
  · exact fun other again => again.unique nested
  · exact readSource_compile accepted nested
  · exact fun before after split => level_of_written written split

/-- A block that starts among the children of an element and one that starts in its attribute; they
end in and behind another element. -/
def crossing : Node :=
  .fragment
    [.element "p" none [.parts "title" [.tag (.ifTag (.variable "late")), .text "night"]]
        [.text "news", .tag (.ifTag (.variable "open"))],
      .tag .elseTag,
      .element "b" none [] [.tag .endIfTag],
      .tag .endIfTag]

theorem compile_reads_crossing : ∃ source body, compile "main" crossing = .ok source ∧
    Nested (visitNode crossing none) body ∧
    readSource source =
      some ((routineForest "main" body).map fun statement => statement.text.toList) := by
  have accepted : ∃ source, compile "main" crossing = .ok source := ⟨_, rfl⟩
  obtain ⟨source, accepted⟩ := accepted
  obtain ⟨-, ⟨body, nested, -, read⟩, -⟩ := compile_reads_as_nested accepted
  exact ⟨source, body, accepted, nested, read⟩

end HtmlTemplate.Code
