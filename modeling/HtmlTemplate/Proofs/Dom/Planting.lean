import HtmlTemplate.Proofs.Dom.Parts
import HtmlTemplate.Proofs.Dom.Price

/-!
New leaves among the children of a node. Text that is inserted ends up as leaves, one behind the
other, at one place between the children. A store with such leaves can be written down: each leaf is a
new cell that hangs from the node, and the node lists it where it was put. Leaves that are inserted
together in front of a child, and leaves that are appended while no text is joined, both give a store
of this form, and leaves that are put behind one another are leaves that are put there at once. So it
makes no difference whether they are inserted together or one after the other.
-/

namespace HtmlTemplate.Dom

namespace Store

/-- A store with a new leaf among the children of a node, between those in front and those behind. -/
def plant (s : Store) (parent : NodeId) (front back : List NodeId) (part : Part) : Store :=
  ((s.add (.leaf part)).2.setChildren parent (front ++ s.cells.size :: back)).setOwner
    s.cells.size (some (.node parent))

/-- A store with new leaves among the children of a node, one behind the other. -/
def plantAll (s : Store) (parent : NodeId) (front back : List NodeId) : List Part → Store
  | [] => s
  | part :: rest =>
    (s.plant parent front back part).plantAll parent (front ++ [s.cells.size]) back rest

variable {s : Store} {parent id : NodeId} {front back : List NodeId}

/-! One leaf -/

theorem hang_eq_plant (part : Part) :
    s.hang parent part = s.plant parent (s.children parent) [] part := rfl

theorem size_plant (part : Part) :
    (s.plant parent front back part).cells.size = s.cells.size + 1 := by
  simp [plant, size_add]

theorem content_plant_self (part : Part) :
    (s.plant parent front back part).content s.cells.size = .leaf part := by
  rw [plant, content_setOwner, content_setChildren, content_add_self]

theorem content_plant_of_lt (inside : id < s.cells.size) (part : Part) :
    (s.plant parent front back part).content id = s.content id := by
  rw [plant, content_setOwner, content_setChildren, content_add_of_lt inside]

theorem children_plant (inside : parent < s.cells.size) (part : Part) :
    (s.plant parent front back part).children parent = front ++ [s.cells.size] ++ back := by
  rw [plant, children_setOwner, children_setChildren_self]
  · simp
  · rw [size_add]
    exact Nat.lt_succ_of_lt inside

/-! Leaves in a row -/

theorem size_plantAll (parts : List Part) :
    (s.plantAll parent front back parts).cells.size = s.cells.size + parts.length := by
  induction parts generalizing s front with
  | nil => rfl
  | cons part rest ih =>
    rw [plantAll, ih, size_plant, List.length_cons]
    omega

theorem setup_plantAll (parts : List Part) :
    (s.plantAll parent front back parts).setup = s.setup := by
  induction parts generalizing s front with
  | nil => rfl
  | cons part rest ih => exact ih

theorem content_plantAll_of_lt (inside : id < s.cells.size) (parts : List Part) :
    (s.plantAll parent front back parts).content id = s.content id := by
  induction parts generalizing s front with
  | nil => rfl
  | cons part rest ih =>
    have still : id < (s.plant parent front back part).cells.size := by
      rw [size_plant]
      exact Nat.lt_succ_of_lt inside
    rw [plantAll, ih still, content_plant_of_lt inside]

/-- The new leaves hold the parts, in their order, so they look as the parts do. -/
theorem map_plantAll {α : Type} (look : Store → NodeId → α) {shown : Part → α}
    (each : ∀ s id part, s.content id = .leaf part → look s id = shown part) (parts : List Part) :
    (List.range' s.cells.size parts.length).map (look (s.plantAll parent front back parts)) =
      parts.map shown := by
  induction parts generalizing s front with
  | nil => rfl
  | cons part rest ih =>
    -- What is planted behind the first leaf leaves it as it is.
    have first : (s.plantAll parent front back (part :: rest)).content s.cells.size =
        .leaf part := by
      rw [plantAll, content_plantAll_of_lt, content_plant_self]
      rw [size_plant]
      exact Nat.lt_succ_self _
    have later := @ih (s.plant parent front back part) (front ++ [s.cells.size])
    rw [size_plant] at later
    rw [List.length_cons, List.range'_succ, List.map_cons, each _ _ _ first, List.map_cons]
    exact congrArg _ later

theorem children_plantAll (split : s.children parent = front ++ back)
    (inside : parent < s.cells.size) (parts : List Part) :
    (s.plantAll parent front back parts).children parent =
      front ++ List.range' s.cells.size parts.length ++ back := by
  induction parts generalizing s front with
  | nil => simpa [plantAll] using split
  | cons part rest ih =>
    have still : parent < (s.plant parent front back part).cells.size := by
      rw [size_plant]
      exact Nat.lt_succ_of_lt inside
    rw [plantAll, ih (children_plant inside part) still, size_plant, List.length_cons,
      List.range'_succ]
    simp

theorem plantAll_queue (queue : Queue) (parts : List Part) :
    Store.plantAll { s with queue } parent front back parts =
      { s.plantAll parent front back parts with queue } := by
  induction parts generalizing s front with
  | nil => rfl
  | cons part rest ih => exact @ih (s.plant parent front back part) (front ++ [s.cells.size])

/-- Leaves that are put behind leaves are put there at once. -/
theorem plantAll_append (first second : List Part) :
    s.plantAll parent front back (first ++ second) =
      (s.plantAll parent front back first).plantAll parent
        (front ++ List.range' s.cells.size first.length) back second := by
  induction first generalizing s front with
  | nil => simp [plantAll]
  | cons part rest ih =>
    rw [List.cons_append, plantAll, plantAll, ih, size_plant, List.length_cons, List.range'_succ]
    simp

end Store

/-! Inserting in front of a child -/

/-- A store with new leaves that hang from nothing. -/
def Store.addLeaves (s : Store) (parts : List Part) : Store :=
  parts.foldl (fun s part => (s.add (.leaf part)).2) s

section Insert

variable {s : Store} {parent : NodeId} {front back : List NodeId}

theorem mapM_newNode_run (parts : List Part) (s : Store) :
    parts.mapM (fun part => newNode (.leaf part)) s =
      .ok (List.range' s.cells.size parts.length) (s.addLeaves parts) := by
  induction parts generalizing s with
  | nil => rfl
  | cons part rest ih =>
    have later := mapM_newNode_cons (ih (s.add (.leaf part)).2)
    rw [Store.size_add] at later
    rw [later, List.length_cons, List.range'_succ]
    rfl

theorem children_addLeaves (parts : List Part) (id : NodeId) :
    (s.addLeaves parts).children id = s.children id := by
  induction parts generalizing s with
  | nil => rfl
  | cons part rest ih => exact ih.trans (Store.children_add _)

/-- A node that is there can be changed before or after leaves are added. -/
theorem addLeaves_modifyCell {id : NodeId} (inside : id < s.cells.size) (f : Cell → Cell)
    (parts : List Part) :
    (s.modifyCell id f).addLeaves parts = (s.addLeaves parts).modifyCell id f := by
  induction parts generalizing s with
  | nil => rfl
  | cons part rest ih =>
    have still : id < (s.add (.leaf part)).2.cells.size := by
      rw [Store.size_add]
      exact Nat.lt_succ_of_lt inside
    show ((s.modifyCell id f).add (.leaf part)).2.addLeaves rest = _
    rw [Store.add_modifyCell inside, ih still]
    rfl

/-- Leaves that are made first and hung up together are planted. -/
theorem foldl_setOwner_addLeaves (split : s.children parent = front ++ back)
    (inside : parent < s.cells.size) (parts : List Part) :
    (List.range' s.cells.size parts.length).foldl
        (fun s node => s.setOwner node (some (.node parent)))
        ((s.addLeaves parts).setChildren parent
          (front ++ List.range' s.cells.size parts.length ++ back)) =
      s.plantAll parent front back parts := by
  induction parts generalizing s front with
  | nil =>
    simp only [List.length_nil, List.range'_zero, List.append_nil, List.foldl_nil, ← split]
    exact Store.setChildren_children
  | cons part rest ih =>
    have new : s.cells.size < (s.add (.leaf part)).2.cells.size := by
      rw [Store.size_add]
      exact Nat.lt_succ_self _
    have still : parent < (s.add (.leaf part)).2.cells.size := inside.trans new
    have planted : (s.plant parent front back part).addLeaves rest =
        (((s.add (.leaf part)).2.addLeaves rest).setChildren parent
          (front ++ s.cells.size :: back)).setOwner s.cells.size (some (.node parent)) := by
      rw [Store.plant, Store.setOwner, addLeaves_modifyCell (by simpa using new), Store.setChildren,
        addLeaves_modifyCell still]
      rfl
    have later := @ih (s.plant parent front back part) (front ++ [s.cells.size])
      (Store.children_plant inside part) (by rw [Store.size_plant]; exact Nat.lt_succ_of_lt inside)
    -- The list of children is written once more, so what it was in between does not count.
    have rewritten (children : List NodeId) :
        ((s.plant parent front back part).addLeaves rest).setChildren parent children =
          (((s.add (.leaf part)).2.addLeaves rest).setChildren parent children).setOwner
            s.cells.size (some (.node parent)) := by
      rw [planted, Store.setChildren_setOwner_setChildren]
    rw [rewritten, Store.size_plant] at later
    rw [Store.plantAll, ← later, List.length_cons, List.range'_succ, List.foldl_cons]
    simp only [List.append_assoc, List.cons_append, List.nil_append]
    rfl

/-- Text in front of the first place of a child is planted there. -/
theorem insertText_before {ref : NodeId} {data : List Char} {parts : List Part} {queue : Queue}
    (split : s.children parent = front ++ ref :: back) (first : ref ∉ front)
    (inside : parent < s.cells.size) (expanded : expand data s = .ok parts { s with queue }) :
    insertText parent data (some ref) s =
      .ok () { s.plantAll parent front (ref :: back) parts with queue } := by
  rw [← Store.plantAll_queue, insertText_front, bind_ok expanded]
  by_cases filled : parts = []
  · subst filled
    rfl
  · have given : Store.children { s with queue } parent = front ++ ref :: back := split
    have planted := insertAt_run ((children_addLeaves parts parent).trans given)
      (List.range' s.cells.size parts.length)
    rw [insertParts_of_ne_nil filled, bind_ok (childIndex_of_split given first),
      bind_ok (mapM_newNode_run parts _), ← foldl_setOwner_addLeaves given inside]
    exact planted

end Insert

/-! One leaf after the other -/

/-- Makes leaves of parts and puts one after the other in front of a child, which is looked for each
time. -/
def insertEach (parent ref : NodeId) (parts : List Part) : Build Unit := do
  let nodes ← parts.mapM fun part => newNode (.leaf part)
  nodes.forM fun node => insertBefore parent node ref

section Each

variable {s : Store} {parent ref : NodeId} {front back : List NodeId}

/-- Nodes other than the child leave it where it is found, so each lands behind those before it. -/
theorem forM_insertBefore {nodes : List NodeId} (split : s.children parent = front ++ ref :: back)
    (first : ref ∉ front) (inside : parent < s.cells.size) (others : ref ∉ nodes) :
    nodes.forM (fun node => insertBefore parent node ref) s =
      insertAt parent front.length nodes s := by
  induction nodes generalizing s front with
  | nil =>
    rw [insertAt_run split, List.append_nil, ← split]
    exact congrArg _ Store.setChildren_children.symm
  | cons node rest ih =>
    rw [List.mem_cons, not_or] at others
    have step : insertBefore parent node ref s = .ok () ((s.setChildren parent
        (front ++ [node] ++ ref :: back)).setOwner node (some (.node parent))) := by
      rw [insertBefore, bind_ok (childIndex_of_split split first), insertAt_run split]
      rfl
    have children : ((s.setChildren parent (front ++ [node] ++ ref :: back)).setOwner node
        (some (.node parent))).children parent = front ++ [node] ++ ref :: back := by
      rw [Store.children_setOwner, Store.children_setChildren_self inside]
    show ((insertBefore parent node ref) >>= fun _ => rest.forM _) s = _
    rw [bind_ok step, ih children (by simp [first, others.1]) (by simpa using inside) others.2,
      insertAt_run children, insertAt_run split, Store.setChildren_setOwner_setChildren,
      List.foldl_cons]
    simp only [List.append_assoc, List.cons_append, List.nil_append]

theorem nameOf_addLeaves (parts : List Part) (id : NodeId) :
    (s.addLeaves parts).nameOf id = s.nameOf id := by
  induction parts generalizing s with
  | nil => rfl
  | cons part rest ih =>
    refine ih.trans ?_
    rw [Store.nameOf, Store.nameOf, Store.content, Store.cell_add]
    by_cases new : id = s.cells.size
    · -- A leaf has no name, and neither has a node that is not there.
      simp [new, Store.content, Store.cell]
    · rw [if_neg new, Store.content]

theorem content_addLeaves_of_lt (parts : List Part) {id : NodeId} (inside : id < s.cells.size) :
    (s.addLeaves parts).content id = s.content id := by
  induction parts generalizing s with
  | nil => rfl
  | cons part rest ih =>
    have still : id < (s.add (.leaf part)).2.cells.size := by
      rw [Store.size_add]
      exact Nat.lt_succ_of_lt inside
    exact (ih still).trans (Store.content_add_of_lt inside _)

theorem describe_addLeaves (parts : List Part) {id : NodeId} (inside : id < s.cells.size) :
    (s.addLeaves parts).describe id = s.describe id := by
  rw [Store.describe, Store.describe, content_addLeaves_of_lt parts inside, nameOf_addLeaves]

/-- Parts that are inserted together are inserted one after the other. Where the child is missing,
the first of them fails as all do together, and the leaves that have been made hang from nothing. -/
theorem insertParts_each (known : ref < s.cells.size) (parent : NodeId) (parts : List Part) :
    insertParts parent ref parts s = insertEach parent ref parts s ∨
      ∃ e, Failure.IsNotAChild e ∧ insertParts parent ref parts s = .error e s ∧
        insertEach parent ref parts s = .error e (s.addLeaves parts) := by
  cases parts with
  | nil => exact .inl rfl
  | cons part rest =>
    have made := mapM_newNode_run (part :: rest) s
    by_cases member : ref ∈ s.children parent
    · left
      obtain ⟨front, back, split, first⟩ := List.eq_append_cons_of_mem member
      have later : (s.addLeaves (part :: rest)).children parent = front ++ ref :: back := by
        rw [children_addLeaves, split]
      have listed : ref ∈ (s.addLeaves (part :: rest)).children parent := by simp [later]
      rw [insertParts_of_ne_nil (by simp), insertEach, bind_ok (childIndex_of_split split first),
        bind_ok made, bind_ok made]
      exact (forM_insertBefore later first (Store.lt_size_of_mem_children listed)
        (by simp [known])).symm
    · right
      have stray : ref ∉ (s.addLeaves (part :: rest)).children parent := by
        rwa [children_addLeaves]
      refine ⟨.notAChild (s.describe ref) (s.nameOf parent), ⟨_, _, rfl⟩, ?_, ?_⟩
      · rw [insertParts_of_ne_nil (by simp), bind_error (childIndex_of_stray member)]
      · have fails := childIndex_of_stray stray
        rw [describe_addLeaves _ known, nameOf_addLeaves] at fails
        rw [insertEach, bind_ok made, List.length_cons, List.range'_succ]
        exact bind_error (bind_error fails _) _

/-- Text in front of a child: its parts are inserted one after the other. -/
theorem insertText_each (known : ref < s.cells.size) (parent : NodeId) (data : List Char) :
    insertText parent data (some ref) s = (expand data >>= insertEach parent ref) s ∨
      ∃ e mid parts, Failure.IsNotAChild e ∧ insertText parent data (some ref) s = .error e mid ∧
        (expand data >>= insertEach parent ref) s = .error e (mid.addLeaves parts) := by
  rw [insertText_front]
  have pays := expand_pays s data
  cases expanded : expand data s with
  | error e mid => exact .inl ((bind_error expanded _).trans (bind_error expanded _).symm)
  | ok parts mid =>
    rw [bind_ok expanded, bind_ok expanded]
    have still : ref < mid.cells.size := by
      rw [expanded] at pays
      cases pays
      exact known
    rcases insertParts_each still parent parts with same | ⟨e, cause, together, each⟩
    · exact .inl same
    · exact .inr ⟨e, mid, parts, cause, together, each⟩

end Each

/-! Appending -/

namespace Store

/-- No text stands next to a text in a list of nodes. -/
def TextsApart (s : Store) (ids : List NodeId) : Prop :=
  ids.IsChain fun left right => s.textOf? left = none ∨ s.textOf? right = none

theorem textOf?_congr {s after : Store} {id : NodeId} (same : after.content id = s.content id) :
    after.textOf? id = s.textOf? id := by
  rw [textOf?, textOf?, same]

/-- Which nodes stand apart depends on where texts stand, not on what they say. -/
theorem textsApart_congr {s after : Store} {ids : List NodeId}
    (same : ∀ id ∈ ids, after.textOf? id = none ↔ s.textOf? id = none) :
    after.TextsApart ids ↔ s.TextsApart ids := by
  apply List.IsChain.iff_of_mem_imp
  intro left right here there
  rw [same left here, same right there]

theorem textOf?_of_openText {s : Store} {parent id : NodeId} (closed : s.openText parent = [])
    (last : (s.children parent).getLast? = some id) : s.textOf? id = none := by
  simpa [openText, last] using closed

end Store

section Append

variable {s : Store} {parent : NodeId}

/-- A text goes on in a text that stands last. -/
theorem appendPart_of_open {id : NodeId} {before : String} (opens : s.openText parent = [id])
    (leaf : s.content id = .leaf (.text before)) (value : String) :
    appendPart parent (.text value) s =
      .ok () (s.setContent id (.leaf (.text (before ++ value)))) := by
  rcases appendPart_cases parent (.text value) s with
    ⟨_, other, found, ⟨⟩, again, same, step⟩ | ⟨closed, -⟩
  · rw [opens] at again
    cases again
    rw [leaf] at same
    cases same
    exact step
  · rw [closed value rfl] at opens
    cases opens

/-- Other parts become leaves behind all children. -/
theorem appendPart_of_closed {part : Part}
    (closed : ∀ value, part = .text value → s.openText parent = []) :
    appendPart parent part s = .ok () (s.hang parent part) := by
  rcases appendPart_cases parent part s with ⟨value, id, before, text, opens, -⟩ | ⟨-, step⟩
  · rw [closed value text] at opens
    cases opens
  · exact step

/-- Parts that join no text are planted behind all children. -/
theorem forM_appendPart_planted {parts : List Part} (apart : Apart parts)
    (closed : ∀ value, parts.head? = some (.text value) → s.openText parent = [])
    (inside : parent < s.cells.size) :
    parts.forM (appendPart parent) s =
      .ok () (s.plantAll parent (s.children parent) [] parts) := by
  induction parts generalizing s with
  | nil => rfl
  | cons part rest ih =>
    have step : appendPart parent part s = .ok () (s.hang parent part) := by
      apply appendPart_of_closed
      rintro value rfl
      exact closed value rfl
    have opens := Store.openText_of_last (Store.children_hang inside part) part
      (Store.content_hang_self part)
    obtain ⟨next, others⟩ := List.isChain_cons.mp apart
    have still : parent < (s.hang parent part).cells.size := by
      rw [Store.size_hang]
      exact Nat.lt_succ_of_lt inside
    rw [forM_appendPart_cons step, ih others _ still, Store.children_hang inside, Store.plantAll,
      Store.hang_eq_plant]
    -- A text that was just planted is followed by no text.
    intro value head
    cases part with
    | text before => exact absurd rfl (next _ head before value rfl)
    | tag tag => exact opens

end Append

end HtmlTemplate.Dom
