import HtmlTemplate.Dom.Store
import HtmlTemplate.Proofs.Sequence
import Mathlib.Data.List.Basic

/-!
What the changes of a store leave as it was. A change of one cell keeps all others, and keeps those
parts of the cell that it is not about; a new node is a cell of its own. So changes of different
cells can be made in any order.
-/

namespace HtmlTemplate.Dom.Store

variable (s : Store) (id other : NodeId)

theorem cell_modifyCell (f : Cell → Cell) :
    (s.modifyCell id f).cell other =
      if id = other ∧ other < s.cells.size then f (s.cell other) else s.cell other := by
  simp only [modifyCell, cell, Array.getElem?_modify]
  by_cases same : id = other
  · by_cases inside : other < s.cells.size
    · simp [same, inside]
    · simp [same, inside]
  · simp [same]

@[simp]
theorem content_setChildren (children : List NodeId) :
    (s.setChildren id children).content other = s.content other := by
  rw [content, setChildren, cell_modifyCell]
  split <;> rfl

@[simp]
theorem content_setOwner (owner : Option Owner) :
    (s.setOwner id owner).content other = s.content other := by
  rw [content, setOwner, cell_modifyCell]
  split <;> rfl

@[simp]
theorem children_setOwner (owner : Option Owner) :
    (s.setOwner id owner).children other = s.children other := by
  rw [children, setOwner, cell_modifyCell]
  split <;> rfl

@[simp]
theorem children_setContent (content : Content) :
    (s.setContent id content).children other = s.children other := by
  rw [children, setContent, cell_modifyCell]
  split <;> rfl

@[simp]
theorem owner_setChildren (children : List NodeId) :
    (s.setChildren id children).owner other = s.owner other := by
  rw [owner, setChildren, cell_modifyCell]
  split <;> rfl

@[simp]
theorem owner_setContent (content : Content) :
    (s.setContent id content).owner other = s.owner other := by
  rw [owner, setContent, cell_modifyCell]
  split <;> rfl

variable {s id other}

theorem owner_setOwner_self (inside : id < s.cells.size) (value : Option Owner) :
    (s.setOwner id value).owner id = value := by
  rw [owner, setOwner, cell_modifyCell, if_pos ⟨rfl, inside⟩]

theorem owner_setOwner_of_ne (apart : id ≠ other) (value : Option Owner) :
    (s.setOwner id value).owner other = s.owner other := by
  rw [owner, setOwner, cell_modifyCell, if_neg (fun both => apart both.1)]
  rfl

theorem children_setChildren_self (inside : id < s.cells.size) (list : List NodeId) :
    (s.setChildren id list).children id = list := by
  rw [children, setChildren, cell_modifyCell, if_pos ⟨rfl, inside⟩]

theorem children_setChildren_of_ne (apart : id ≠ other) (list : List NodeId) :
    (s.setChildren id list).children other = s.children other := by
  rw [children, setChildren, cell_modifyCell, if_neg (fun both => apart both.1)]
  rfl

theorem content_setContent_self (inside : id < s.cells.size) (value : Content) :
    (s.setContent id value).content id = value := by
  rw [content, setContent, cell_modifyCell, if_pos ⟨rfl, inside⟩]

theorem content_setContent_of_ne (apart : id ≠ other) (value : Content) :
    (s.setContent id value).content other = s.content other := by
  rw [content, setContent, cell_modifyCell, if_neg (fun both => apart both.1)]
  rfl

variable (s)

@[simp]
theorem size_setChildren (list : List NodeId) :
    (s.setChildren id list).cells.size = s.cells.size :=
  Array.size_modify

@[simp]
theorem size_setOwner (owner : Option Owner) : (s.setOwner id owner).cells.size = s.cells.size :=
  Array.size_modify

@[simp]
theorem size_setContent (value : Content) :
    (s.setContent id value).cells.size = s.cells.size :=
  Array.size_modify

theorem content_add_self (value : Content) : (s.add value).2.content s.cells.size = value := by
  simp [add, content, cell]

variable {s}

theorem content_add_of_lt (inside : id < s.cells.size) (value : Content) :
    (s.add value).2.content id = s.content id := by
  simp [add, content, cell, Array.getElem?_push, Nat.ne_of_lt inside]

/-- A new node has no children, and neither has a node that is not there. -/
theorem children_add (value : Content) : (s.add value).2.children id = s.children id := by
  by_cases new : id = s.cells.size
  · simp [add, children, cell, new]
  · simp [add, children, cell, Array.getElem?_push, new]

/-- A new node hangs from nothing, and neither does a node that is not there. -/
theorem owner_add (value : Content) : (s.add value).2.owner id = s.owner id := by
  by_cases new : id = s.cells.size
  · simp [add, owner, cell, new]
  · simp [add, owner, cell, Array.getElem?_push, new]

theorem size_add (value : Content) : (s.add value).2.cells.size = s.cells.size + 1 := by
  simp [add]

/-- A node with a content other than that of a node which is not there is in the store. -/
theorem lt_size_of_content (there : s.content id ≠ .ignored) : id < s.cells.size := by
  by_contra outside
  simp [content, cell, outside] at there

theorem lt_size_of_mem_children (member : other ∈ s.children id) : id < s.cells.size := by
  by_contra outside
  simp [children, cell, outside] at member

theorem lt_size_of_leaf {part : Part} (leaf : s.content id = .leaf part) : id < s.cells.size :=
  lt_size_of_content (by simp [leaf])

/-! Equal stores -/

section Equal

variable {s : Store} {id other : NodeId} {f g : Cell → Cell}

theorem size_modifyCell : (s.modifyCell id f).cells.size = s.cells.size := Array.size_modify

theorem cell_add (content : Content) :
    (s.add content).2.cell other = if other = s.cells.size then { content } else s.cell other := by
  simp only [add, cell, Array.getElem?_push]
  split <;> rfl

/-- A store is known by its cells. -/
theorem eq_of_cell {after : Store} (setup : after.setup = s.setup) (queue : after.queue = s.queue)
    (size : after.cells.size = s.cells.size) (cell : ∀ id, after.cell id = s.cell id) :
    after = s := by
  obtain ⟨_, _, cells⟩ := after
  obtain ⟨_, _, others⟩ := s
  cases setup
  cases queue
  congr 1
  apply Array.ext size
  intro place inside within
  have same := cell place
  simpa [Store.cell, inside, within] using same

theorem modifyCell_modifyCell :
    (s.modifyCell id f).modifyCell id g = s.modifyCell id fun cell => g (f cell) := by
  refine eq_of_cell rfl rfl (by simp [size_modifyCell]) ?_
  intro place
  simp only [cell_modifyCell, size_modifyCell]
  grind

theorem modifyCell_comm (apart : id ≠ other) :
    (s.modifyCell id f).modifyCell other g = (s.modifyCell other g).modifyCell id f := by
  refine eq_of_cell rfl rfl (by simp [size_modifyCell]) ?_
  intro place
  simp only [cell_modifyCell, size_modifyCell]
  grind

/-- A node that is there can be changed before or after another one is added. -/
theorem add_modifyCell (inside : id < s.cells.size) (content : Content) :
    ((s.modifyCell id f).add content).2 = (s.add content).2.modifyCell id f := by
  refine eq_of_cell rfl rfl (by simp [size_modifyCell, size_add]) ?_
  intro place
  simp only [cell_modifyCell, cell_add, size_modifyCell, size_add]
  grind

theorem add_setContent (content after : Content) :
    (s.add content).2.setContent s.cells.size after = (s.add after).2 := by
  refine eq_of_cell rfl rfl (by simp [size_add]) ?_
  intro place
  simp only [setContent, cell_modifyCell, cell_add, size_add]
  grind

/-- A list of children that is written again is as if it was written once. -/
theorem setChildren_setOwner_setChildren {owner : Option Owner} {children again : List NodeId} :
    ((s.setChildren id children).setOwner other owner).setChildren id again =
      (s.setChildren id again).setOwner other owner := by
  refine eq_of_cell rfl rfl (by simp) ?_
  intro place
  simp only [setChildren, setOwner, cell_modifyCell, size_modifyCell]
  grind

theorem setChildren_children : s.setChildren id (s.children id) = s := by
  refine eq_of_cell rfl rfl (by simp) ?_
  intro place
  simp only [setChildren, cell_modifyCell]
  split
  next same => rw [same.1, children]
  · rfl

end Equal

end HtmlTemplate.Dom.Store

namespace HtmlTemplate.Dom

section Runs

variable {s after : Store}

theorem cloneNode_eq (id : NodeId) (s : Store) : cloneNode id s = newNode (s.content id) s := by
  rw [cloneNode, get_bind]
  cases s.content id <;> rfl

theorem reparentChildren_eq {source target : NodeId}
    (moved : forM (s.children source) (append target) s = .ok () after) :
    reparentChildren source target s = .ok () (after.setChildren source []) := by
  rw [reparentChildren, get_bind]
  exact bind_ok moved _

end Runs

end HtmlTemplate.Dom
