import HtmlTemplate.Dom.Export
import HtmlTemplate.Proofs.Dom.Conservation
import Mathlib.Data.List.Chain

/-!
A node whose children are leaves. What it shows is a list of parts, and text that is appended to it
piece by piece is the same as text that is appended at once: a character goes on in the text that
stands last. The tree of such a node is read off from its parts.
-/

namespace HtmlTemplate.Dom

/-- Parts with one more behind them; a text goes on in a text that stands last. -/
def addPart (parts : List Part) : Part → List Part
  | .text value =>
    match parts.getLast? with
    | some (.text before) => parts.dropLast ++ [.text (before ++ value)]
    | _ => parts ++ [.text value]
  | .tag tag => parts ++ [.tag tag]

/-- Parts with one more character or directive behind them. -/
def addMark (parts : List Part) : Mark → List Part
  | .char c => addPart parts (.text (String.singleton c))
  | .tag tag => addPart parts (.tag tag)
  | .node _ => parts

theorem addPart_text_text (front : List Part) (before value : String) :
    addPart (front ++ [.text before]) (.text value) = front ++ [.text (before ++ value)] := by
  simp [addPart]

/-- No text stands last. -/
def Closed (parts : List Part) : Prop := ∀ value, parts.getLast? ≠ some (.text value)

theorem addPart_of_closed {parts : List Part} (closed : Closed parts) (part : Part) :
    addPart parts part = parts ++ [part] := by
  cases part with
  | tag tag => rfl
  | text value =>
    simp only [addPart]
    split
    next before last => exact absurd last (closed before)
    next => rfl

/-- A list of parts ends with a text, or is closed. -/
theorem closed_or_text (parts : List Part) :
    Closed parts ∨ ∃ front before, parts = front ++ [.text before] := by
  cases last : parts.getLast? with
  | none => exact .inl fun value => by simp [last]
  | some part =>
    cases part with
    | tag tag => exact .inl fun value => by simp [last]
    | text before =>
      exact .inr ⟨parts.dropLast, before, (List.dropLast_append_getLast? _ last).symm⟩

theorem foldl_addMark_char (front : List Part) (before : String) (text : List Char) :
    (text.map Mark.char).foldl addMark (front ++ [.text before]) =
      front ++ [.text (before ++ String.ofList text)] := by
  induction text generalizing before with
  | nil => simp
  | cons c rest ih =>
    rw [List.map_cons, List.foldl_cons, addMark, addPart_text_text, ih]
    have same : before ++ String.singleton c ++ String.ofList rest =
        before ++ String.ofList (c :: rest) := by
      apply String.toList_injective
      simp
    rw [same]

/-- A text is appended like its characters, unless it is empty. -/
theorem foldl_addMark_text (parts : List Part) {text : List Char} (filled : text ≠ []) :
    (text.map Mark.char).foldl addMark parts = addPart parts (.text (String.ofList text)) := by
  obtain ⟨c, rest, rfl⟩ := List.exists_cons_of_ne_nil filled
  have whole : String.singleton c ++ String.ofList rest = String.ofList (c :: rest) := by
    apply String.toList_injective
    simp
  rw [List.map_cons, List.foldl_cons, addMark]
  rcases closed_or_text parts with closed | ⟨front, before, rfl⟩
  · rw [addPart_of_closed closed, addPart_of_closed closed, foldl_addMark_char, whole]
  · rw [addPart_text_text, addPart_text_text, foldl_addMark_char, String.append_assoc, whole]

/-- Parts that show something. -/
def Solid (parts : List Part) : Prop := ∀ part ∈ parts, partMarks part ≠ []

theorem foldl_addPart {more : List Part} (solid : Solid more) (parts : List Part) :
    more.foldl addPart parts = (marks more).foldl addMark parts := by
  induction more generalizing parts with
  | nil => rfl
  | cons part rest ih =>
    obtain ⟨first, others⟩ := List.forall_mem_cons.mp solid
    have one : addPart parts part = (partMarks part).foldl addMark parts := by
      cases part with
      | tag tag => rfl
      | text value =>
        have filled : value.toList ≠ [] := fun empty => first (by simp [partMarks, empty])
        rw [partMarks, foldl_addMark_text parts filled, String.ofList_toList]
    rw [List.foldl_cons, ih others, one, marks, marks, List.flatMap_cons, List.foldl_append]

theorem solid_textPart (piece : List Char) : Solid (joinPieces.textPart piece) := by
  intro part member
  cases piece with
  | nil => cases member
  | cons c rest =>
    rw [joinPieces.textPart, if_neg (by simp), List.mem_singleton] at member
    simp [member, partMarks]

/-- What holds of the parts of one piece, and goes on to hold when a piece and a tag are put in front,
holds of all that pieces are joined to. -/
theorem joinPieces_induction {holds : List Part → Prop} (empty : holds [])
    (last : ∀ piece, holds (joinPieces.textPart piece))
    (more : ∀ piece tag parts, holds parts → holds (joinPieces.textPart piece ++ .tag tag :: parts))
    {pieces : List (List Char)} {q r : Queue} {parts : List Part}
    (joined : joinPieces pieces q = (.ok parts, r)) : holds parts := by
  induction pieces generalizing q r parts with
  | nil =>
    cases joined
    exact empty
  | cons piece rest ih =>
    cases rest with
    | nil =>
      cases joined
      exact last piece
    | cons next rest =>
      -- Between two pieces a tag is taken; if there is none, nothing has been joined.
      cases first : q.pop with
      | error e =>
        rw [joinPieces, first] at joined
        · cases joined
        · simp
      | ok popped =>
        obtain ⟨tag, left⟩ := popped
        rw [joinPieces_cons first] at joined
        cases inner : joinPieces (next :: rest) left with
        | mk outcome last =>
          rw [inner] at joined
          cases outcome with
          | error e => cases (Prod.mk.inj joined).1
          | ok inside =>
            cases (Prod.mk.inj joined).1
            exact more piece tag inside (ih inner)

theorem Solid.piece_cons {parts : List Part} (solid : Solid parts) (piece : List Char) (tag : Tag) :
    Solid (joinPieces.textPart piece ++ .tag tag :: parts) := by
  have tagged : Solid (.tag tag :: parts) :=
    List.forall_mem_cons.mpr ⟨by simp [partMarks], solid⟩
  exact List.forall_mem_append.mpr ⟨solid_textPart piece, tagged⟩

/-- Empty pieces are left out when pieces are joined. -/
theorem solid_joinPieces {pieces : List (List Char)} {q r : Queue} {parts : List Part}
    (joined : joinPieces pieces q = (.ok parts, r)) : Solid parts := by
  apply joinPieces_induction _ _ _ joined
  · exact List.forall_mem_nil _
  · exact solid_textPart
  · intro piece tag inside solid
    exact solid.piece_cons piece tag

/-- No text follows a text. -/
def Apart (parts : List Part) : Prop :=
  parts.IsChain fun left right => ∀ before value, left = .text before → right ≠ .text value

theorem apart_textPart (piece : List Char) : Apart (joinPieces.textPart piece) := by
  cases piece with
  | nil => exact .nil
  | cons c rest => exact .singleton _

theorem Apart.cons_tag {parts : List Part} (apart : Apart parts) (tag : Tag) :
    Apart (.tag tag :: parts) := by
  apply List.isChain_cons.mpr ⟨_, apart⟩
  intro next _ before value same
  cases same

theorem Apart.piece_cons {parts : List Part} (apart : Apart parts) (piece : List Char) (tag : Tag) :
    Apart (joinPieces.textPart piece ++ .tag tag :: parts) := by
  cases piece with
  | nil => exact apart.cons_tag tag
  | cons c rest =>
    apply List.isChain_cons.mpr ⟨_, apart.cons_tag tag⟩
    intro next second before value _
    cases Option.some.inj second
    simp

/-- Pieces have a tag between them when they are joined. -/
theorem apart_joinPieces {pieces : List (List Char)} {q r : Queue} {parts : List Part}
    (joined : joinPieces pieces q = (.ok parts, r)) : Apart parts := by
  apply joinPieces_induction _ _ _ joined
  · exact .nil
  · exact apart_textPart
  · intro piece tag inside apart
    exact apart.piece_cons piece tag

/-- Parts as a text expands to them: each shows something, and no text follows a text. -/
structure Normal (parts : List Part) : Prop where
  solid : Solid parts
  apart : Apart parts

/-- Where there are enough directives, a text expands to parts that show it with its sentinels
replaced. -/
theorem expand_single {c : Char} {s : Store} {data : List Char} {taken : List Tag} {r : Queue}
    (single : s.setup.sentinel = [c]) (pops : s.queue.Pops taken r)
    (all : taken.length = data.count c) :
    ∃ parts, expand data s = .ok parts { s with queue := r } ∧ Normal parts ∧
      marks parts = fill c data taken := by
  have count : taken.length = Text.countOf s.setup.sentinel data := by
    rw [single, Text.countOf_singleton, all]
  obtain ⟨parts, expanded, joined, shown⟩ := expand_enough (by simp [single]) pops count
  rw [single, weave_pieces c data taken all] at shown
  exact ⟨parts, expanded, ⟨solid_joinPieces joined, apart_joinPieces joined⟩, shown⟩

/-- Parts stay as they are when no text follows a text. -/
theorem foldl_addPart_of_apart {parts more : List Part} (apart : Apart (parts ++ more)) :
    more.foldl addPart parts = parts ++ more := by
  induction more generalizing parts with
  | nil => simp
  | cons part rest ih =>
    have step : addPart parts part = parts ++ [part] := by
      cases part with
      | tag tag => rfl
      | text value =>
        refine addPart_of_closed (fun before last => ?_) _
        exact (List.isChain_append.mp apart).2.2 _ last _ rfl before value rfl rfl
    rw [List.foldl_cons, step, ih (by simpa using apart)]
    simp

/-- A text is filled from the left to the right. -/
theorem fill_append {c : Char} {front : List Char} {taken : List Tag}
    (all : taken.length = front.count c) (back : List Char) (more : List Tag) :
    fill c (front ++ back) (taken ++ more) = fill c front taken ++ fill c back more := by
  induction front generalizing taken with
  | nil =>
    obtain rfl := List.length_eq_zero_iff.mp all
    rfl
  | cons d rest ih =>
    by_cases same : d = c
    · subst same
      rw [List.count_cons_self] at all
      cases taken with
      | nil => cases all
      | cons tag taken =>
        simp only [List.cons_append, fill, if_pos]
        rw [ih (Nat.succ.inj all)]
    · rw [List.count_cons_of_ne same] at all
      simp only [List.cons_append, fill, if_neg same]
      rw [ih all]

/-- The children of a node are leaves, each with one of the parts. -/
structure Store.Shows (s : Store) (parent : NodeId) (parts : List Part) : Prop where
  leaves : (s.children parent).map s.content = parts.map .leaf
  distinct : (s.children parent).Nodup
  inside : parent < s.cells.size

namespace Store.Shows

variable {s : Store} {parent : NodeId} {parts : List Part}

theorem exists_leaf (shows : s.Shows parent parts) {id : NodeId}
    (member : id ∈ s.children parent) : ∃ part, s.content id = .leaf part := by
  have shown : s.content id ∈ parts.map .leaf := shows.leaves ▸ List.mem_map_of_mem member
  obtain ⟨part, -, same⟩ := List.mem_map.mp shown
  exact ⟨part, same.symm⟩

theorem lt_size (shows : s.Shows parent parts) {id : NodeId} (member : id ∈ s.children parent) :
    id < s.cells.size := by
  obtain ⟨part, leaf⟩ := shows.exists_leaf member
  exact lt_size_of_leaf leaf

/-- If a text stands last, it is the last child that holds it. -/
theorem closed_of_openText (shows : s.Shows parent parts) (none : s.openText parent = []) :
    Closed parts := by
  rcases closed_or_text parts with closed | ⟨front, before, rfl⟩
  · exact closed
  · have leaves := shows.leaves
    rw [List.map_append, List.map_eq_append_iff] at leaves
    obtain ⟨first, last, split, -, shown⟩ := leaves
    obtain ⟨id, rfl, leaf⟩ := List.map_eq_singleton_iff.mp shown
    rw [openText_of_last split _ leaf] at none
    cases none

/-- A text that goes on in the last child goes on in the last part. -/
theorem setContent (shows : s.Shows parent parts) {id : NodeId} {before : String}
    (opens : s.openText parent = [id]) (leaf : s.content id = .leaf (.text before))
    (value : String) :
    (s.setContent id (.leaf (.text (before ++ value)))).Shows parent
      (addPart parts (.text value)) := by
  obtain ⟨front, last⟩ := last_of_openText opens
  have distinct := shows.distinct
  have leaves := shows.leaves.symm
  rw [last, List.map_append, List.map_singleton, leaf, List.map_eq_append_iff] at leaves
  obtain ⟨shown, text, rfl, same, one⟩ := leaves
  obtain ⟨_, rfl, one⟩ := List.map_eq_singleton_iff.mp one
  cases one
  rw [last] at distinct
  -- No child is listed twice, so those in front of the last keep their contents.
  have apart : ∀ other ∈ front, id ≠ other := by
    intro other member same
    exact (List.nodup_append.mp distinct).2.2 other member id (by simp) same.symm
  refine ⟨?_, ?_, by simpa using shows.inside⟩
  · rw [children_setContent, last, addPart_text_text, List.map_append, List.map_append, same,
      List.map_singleton, content_setContent_self (lt_size_of_leaf leaf), List.map_singleton]
    congr 1
    exact List.map_congr_left fun other member => content_setContent_of_ne (apart other member) _
  · rw [children_setContent, last]
    exact distinct

theorem hang (shows : s.Shows parent parts) (part : Part) :
    (s.hang parent part).Shows parent (parts ++ [part]) := by
  have children := children_hang shows.inside part
  refine ⟨?_, ?_, ?_⟩
  · rw [children, List.map_append, List.map_append, List.map_singleton, content_hang_self,
      ← shows.leaves]
    congr 1
    exact List.map_congr_left fun id member => content_hang_of_lt (shows.lt_size member) part
  · have new : s.cells.size ∉ s.children parent := fun member =>
      absurd (shows.lt_size member) (Nat.lt_irrefl _)
    rw [children]
    exact List.nodup_append.mpr ⟨shows.distinct, by simp, by grind⟩
  · rw [size_hang]
    exact Nat.lt_succ_of_lt shows.inside

/-- A part goes on in the text that stands last, or becomes a leaf behind the others. -/
theorem appendPart (shows : s.Shows parent parts) (part : Part) :
    ∃ after, Dom.appendPart parent part s = .ok () after ∧ after.queue = s.queue ∧
      after.setup = s.setup ∧ after.Shows parent (addPart parts part) := by
  rcases appendPart_cases parent part s with
    ⟨value, id, before, rfl, opens, leaf, step⟩ | ⟨closed, step⟩
  · exact ⟨_, step, rfl, rfl, shows.setContent opens leaf value⟩
  · have behind : addPart parts part = parts ++ [part] := by
      cases part with
      | tag tag => rfl
      | text value => exact addPart_of_closed (shows.closed_of_openText (closed value rfl)) _
    refine ⟨_, step, rfl, rfl, ?_⟩
    rw [behind]
    exact shows.hang part

/-- Parts that are appended one by one. -/
theorem forM_appendPart (shows : s.Shows parent parts) (more : List Part) :
    ∃ after, more.forM (Dom.appendPart parent) s = .ok () after ∧ after.queue = s.queue ∧
      after.setup = s.setup ∧ after.Shows parent (more.foldl addPart parts) := by
  induction more generalizing s parts with
  | nil => exact ⟨s, rfl, rfl, rfl, shows⟩
  | cons part rest ih =>
    obtain ⟨mid, step, queue, setup, shown⟩ := shows.appendPart part
    obtain ⟨after, run, left, same, last⟩ := ih shown
    exact ⟨after, (forM_appendPart_cons step rest).trans run, left.trans queue, same.trans setup,
      last⟩

/-- Text is appended mark by mark, its sentinels replaced. -/
theorem insertText {c : Char} {data : List Char} {taken : List Tag} {r : Queue}
    (shows : s.Shows parent parts) (single : s.setup.sentinel = [c])
    (pops : s.queue.Pops taken r) (all : taken.length = data.count c) :
    ∃ after, Dom.insertText parent data none s = .ok () after ∧ after.queue = r ∧
      after.setup = s.setup ∧ after.Shows parent ((fill c data taken).foldl addMark parts) := by
  obtain ⟨more, expanded, normal, shown⟩ := expand_single single pops all
  have shows' : Store.Shows { s with queue := r } parent parts :=
    ⟨shows.leaves, shows.distinct, shows.inside⟩
  obtain ⟨after, run, queue, setup, last⟩ := shows'.forM_appendPart more
  refine ⟨after, (insertText_end expanded).trans run, queue, setup, ?_⟩
  rw [← shown, ← foldl_addPart normal.solid]
  exact last

theorem add (shows : s.Shows parent parts) (content : Content) :
    (s.add content).2.Shows parent parts where
  leaves := by
    rw [children_add, ← shows.leaves]
    exact List.map_congr_left fun id member => content_add_of_lt (shows.lt_size member) content
  distinct := by
    rw [children_add]
    exact shows.distinct
  inside := by
    simpa [Store.add] using Nat.lt_succ_of_lt shows.inside

/-- Leaves are handed over to a node that has no children yet. -/
theorem reparent {target : NodeId} (shows : s.Shows parent parts) (bare : s.children target = [])
    (inside : target < s.cells.size) (apart : parent ≠ target) :
    ∃ after, reparentChildren parent target s = .ok () after ∧ after.queue = s.queue ∧
      after.content target = s.content target ∧ after.Shows target parts := by
  obtain ⟨mid, run, queue, -, size, content, children⟩ :=
    forM_append (s.children parent) target s
  have given : (mid.setChildren parent []).children target = s.children parent := by
    rw [children_setChildren_of_ne apart, children inside, bare, List.nil_append]
  refine ⟨mid.setChildren parent [], reparentChildren_eq run, queue, ?_, ?_⟩
  · rw [content_setChildren, content]
  · refine ⟨?_, ?_, ?_⟩
    · rw [given, ← shows.leaves]
      exact List.map_congr_left fun id _ => by rw [content_setChildren, content]
    · rw [given]
      exact shows.distinct
    · rw [size_setChildren, size]
      exact inside

theorem map_exportNode {fuel : Nat} (left : 0 < fuel) {ids : List NodeId} {parts : List Part}
    (leaves : ids.map s.content = parts.map .leaf) :
    ids.map (s.exportNode fuel) = parts.map Part.node := by
  obtain ⟨fuel, rfl⟩ := Nat.exists_eq_succ_of_ne_zero (Nat.ne_of_gt left)
  induction ids generalizing parts with
  | nil =>
    obtain rfl := List.map_eq_nil_iff.mp leaves.symm
    rfl
  | cons id rest ih =>
    obtain ⟨part, others, rfl, leaf, later⟩ := List.map_eq_cons_iff.mp leaves.symm
    rw [List.map_cons, List.map_cons, ih later.symm, exportNode, ← leaf]

/-- The tree of a fragment that shows parts has a node for each of them. -/
theorem tree (shows : s.Shows parent parts) (fragment : s.content parent = .fragment) :
    s.tree parent = .fragment (parts.map Part.node) := by
  have shown : s.shown parent = s.children parent := by
    refine List.filter_eq_self.mpr fun id member => ?_
    obtain ⟨part, leaf⟩ := shows.exists_leaf member
    simp [isIgnored, leaf]
  have nodes := map_exportNode (Nat.zero_lt_of_lt shows.inside) shows.leaves
  rw [Store.tree, exportNode, fragment]
  simp only [shown, nodes]

end Store.Shows

end HtmlTemplate.Dom
