import HtmlTemplate.Proofs.Dom.Joining
import HtmlTemplate.Proofs.Dom.Planting

/-!
Text that comes in chunks. A parser hands text on in chunks of its own choice, and what is appended to
a node does not depend on them: a text that stands last goes on in the next chunk, so it is as if all
had been appended at once. The stores are the same, down to the numbers of the new nodes.

If no text stands next to a text among the children of a node, and none is empty, appending text
keeps it so.
-/

namespace HtmlTemplate.Dom

section Steps

variable {s : Store} {parent : NodeId}

/-! One part after the other -/

theorem Store.setContent_setContent (id : NodeId) (first second : Content) :
    (s.setContent id first).setContent id second = s.setContent id second := by
  simp only [Store.setContent]
  rw [Store.modifyCell_modifyCell]

/-- A leaf that is hung up and changed might have been hung up as it is then. -/
theorem Store.hang_setContent (inside : parent < s.cells.size) (part other : Part) :
    (s.hang parent part).setContent s.cells.size (.leaf other) = s.hang parent other := by
  rw [Store.hang, Store.hang, ← Store.add_setContent (.leaf part) (.leaf other)]
  simp only [Store.setContent, Store.setOwner, Store.setChildren]
  rw [Store.modifyCell_modifyCell, Store.modifyCell_comm (Nat.ne_of_gt inside),
    Store.modifyCell_modifyCell]

/-- Two texts, one after the other, are one text. -/
theorem appendPart_text_text (inside : parent < s.cells.size) (before value : String) :
    ∃ mid, appendPart parent (.text before) s = .ok () mid ∧
      appendPart parent (.text value) mid = appendPart parent (.text (before ++ value)) s := by
  rcases appendPart_cases parent (.text before) s with
    ⟨_, id, old, ⟨⟩, opens, leaf, step⟩ | ⟨closed, step⟩
  · have grown := Store.content_setContent_self (Store.lt_size_of_leaf leaf)
      (.leaf (.text (old ++ before)))
    refine ⟨_, step, ?_⟩
    rw [appendPart_of_open (Store.openText_setContent opens leaf _) grown,
      appendPart_of_open opens leaf, Store.setContent_setContent, String.append_assoc]
  · have leaf : (s.hang parent (.text before)).content s.cells.size = .leaf (.text before) :=
      Store.content_hang_self _
    have opens := Store.openText_of_last (Store.children_hang inside (.text before)) _ leaf
    refine ⟨_, step, ?_⟩
    rw [appendPart_of_open opens leaf, Store.hang_setContent inside, appendPart_of_closed]
    exact fun _ _ => closed before rfl

theorem appendPart_grows (parent : NodeId) (part : Part) (s : Store) :
    ∃ after, appendPart parent part s = .ok () after ∧ s.cells.size ≤ after.cells.size := by
  rcases appendPart_cases parent part s with ⟨_, _, _, -, -, -, step⟩ | ⟨-, step⟩
  · exact ⟨_, step, by simp⟩
  · exact ⟨_, step, by simp [Store.size_hang]⟩

/-- Parts are appended without a look at the queue. -/
theorem appendPart_queue {part : Part} {after : Store} (queue : Queue)
    (step : appendPart parent part s = .ok () after) :
    appendPart parent part { s with queue } = .ok () { after with queue } := by
  rcases appendPart_cases parent part s with
    ⟨value, id, before, rfl, opens, leaf, run⟩ | ⟨closed, run⟩
  · rw [run] at step
    cases step
    exact appendPart_of_open (s := { s with queue }) opens leaf value
  · rw [run] at step
    cases step
    exact appendPart_of_closed (s := { s with queue }) closed

/-! Parts in a row -/

theorem forM_appendPart_grows (parent : NodeId) (parts : List Part) (s : Store) :
    ∃ after, parts.forM (appendPart parent) s = .ok () after ∧ s.cells.size ≤ after.cells.size := by
  apply forM_appendPart_keeps _ (Nat.le_refl _)
  intro part _ mid first
  obtain ⟨after, step, later⟩ := appendPart_grows parent part mid
  exact ⟨after, step, first.trans later⟩

theorem forM_appendPart_append {front : List Part} {mid : Store}
    (run : front.forM (appendPart parent) s = .ok () mid) (back : List Part) :
    (front ++ back).forM (appendPart parent) s = back.forM (appendPart parent) mid := by
  induction front generalizing s with
  | nil =>
    cases run
    rfl
  | cons part rest ih =>
    obtain ⟨between, step, -⟩ := appendPart_grows parent part s
    rw [forM_appendPart_cons step] at run
    rw [List.cons_append, forM_appendPart_cons step, ih run]

theorem forM_appendPart_queue {parts : List Part} {after : Store} (queue : Queue)
    (run : parts.forM (appendPart parent) s = .ok () after) :
    parts.forM (appendPart parent) { s with queue } = .ok () { after with queue } := by
  induction parts generalizing s with
  | nil =>
    cases run
    rfl
  | cons part rest ih =>
    obtain ⟨mid, step, -⟩ := appendPart_grows parent part s
    rw [forM_appendPart_cons step] at run
    rw [forM_appendPart_cons (appendPart_queue queue step), ih run]

/-- It makes no difference whether a part is added to a list of parts, or appended behind it. -/
theorem forM_addPart (inside : parent < s.cells.size) (parts : List Part) (part : Part) :
    (addPart parts part).forM (appendPart parent) s =
      (parts ++ [part]).forM (appendPart parent) s := by
  rcases closed_or_text parts with closed | ⟨front, before, rfl⟩
  · rw [addPart_of_closed closed]
  · cases part with
    | tag tag => rfl
    | text value =>
      obtain ⟨mid, run, size⟩ := forM_appendPart_grows parent front s
      obtain ⟨last, step, joined⟩ := appendPart_text_text (inside.trans_le size) before value
      obtain ⟨after, done, -⟩ := appendPart_grows parent (.text value) last
      rw [addPart_text_text, List.append_assoc, forM_appendPart_append run,
        forM_appendPart_append run, List.singleton_append, forM_appendPart_cons step,
        forM_appendPart_cons done, forM_appendPart_cons (joined.symm.trans done)]

theorem forM_foldl_addPart (inside : parent < s.cells.size) (parts more : List Part) :
    (more.foldl addPart parts).forM (appendPart parent) s =
      (parts ++ more).forM (appendPart parent) s := by
  induction more generalizing parts with
  | nil => rw [List.foldl_nil, List.append_nil]
  | cons part rest ih =>
    obtain ⟨mid, run, -⟩ := forM_appendPart_grows parent (parts ++ [part]) s
    rw [List.foldl_cons, ih,
      forM_appendPart_append ((forM_addPart inside parts part).trans run),
      ← forM_appendPart_append run, List.append_assoc, List.singleton_append]

end Steps

/-! Chunks -/

section Chunks

variable {c : Char} {s : Store} {parent : NodeId}

/-- Text is appended as the parts that it expands to, and then the directives in it are gone from
the queue. -/
theorem insertText_of_pops (parent : NodeId) (single : s.setup.sentinel = [c])
    {data : List Char} {taken : List Tag} {r : Queue} (pops : s.queue.Pops taken r)
    (all : taken.length = data.count c) :
    ∃ parts after, Normal parts ∧ marks parts = fill c data taken ∧
      parts.forM (appendPart parent) s = .ok () after ∧
      insertText parent data none s = .ok () { after with queue := r } := by
  obtain ⟨parts, expanded, normal, shown⟩ := expand_single single pops all
  obtain ⟨after, run, -⟩ := forM_appendPart_grows parent parts s
  refine ⟨parts, after, normal, shown, run, ?_⟩
  rw [insertText_end expanded, forM_appendPart_queue r run]

/-- Appending text does not fail as long as there is a directive for each sentinel. -/
theorem insertText_takes (single : s.setup.sentinel = [c]) (inside : parent < s.cells.size)
    {data : List Char} (enough : data.count c ≤ s.queue.size) :
    ∃ after, insertText parent data none s = .ok () after ∧ after.setup.sentinel = [c] ∧
      parent < after.cells.size ∧ after.queue.size + data.count c = s.queue.size := by
  obtain ⟨taken, r, pops, all⟩ := Queue.exists_pops_of_le enough
  obtain ⟨parts, after, -, -, run, inserted⟩ := insertText_of_pops parent single pops all
  obtain ⟨_, again, -, setup, -⟩ := forM_appendPart parts parent s
  rw [run] at again
  cases again
  obtain ⟨_, again, size⟩ := forM_appendPart_grows parent parts s
  rw [run] at again
  cases again
  exact ⟨_, inserted, setup ▸ single, inside.trans_le size, all ▸ pops.size⟩

/-- Two chunks, one after the other, are one. -/
theorem insertText_append (single : s.setup.sentinel = [c]) (inside : parent < s.cells.size)
    {a b : List Char} (enough : (a ++ b).count c ≤ s.queue.size) :
    ∃ mid, insertText parent a none s = .ok () mid ∧
      insertText parent b none mid = insertText parent (a ++ b) none s := by
  obtain ⟨taken, last, pops, all⟩ := Queue.exists_pops_of_le enough
  obtain ⟨first, second, r, rfl, mine, yours, popsFirst, popsSecond⟩ := pops.divide all
  obtain ⟨front, before, normal, shown, run, inserted⟩ :=
    insertText_of_pops parent single popsFirst mine
  obtain ⟨_, again, -, setup, -⟩ := forM_appendPart front parent s
  rw [run] at again
  cases again
  have still : ({ before with queue := r } : Store).setup.sentinel = [c] := setup ▸ single
  obtain ⟨back, after, normalBack, shownBack, runBack, insertedBack⟩ :=
    insertText_of_pops parent still popsSecond yours
  obtain ⟨parts, whole, normalAll, shownAll, runAll, insertedAll⟩ :=
    insertText_of_pops parent single pops all
  -- Both show the same, and normal parts are known by what they show.
  have joined : parts = back.foldl addPart front := by
    apply normalAll.eq_foldl_addPart normal normalBack
    rw [shownAll, shown, shownBack, fill_append mine]
  have same : back.forM (appendPart parent) before = .ok () whole := by
    rw [← forM_appendPart_append run, ← forM_foldl_addPart inside, ← joined, runAll]
  rw [forM_appendPart_queue r same] at runBack
  cases runBack
  exact ⟨_, inserted, insertedBack.trans insertedAll.symm⟩

theorem insertText_nil (single : s.setup.sentinel = [c]) :
    insertText parent [] none s = .ok () s := by
  rw [insertText_end (expand_nil (by simp [single]))]
  rfl

/-- Any chunks, one after the other, are one. -/
theorem insertText_chunks (single : s.setup.sentinel = [c]) (inside : parent < s.cells.size)
    {chunks : List (List Char)} (enough : chunks.flatten.count c ≤ s.queue.size) :
    chunks.forM (insertText parent · none) s = insertText parent chunks.flatten none s := by
  induction chunks generalizing s with
  | nil => exact (insertText_nil single).symm
  | cons chunk rest ih =>
    rw [List.flatten_cons] at enough ⊢
    obtain ⟨mid, first, joined⟩ := insertText_append single inside enough
    rw [List.count_append] at enough
    obtain ⟨_, again, still, within, size⟩ :=
      insertText_takes single inside (Nat.le_of_add_right_le enough)
    rw [first] at again
    cases again
    have left : rest.flatten.count c ≤ mid.queue.size := by omega
    rw [← joined, ← ih still within left]
    exact bind_ok first _

end Chunks

/-! Texts apart -/

/-- The children of a node are nodes of the store, no text among them stands next to a text, and none
is empty. -/
structure Store.Tidy (s : Store) (parent : NodeId) : Prop where
  listed : ∀ id ∈ s.children parent, id < s.cells.size
  apart : s.TextsApart (s.children parent)
  filled : ∀ id ∈ s.children parent, s.textOf? id ≠ some ""

section Tidy

variable {s : Store} {parent : NodeId}

/-- A text that goes on is still a text, and in its old place. -/
theorem Store.Tidy.setContent (tidy : s.Tidy parent) {id : NodeId} {before text : String}
    (leaf : s.content id = .leaf (.text before)) (filled : text ≠ "") :
    (s.setContent id (.leaf (.text text))).Tidy parent := by
  have grown : (s.setContent id (.leaf (.text text))).textOf? id = some text :=
    textOf?_eq_some_iff.mpr (content_setContent_self (lt_size_of_leaf leaf) _)
  have others {other : NodeId} (apart : other ≠ id) :
      (s.setContent id (.leaf (.text text))).textOf? other = s.textOf? other :=
    textOf?_congr (content_setContent_of_ne (Ne.symm apart) _)
  constructor
  · intro other member
    rw [children_setContent] at member
    simpa using tidy.listed other member
  · rw [children_setContent, textsApart_congr]
    · exact tidy.apart
    · intro other _
      by_cases same : other = id
      · rw [same, grown, textOf?_eq_some_iff.mpr leaf]
        simp
      · rw [others same]
  · intro other member
    rw [children_setContent] at member
    by_cases same : other = id
    · rw [same, grown]
      simpa using filled
    · rw [others same]
      exact tidy.filled other member

/-- A new leaf stands behind the last child, which is no text if the leaf is one. -/
theorem Store.Tidy.hang (tidy : s.Tidy parent) (inside : parent < s.cells.size) {part : Part}
    (closed : ∀ value, part = .text value → s.openText parent = [])
    (filled : partMarks part ≠ []) : (s.hang parent part).Tidy parent := by
  have old {id : NodeId} (member : id ∈ s.children parent) :
      (s.hang parent part).textOf? id = s.textOf? id :=
    textOf?_congr (content_hang_of_lt (tidy.listed id member) part)
  have new (text : String) (found : (s.hang parent part).textOf? s.cells.size = some text) :
      part = .text text := by
    have leaf := textOf?_eq_some_iff.mp found
    rw [content_hang_self] at leaf
    cases leaf
    rfl
  have children := children_hang inside part
  constructor
  · intro id member
    rw [size_hang]
    rw [children, List.mem_append, List.mem_singleton] at member
    rcases member with before | rfl
    · exact Nat.lt_succ_of_lt (tidy.listed id before)
    · exact Nat.lt_succ_self _
  · have front : (s.hang parent part).TextsApart (s.children parent) :=
      (textsApart_congr fun id member => by rw [old member]).mpr tidy.apart
    rw [children]
    apply List.isChain_append.mpr ⟨front, .singleton _, _⟩
    intro last isLast id isNew
    cases Option.some.inj isNew
    -- Two texts could meet only if the leaf is one, and then the last child is none.
    cases text : (s.hang parent part).textOf? s.cells.size with
    | none => exact .inr rfl
    | some value =>
      left
      rw [old (List.mem_of_getLast? isLast)]
      exact textOf?_of_openText (closed value (new value text)) isLast
  · intro id member empty
    rw [children, List.mem_append, List.mem_singleton] at member
    rcases member with before | rfl
    · exact tidy.filled id before (old before ▸ empty)
    · exact filled (by simp [new "" empty, partMarks])

theorem Store.Tidy.appendPart (tidy : s.Tidy parent) (inside : parent < s.cells.size) {part : Part}
    (filled : partMarks part ≠ []) :
    ∃ after, Dom.appendPart parent part s = .ok () after ∧ after.Tidy parent := by
  rcases appendPart_cases parent part s with
    ⟨value, id, before, rfl, -, leaf, step⟩ | ⟨closed, step⟩
  · have longer : before ++ value ≠ "" := by
      intro empty
      have none : value.toList = [] := by
        have both := congrArg String.toList empty
        rw [String.toList_append] at both
        exact (List.append_eq_nil_iff.mp both).2
      exact filled (by simp [partMarks, none])
    exact ⟨_, step, tidy.setContent leaf longer⟩
  · exact ⟨_, step, tidy.hang inside closed filled⟩

theorem Store.Tidy.forM_appendPart (tidy : s.Tidy parent) (inside : parent < s.cells.size)
    {parts : List Part} (solid : Solid parts) :
    ∃ after, parts.forM (Dom.appendPart parent) s = .ok () after ∧ after.Tidy parent := by
  have step : ∀ part ∈ parts, ∀ mid : Store, mid.Tidy parent ∧ parent < mid.cells.size →
      ∃ after, Dom.appendPart parent part mid = .ok () after ∧ after.Tidy parent ∧
        parent < after.cells.size := by
    rintro part member mid ⟨tidy, inside⟩
    obtain ⟨after, run, tidier⟩ := tidy.appendPart inside (solid part member)
    obtain ⟨_, again, size⟩ := appendPart_grows parent part mid
    rw [run] at again
    cases again
    exact ⟨after, run, tidier, inside.trans_le size⟩
  obtain ⟨after, run, last, -⟩ := forM_appendPart_keeps step ⟨tidy, inside⟩
  exact ⟨after, run, last⟩

theorem Store.Tidy.insertText {c : Char} (tidy : s.Tidy parent) (single : s.setup.sentinel = [c])
    (inside : parent < s.cells.size) {data : List Char} (enough : data.count c ≤ s.queue.size) :
    ∃ after, Dom.insertText parent data none s = .ok () after ∧ after.Tidy parent := by
  obtain ⟨taken, r, pops, all⟩ := Queue.exists_pops_of_le enough
  obtain ⟨parts, after, normal, -, run, inserted⟩ := insertText_of_pops parent single pops all
  obtain ⟨_, again, last⟩ := tidy.forM_appendPart inside normal.solid
  rw [run] at again
  cases again
  exact ⟨_, inserted, last.listed, last.apart, last.filled⟩

end Tidy

/-- Appending text depends on the text only, not on the chunks in which it comes. If there is a
directive for each sentinel, two chunks, one after the other, leave the store as the two in one do;
so do any number of them. Where no text stood next to a text and none was empty, it is so afterwards. -/
theorem insertText_ignores_chunks {c : Char} {s : Store} {parent : NodeId}
    (single : s.setup.sentinel = [c]) (container : s.isContainer parent = true) :
    (∀ a b : List Char, (a ++ b).count c ≤ s.queue.size →
      ∃ after, (do insertText parent a none; insertText parent b none) s = .ok () after ∧
        insertText parent (a ++ b) none s = .ok () after) ∧
    ∀ chunks : List (List Char), chunks.flatten.count c ≤ s.queue.size →
      ∃ after, chunks.forM (insertText parent · none) s = .ok () after ∧
        insertText parent chunks.flatten none s = .ok () after ∧
        (s.Tidy parent → after.Tidy parent) := by
  have inside := Store.lt_size_of_isContainer container
  constructor
  · intro a b enough
    obtain ⟨mid, first, joined⟩ := insertText_append single inside enough
    obtain ⟨after, run, -⟩ := insertText_takes single inside enough
    refine ⟨after, ?_, run⟩
    rw [bind_ok first, joined, run]
  · intro chunks enough
    obtain ⟨after, run, -⟩ := insertText_takes single inside enough
    refine ⟨after, (insertText_chunks single inside enough).trans run, run, ?_⟩
    intro tidy
    obtain ⟨_, again, last⟩ := tidy.insertText single inside enough
    rw [run] at again
    cases again
    exact last

/-- A paragraph that ends in a text, and two directives, each marked by a number sign. -/
def openParagraph : Store :=
  { setup := { sentinel := ['#'], booleans := [], ns := none }
    queue := .ofList [.expression (.variable "title"), .endIfTag]
    cells := #[{ content := .element "p" none [], children := [1, 2] },
      { content := .element "b" none [], owner := some (.node 0) },
      { content := .leaf (.text "x"), owner := some (.node 0) }] }

theorem tidy_openParagraph : openParagraph.Tidy 0 := by
  constructor
  · decide +kernel
  · exact .cons_cons (.inl rfl) (.singleton _)
  · decide +kernel

/-- The cuts fall inside a text, behind a sentinel, and on nothing. -/
theorem insertText_ignores_chunks_paragraph :
    openParagraph.isContainer 0 = true ∧ openParagraph.Tidy 0 ∧
      ∃ after, [['y'], ['z', '#'], [], ['#', 'w']].forM (insertText 0 · none) openParagraph =
          .ok () after ∧
        insertText 0 ['y', 'z', '#', '#', 'w'] none openParagraph = .ok () after ∧
        after.Tidy 0 := by
  have container : openParagraph.isContainer 0 = true := by decide +kernel
  obtain ⟨-, chunks⟩ := insertText_ignores_chunks (c := '#') rfl container
  obtain ⟨after, cut, whole, tidy⟩ :=
    chunks [['y'], ['z', '#'], [], ['#', 'w']] (by decide +kernel)
  exact ⟨container, tidy_openParagraph, after, cut, whole, tidy tidy_openParagraph⟩

end HtmlTemplate.Dom
