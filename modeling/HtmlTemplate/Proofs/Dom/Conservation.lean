import HtmlTemplate.Dom.Step
import HtmlTemplate.Proofs.Dom.Expansion

/-!
No directive is lost, taken twice or put out of order while a tree is built, whatever the steps.
Each step takes one directive for each sentinel in what it is given, or fails for want of the next;
other steps take none. What is taken by a step that succeeds stands where the sentinels stood. So
after any run the directives taken, followed by those in the queue, are those at the start.
-/

namespace HtmlTemplate.Dom

/-- What nodes show, place by place. -/
def Store.marks (s : Store) (ids : List NodeId) : List Mark :=
  ids.flatMap fun id =>
    match s.content id with
    | .leaf part => partMarks part
    | _ => [.node id]

/-- The last child of a node, if it is a text: appended text goes on in it. -/
def Store.openText (s : Store) (parent : NodeId) : List NodeId :=
  ((s.children parent).getLast?.filter fun id => (s.textOf? id).isSome).toList

namespace Store

variable {s : Store} {id parent : NodeId}

theorem marks_append (front back : List NodeId) :
    s.marks (front ++ back) = s.marks front ++ s.marks back :=
  List.flatMap_append

theorem marks_leaf {part : Part} (leaf : s.content id = .leaf part) :
    s.marks [id] = partMarks part := by
  simp [marks, leaf]

theorem marks_congr {after : Store} {ids : List NodeId}
    (same : ∀ id ∈ ids, after.content id = s.content id) : after.marks ids = s.marks ids := by
  refine List.flatMap_congr fun id member => ?_
  rw [same id member]

theorem textOf?_eq_some_iff {text : String} :
    s.textOf? id = some text ↔ s.content id = .leaf (.text text) := by
  unfold textOf?
  split <;> simp_all

theorem isContainer_congr {after : Store} (same : after.content id = s.content id) :
    after.isContainer id = s.isContainer id := by
  rw [isContainer, isContainer, same]

theorem lt_size_of_isContainer (container : s.isContainer id = true) : id < s.cells.size := by
  apply lt_size_of_content
  intro ignored
  simp [isContainer, ignored] at container

theorem openText_of_last {front : List NodeId} (last : s.children parent = front ++ [id])
    (part : Part) (leaf : s.content id = .leaf part) :
    s.openText parent = match part with | .text _ => [id] | .tag _ => [] := by
  cases part <;> simp [openText, last, textOf?, leaf]

theorem mem_openText (member : id ∈ s.openText parent) :
    ∃ text, s.content id = .leaf (.text text) := by
  rw [openText, Option.mem_toList, Option.filter_eq_some_iff, Option.isSome_iff_exists] at member
  obtain ⟨-, text, found⟩ := member
  exact ⟨text, textOf?_eq_some_iff.mp found⟩

theorem last_of_openText (opens : s.openText parent = [id]) :
    ∃ front, s.children parent = front ++ [id] := by
  have member : id ∈ s.openText parent := by simp [opens]
  rw [openText, Option.mem_toList, Option.filter_eq_some_iff] at member
  exact ⟨_, (List.dropLast_append_getLast? id member.1).symm⟩

/-- A text that goes on is still the last child, and still open. -/
theorem openText_setContent {before : String} (opens : s.openText parent = [id])
    (leaf : s.content id = .leaf (.text before)) (value : String) :
    (s.setContent id (.leaf (.text value))).openText parent = [id] := by
  obtain ⟨front, last⟩ := last_of_openText opens
  have grown := content_setContent_self (lt_size_of_leaf leaf) (.leaf (.text value))
  exact openText_of_last (by rw [children_setContent, last]) _ grown

/-- A store with a new leaf at the end of a node. -/
def hang (s : Store) (parent : NodeId) (part : Part) : Store :=
  ((s.add (.leaf part)).2.setChildren parent (s.children parent ++ [s.cells.size])).setOwner
    s.cells.size (some (.node parent))

theorem children_hang (inside : parent < s.cells.size) (part : Part) :
    (s.hang parent part).children parent = s.children parent ++ [s.cells.size] := by
  rw [hang, children_setOwner, children_setChildren_self]
  simpa [add] using Nat.lt_succ_of_lt inside

theorem content_hang_self (part : Part) :
    (s.hang parent part).content s.cells.size = .leaf part := by
  rw [hang, content_setOwner, content_setChildren, content_add_self]

theorem content_hang_of_lt (inside : id < s.cells.size) (part : Part) :
    (s.hang parent part).content id = s.content id := by
  rw [hang, content_setOwner, content_setChildren, content_add_of_lt inside]

theorem size_hang (part : Part) : (s.hang parent part).cells.size = s.cells.size + 1 := by
  simp [hang, add]

end Store

/-- A part goes on in the text that stands last, or becomes a new leaf. -/
theorem appendPart_cases (parent : NodeId) (part : Part) (s : Store) :
    (∃ value id before, part = .text value ∧ s.openText parent = [id] ∧
      s.content id = .leaf (.text before) ∧ appendPart parent part s =
        .ok () (s.setContent id (.leaf (.text (before ++ value))))) ∨
      ((∀ value, part = .text value → s.openText parent = []) ∧
        appendPart parent part s = .ok () (s.hang parent part)) := by
  have new : (newNode (.leaf part) >>= append parent) s = .ok () (s.hang parent part) := by
    show EStateM.Result.ok () (((s.add (.leaf part)).2.setChildren parent
      ((s.add (.leaf part)).2.children parent ++ [s.cells.size])).setOwner
        s.cells.size (some (.node parent))) = _
    rw [Store.children_add, Store.hang]
  rw [appendPart, get_bind]
  cases part with
  | tag tag => exact .inr ⟨by simp, new⟩
  | text value =>
    cases last : (s.children parent).getLast? with
    | none => exact .inr ⟨fun _ _ => by simp [Store.openText, last], new⟩
    | some id =>
      cases text : s.textOf? id with
      | none =>
        right
        refine ⟨fun _ _ => by simp [Store.openText, last, text], ?_⟩
        simp only [Option.bind_some, text]
        exact new
      | some before =>
        left
        refine ⟨value, id, before, rfl, ?_, Store.textOf?_eq_some_iff.mp text, ?_⟩
        · simp [Store.openText, last, text]
        · simp only [Option.bind_some, text]
          rfl

theorem forM_appendPart_cons {parent : NodeId} {part : Part} {s after : Store}
    (step : appendPart parent part s = .ok () after) (rest : List Part) :
    (part :: rest).forM (appendPart parent) s = rest.forM (appendPart parent) after :=
  bind_ok step _

theorem insertText_end {parent : NodeId} {data : List Char} {parts : List Part} {s after : Store}
    (expanded : expand data s = .ok parts after) :
    insertText parent data none s = parts.forM (appendPart parent) after :=
  bind_ok expanded _

/-- What holds before a part is appended, and then still holds, holds when all are appended. -/
theorem forM_appendPart_keeps {parent : NodeId} {holds : Store → Prop} {parts : List Part}
    (step : ∀ part ∈ parts, ∀ s, holds s →
      ∃ after, appendPart parent part s = .ok () after ∧ holds after)
    {s : Store} (start : holds s) :
    ∃ after, parts.forM (appendPart parent) s = .ok () after ∧ holds after := by
  induction parts generalizing s with
  | nil => exact ⟨s, rfl, start⟩
  | cons part rest ih =>
    obtain ⟨first, others⟩ := List.forall_mem_cons.mp step
    obtain ⟨mid, appended, still⟩ := first s start
    obtain ⟨after, run, last⟩ := ih others still
    exact ⟨after, (forM_appendPart_cons appended rest).trans run, last⟩

/-- What is appended to a node stands behind what was there, some of it in a text that was open. -/
structure Appended (parent : NodeId) (shown : List Mark) (s after : Store) : Prop where
  placed : ∃ added, after.children parent = s.children parent ++ added ∧
    after.marks (s.openText parent ++ added) = s.marks (s.openText parent) ++ shown
  /-- Only the open text is changed. -/
  kept : ∀ id < s.cells.size, id ∉ s.openText parent → after.content id = s.content id

section

variable {parent : NodeId} {shown : List Mark} {s after : Store}

/-- What is appended behind a text that has gone on is appended behind all that the text shows. -/
theorem Appended.of_grown {id : NodeId} {before value : String} (opens : s.openText parent = [id])
    (leaf : s.content id = .leaf (.text before))
    (later : Appended parent shown (s.setContent id (.leaf (.text (before ++ value)))) after) :
    Appended parent (partMarks (.text value) ++ shown) s after := by
  obtain ⟨⟨added, children, placed⟩, kept⟩ := later
  have grown := Store.content_setContent_self (Store.lt_size_of_leaf leaf)
    (.leaf (.text (before ++ value)))
  rw [Store.openText_setContent opens leaf] at placed kept
  refine ⟨⟨added, ?_, ?_⟩, ?_⟩
  · rw [children, Store.children_setContent]
  · rw [opens, placed, Store.marks_leaf grown, Store.marks_leaf leaf]
    simp [partMarks]
  · intro other inStore apart
    rw [opens, List.mem_singleton] at apart
    rw [kept other (by simpa using inStore) (by simpa using apart),
      Store.content_setContent_of_ne (Ne.symm apart)]

/-- What is appended behind a new leaf is appended behind what the leaf shows. -/
theorem Appended.of_hang {part : Part} (inside : parent < s.cells.size)
    (later : Appended parent shown (s.hang parent part) after) :
    Appended parent (partMarks part ++ shown) s after := by
  obtain ⟨⟨added, children, placed⟩, kept⟩ := later
  have size : (s.hang parent part).cells.size = s.cells.size + 1 := Store.size_hang part
  have leaf : (s.hang parent part).content s.cells.size = .leaf part :=
    Store.content_hang_self part
  have opens := Store.openText_of_last (Store.children_hang inside part) part leaf
  rw [opens] at placed kept
  -- What was there before is not the new leaf, so it is as it was.
  have old : ∀ id < s.cells.size, after.content id = s.content id := by
    intro id inStore
    rw [kept id (size ▸ Nat.lt_succ_of_lt inStore), Store.content_hang_of_lt inStore]
    cases part <;> simp [Nat.ne_of_lt inStore]
  have behind : after.marks (s.cells.size :: added) = partMarks part ++ shown := by
    cases part with
    | text value => simpa [Store.marks_leaf leaf] using placed
    | tag tag =>
      -- No text goes on in a tag, so it still shows what it did.
      have same := kept s.cells.size (size ▸ Nat.lt_succ_self _) (by simp)
      rw [leaf] at same
      rw [← List.singleton_append, Store.marks_append, Store.marks_leaf same]
      simpa [Store.marks] using placed
  refine ⟨⟨s.cells.size :: added, ?_, ?_⟩, fun id inStore _ => old id inStore⟩
  · rw [children, Store.children_hang inside, List.append_assoc, List.singleton_append]
  · rw [Store.marks_append, behind]
    congr 1
    refine Store.marks_congr fun id member => ?_
    obtain ⟨text, found⟩ := Store.mem_openText member
    exact old id (Store.lt_size_of_leaf found)

end

/-- Parts that are appended one by one show what they show together. -/
theorem forM_appendPart (parts : List Part) (parent : NodeId) (s : Store) :
    ∃ after, parts.forM (appendPart parent) s = .ok () after ∧ after.queue = s.queue ∧
      after.setup = s.setup ∧
      (parent < s.cells.size → Appended parent (marks parts) s after) := by
  induction parts generalizing s with
  | nil =>
    refine ⟨s, rfl, rfl, rfl, fun _ => ⟨⟨[], by simp, by simp [marks]⟩, fun _ _ _ => rfl⟩⟩
  | cons part rest ih =>
    rcases appendPart_cases parent part s with
      ⟨value, id, before, rfl, opens, leaf, step⟩ | ⟨-, step⟩
    · obtain ⟨after, run, queue, setup, later⟩ :=
        ih (s.setContent id (.leaf (.text (before ++ value))))
      refine ⟨after, (forM_appendPart_cons step rest).trans run, queue, setup, fun inside => ?_⟩
      exact .of_grown opens leaf (later (by simpa using inside))
    · obtain ⟨after, run, queue, setup, later⟩ := ih (s.hang parent part)
      refine ⟨after, (forM_appendPart_cons step rest).trans run, queue, setup, fun inside => ?_⟩
      exact .of_hang inside (later (Store.size_hang part ▸ Nat.lt_succ_of_lt inside))

theorem mapM_newNode_cons {part : Part} {rest : List Part} {ids : List NodeId} {s after : Store}
    (run : rest.mapM (fun part => newNode (.leaf part)) (s.add (.leaf part)).2 = .ok ids after) :
    (part :: rest).mapM (fun part => newNode (.leaf part)) s =
      .ok (s.cells.size :: ids) after := by
  have first : newNode (.leaf part) s = .ok s.cells.size (s.add (.leaf part)).2 := rfl
  rw [List.mapM_cons, bind_ok first, bind_ok run]
  rfl

/-- New leaves show their parts, and change nothing else. -/
theorem mapM_newNode (parts : List Part) (s : Store) :
    ∃ ids after, parts.mapM (fun part => newNode (.leaf part)) s = .ok ids after ∧
      after.queue = s.queue ∧ after.setup = s.setup ∧ s.cells.size ≤ after.cells.size ∧
      (∀ id < s.cells.size, after.content id = s.content id) ∧
      (∀ id, after.children id = s.children id) ∧ after.marks ids = marks parts := by
  induction parts generalizing s with
  | nil => exact ⟨[], s, rfl, rfl, rfl, le_rfl, fun _ _ => rfl, fun _ => rfl, rfl⟩
  | cons part rest ih =>
    obtain ⟨ids, after, run, queue, setup, size, kept, children, shown⟩ :=
      ih (s.add (.leaf part)).2
    have grown : (s.add (.leaf part)).2.cells.size = s.cells.size + 1 := by simp [Store.add]
    have leaf : after.content s.cells.size = .leaf part := by
      rw [kept _ (by rw [grown]; exact Nat.lt_succ_self _), Store.content_add_self]
    refine ⟨s.cells.size :: ids, after, mapM_newNode_cons run, queue, setup, by omega, ?_, ?_, ?_⟩
    · intro id inside
      rw [kept id (by rw [grown]; exact Nat.lt_succ_of_lt inside), Store.content_add_of_lt inside]
    · intro id
      rw [children, Store.children_add]
    · rw [← List.singleton_append, Store.marks_append, Store.marks_leaf leaf, shown]
      simp [marks]

theorem foldl_setOwner (ids : List NodeId) (owner : Option Owner) (s : Store) :
    let after := ids.foldl (fun s id => s.setOwner id owner) s
    after.queue = s.queue ∧ after.setup = s.setup ∧
      (∀ id, after.content id = s.content id) ∧ ∀ id, after.children id = s.children id := by
  induction ids generalizing s with
  | nil => exact ⟨rfl, rfl, fun _ => rfl, fun _ => rfl⟩
  | cons id rest ih =>
    obtain ⟨queue, setup, content, children⟩ := ih (s.setOwner id owner)
    refine ⟨queue, setup, fun other => ?_, fun other => ?_⟩
    · rw [List.foldl_cons, content, Store.content_setOwner]
    · rw [List.foldl_cons, children, Store.children_setOwner]

/-- What a call of text insertion leaves behind: the text stands behind all that was there, or in
front of the first place of a child. -/
def PlacesText (parent : NodeId) (ref : Option NodeId) (shown : List Mark) (s after : Store) :
    Prop :=
  match ref with
  | none => Appended parent shown s after
  | some ref => ∃ front added back, s.children parent = front ++ back ∧
      after.children parent = front ++ added ++ back ∧ after.marks added = shown ∧
      (added ≠ [] → ref ∉ front ∧ back.head? = some ref)

/-- A node is not among the children of another. -/
def Failure.IsNotAChild (failure : Failure) : Prop :=
  ∃ child parent, failure = .notAChild child parent

theorem idxOf?_first {front back : List NodeId} {id : NodeId} (first : id ∉ front) :
    (front ++ id :: back).idxOf? id = some front.length := by
  refine List.idxOf?_eq_some_iff.mpr ⟨by simp, by simp, fun place before same => first ?_⟩
  rw [List.getElem_append_left before] at same
  rw [← same]
  exact List.getElem_mem before

theorem childIndex_of_split {parent child : NodeId} {front back : List NodeId} {s : Store}
    (split : s.children parent = front ++ child :: back) (first : child ∉ front) :
    childIndex parent child s = .ok front.length s := by
  simp only [childIndex, split, idxOf?_first first]

theorem childIndex_of_stray {parent child : NodeId} {s : Store}
    (stray : child ∉ s.children parent) :
    childIndex parent child s = .error (.notAChild (s.describe child) (s.nameOf parent)) s := by
  simp only [childIndex, List.idxOf?_eq_none_iff.mpr stray]

theorem childIndex_cases (parent child : NodeId) (s : Store) :
    (∃ front back, s.children parent = front ++ child :: back ∧ child ∉ front ∧
      childIndex parent child s = .ok front.length s) ∨
      ∃ e, Failure.IsNotAChild e ∧ childIndex parent child s = .error e s := by
  by_cases member : child ∈ s.children parent
  · left
    obtain ⟨front, back, split, first⟩ := List.eq_append_cons_of_mem member
    exact ⟨front, back, split, first, childIndex_of_split split first⟩
  · exact .inr ⟨_, ⟨_, _, rfl⟩, childIndex_of_stray member⟩

theorem insertBefore_cases (parent child ref : NodeId) (s : Store) :
    (∃ front back, s.children parent = front ++ ref :: back ∧ ref ∉ front ∧
      insertBefore parent child ref s = insertAt parent front.length [child] s) ∨
      ∃ e, Failure.IsNotAChild e ∧ insertBefore parent child ref s = .error e s := by
  rcases childIndex_cases parent ref s with ⟨front, back, split, first, index⟩ | ⟨e, cause, fails⟩
  · exact .inl ⟨front, back, split, first, bind_ok index _⟩
  · exact .inr ⟨e, cause, bind_error fails _⟩

theorem remove_cases (parent child : NodeId) (s : Store) :
    (∃ front back, s.children parent = front ++ child :: back ∧ child ∉ front ∧
      remove parent child s = .ok () ((s.setChildren parent
        ((s.children parent).eraseIdx front.length)).setOwner child none)) ∨
      ∃ e, Failure.IsNotAChild e ∧ remove parent child s = .error e s := by
  rcases childIndex_cases parent child s with ⟨front, back, split, first, index⟩ | ⟨e, cause, fails⟩
  · exact .inl ⟨front, back, split, first, bind_ok index _⟩
  · exact .inr ⟨e, cause, bind_error fails _⟩

theorem insertAt_run {parent : NodeId} {front back : List NodeId} {s : Store}
    (split : s.children parent = front ++ back) (nodes : List NodeId) :
    insertAt parent front.length nodes s = .ok () (nodes.foldl
      (fun s node => s.setOwner node (some (.node parent)))
      (s.setChildren parent (front ++ nodes ++ back))) := by
  rw [insertAt, modify_run]
  simp only [split, List.take_left, List.drop_left]

/-- Nodes are put in front of the child at a place. -/
theorem insertAt_cases (parent : NodeId) (front back nodes : List NodeId) (s : Store)
    (split : s.children parent = front ++ back) :
    ∃ after, insertAt parent front.length nodes s = .ok () after ∧ after.queue = s.queue ∧
      after.setup = s.setup ∧ (∀ id, after.content id = s.content id) ∧
      (parent < s.cells.size → after.children parent = front ++ nodes ++ back) := by
  obtain ⟨queue, setup, content, children⟩ := foldl_setOwner nodes (some (.node parent))
    (s.setChildren parent (front ++ nodes ++ back))
  refine ⟨_, insertAt_run split nodes, queue, setup, fun id => ?_, fun inside => ?_⟩
  · rw [content, Store.content_setChildren]
  · rw [children, Store.children_setChildren_self inside]

/-- Inserts parts as new leaves in front of a child, which is looked for if there are any. -/
def insertParts (parent ref : NodeId) (parts : List Part) : Build Unit := do
  if !parts.isEmpty then
    let index ← childIndex parent ref
    let nodes ← parts.mapM fun part => newNode (.leaf part)
    insertAt parent index nodes

theorem insertText_front (parent ref : NodeId) (data : List Char) :
    insertText parent data (some ref) = expand data >>= insertParts parent ref := rfl

theorem insertParts_of_ne_nil {parts : List Part} (filled : parts ≠ []) (parent ref : NodeId) :
    insertParts parent ref parts = (do
      let index ← childIndex parent ref
      let nodes ← parts.mapM fun part => newNode (.leaf part)
      insertAt parent index nodes) := by
  cases parts with
  | nil => exact absurd rfl filled
  | cons part rest => rfl

theorem insertParts_draws (parts : List Part) (parent ref : NodeId) (s : Store) :
    Draws 0 s Failure.IsNotAChild
      (fun _ _ after => (∀ id < s.cells.size, after.content id = s.content id) ∧
        (parent < s.cells.size → PlacesText parent (some ref) (marks parts) s after))
      (insertParts parent ref parts s) := by
  by_cases filled : parts = []
  · subst filled
    refine .quiet rfl rfl ⟨fun _ _ => rfl, fun _ => ⟨s.children parent, [], [], ?_, ?_, rfl, by simp⟩⟩
    · rw [List.append_nil]
    · rw [List.append_nil, List.append_nil]
  · rw [insertParts_of_ne_nil filled]
    rcases childIndex_cases parent ref s with ⟨front, back, split, first, index⟩ | ⟨e, cause, fails⟩
    · obtain ⟨ids, mid, made, queue, setup, size, kept, children, shown⟩ := mapM_newNode parts s
      obtain ⟨after, inserted, sameQueue, sameSetup, content, placed⟩ :=
        insertAt_cases parent front (ref :: back) ids mid (by rw [children, split])
      rw [bind_ok index, bind_ok made, inserted]
      refine .quiet (sameQueue.trans queue) (sameSetup.trans setup)
        ⟨fun id old => (content id).trans (kept id old), fun inside => ?_⟩
      refine ⟨front, ids, ref :: back, split, placed (inside.trans_le size), ?_,
        fun _ => ⟨first, rfl⟩⟩
      rw [← shown]
      exact Store.marks_congr fun id _ => content id
    · rw [bind_error fails]
      exact .refused (.none rfl rfl) rfl cause

theorem insertText_draws {c : Char} {s : Store} (single : s.setup.sentinel = [c]) (parent : NodeId)
    (data : List Char) (ref : Option NodeId) :
    Draws (data.count c) s Failure.IsNotAChild
      (fun taken _ after =>
        parent < s.cells.size → PlacesText parent ref (fill c data taken) s after)
      (insertText parent data ref s) := by
  refine Draws.bind (n := 0) (expand_draws single data) ?_
  rintro taken parts _ ⟨⟨queue, rfl⟩, shown⟩
  cases ref with
  | none =>
    obtain ⟨after, run, sameQueue, setup, placed⟩ := forM_appendPart parts parent { s with queue }
    show Draws 0 _ _ _ (parts.forM (appendPart parent) { s with queue })
    rw [run]
    refine .quiet sameQueue setup fun inside => ?_
    rw [List.append_nil, ← shown]
    exact ⟨(placed inside).placed, (placed inside).kept⟩
  | some ref =>
    refine (insertParts_draws parts parent ref { s with queue }).imp
      fun more _ after none placed => ?_
    rw [List.length_eq_zero_iff.mp none, List.append_nil, ← shown]
    exact placed.2

/-! Steps -/

/-- The number of sentinels in what a step is given. Attributes and text are given to elements and
fragments only. -/
def Step.sentinels (c : Char) (s : Store) : Step → Nat
  | .create _ attrs => sentinelsIn c attrs
  | .attributes id attrs =>
    match s.content id with
    | .element .. => sentinelsIn c attrs
    | .fragment => sentinelsIn c attrs
    | _ => 0
  | .comment data => data.count c
  | .text parent data _ => if s.isContainer parent then data.count c else 0
  | _ => 0

/-- What a step may fail with, other than for want of a directive: that it cannot be begun, or that a
child it refers to is not there. -/
def Step.MayFail (s : Store) (step : Step) (failure : Failure) : Prop :=
  step.obstacle? s = some failure ∨ failure.IsNotAChild

/-- Where the directives stand that a step has taken. Those of a comment go with its text. -/
def Step.Places (c : Char) (s : Store) (taken : List Tag) (reply : Reply) (after : Store) :
    Step → Prop
  | .create name attrs =>
    (attrs.map (·.1.flatten)).Nodup →
      ∃ id adapted, reply = .node id ∧ after.content id = .element name s.setup.ns adapted ∧
        AdaptsAll c s.setup.booleans attrs taken adapted
  | .attributes id attrs =>
    (attrs.map (·.1.flatten)).Nodup →
      ∀ name ns old, s.content id = .element name ns old →
        ∃ adapted, after.content id = .element name ns adapted ∧
          AdaptsAll c s.setup.booleans attrs taken adapted
  | .comment data =>
    ∃ id parts, reply = .node id ∧ after.content id = .ignored ∧
      (∃ rest, expand data s = .ok parts rest) ∧ marks parts = fill c data taken
  | .text parent data ref => PlacesText parent ref (fill c data taken) s after
  | _ => taken = []

section Steps

variable {c : Char} {s : Store}

theorem incapable?_eq_none_iff {operation : String} {id : NodeId} :
    s.incapable? operation id = none ↔ s.isContainer id = true := by
  cases content : s.content id <;> simp [Store.incapable?, Store.isContainer, content]

theorem isContainer_of_incapable? {operation : String} {id : NodeId} {e : Failure}
    (unable : s.incapable? operation id = some e) : s.isContainer id = false := by
  cases content : s.content id <;> simp_all [Store.incapable?, Store.isContainer]

theorem perform_of_obstacle {step : Step} {e : Failure} (obstacle : step.obstacle? s = some e) :
    perform step s = .error e s := by
  rw [perform, get_bind, obstacle]
  rfl

theorem perform_of_free {step : Step} (free : step.obstacle? s = none) :
    perform step s = carryOut step s := by
  rw [perform, get_bind, free]

theorem createElement_draws (single : s.setup.sentinel = [c]) (name : String) (ns : Option String)
    (attrs : List (AttrName × AttrValue)) :
    Draws (sentinelsIn c attrs) s Failure.IsNotAChild
      (fun taken id after => (attrs.map (·.1.flatten)).Nodup →
        ∃ adapted, after.content id = .element name ns adapted ∧
          AdaptsAll c s.setup.booleans attrs taken adapted)
      (createElement name ns attrs s) := by
  refine Draws.bind (n := 0) (adaptAttributes_draws single attrs) ?_
  rintro taken adapted _ ⟨⟨queue, rfl⟩, adapts⟩
  refine .quiet rfl rfl fun distinct => ⟨adapted, Store.content_add_self .., ?_⟩
  rw [List.append_nil]
  exact adapts distinct

theorem setAttributes_draws (single : s.setup.sentinel = [c]) (id : NodeId)
    (attrs : List (AttrName × AttrValue)) :
    Draws ((Step.attributes id attrs).sentinels c s) s Failure.IsNotAChild
      (fun taken _ after => (Step.attributes id attrs).Places c s taken .nothing after)
      (setAttributes id attrs s) := by
  have given : setAttributes id attrs s =
      (match s.content id with
      | .element name ns _ => do
        let attrs ← adaptAttributes attrs
        modify fun s => s.setContent id (.element name ns attrs)
      | .fragment => discard (adaptAttributes attrs)
      | _ => pure () : Build Unit) s := rfl
  rw [given]
  cases content : s.content id with
  | element name ns old =>
    simp only [Step.sentinels, Step.Places, content]
    refine Draws.bind (n := 0) (adaptAttributes_draws single attrs) ?_
    rintro taken adapted _ ⟨⟨queue, rfl⟩, adapts⟩
    refine .quiet rfl rfl fun distinct _ _ _ same => ?_
    cases same
    have inside : id < s.cells.size := Store.lt_size_of_content (by simp [content])
    refine ⟨adapted, Store.content_setContent_self inside _, ?_⟩
    rw [List.append_nil]
    exact adapts distinct
  | fragment =>
    simp only [Step.sentinels, Step.Places, content]
    refine Draws.map (((adaptAttributes_draws single attrs).widen fun _ => False.elim).imp ?_)
    intro taken adapted after _ _ _ _ _ _ same
    cases same
  | leaf part =>
    simp only [Step.sentinels, Step.Places, content]
    exact .quiet rfl rfl (by simp)
  | ignored =>
    simp only [Step.sentinels, Step.Places, content]
    exact .quiet rfl rfl (by simp)

theorem newComment_draws (single : s.setup.sentinel = [c]) (data : List Char) :
    Draws (data.count c) s Failure.IsNotAChild
      (fun taken id after => (Step.comment data).Places c s taken (.node id) after)
      (newComment data s) := by
  have dropped : Draws (data.count c) s (fun _ => False)
      (fun taken _ after => SameButQueue s after ∧
        ∃ parts, (∃ rest, expand data s = .ok parts rest) ∧ marks parts = fill c data taken)
      (discard (expand data) s) := by
    have expanded := expand_draws single data
    refine Draws.map ?_
    generalize expand data s = outcome at expanded
    cases expanded with
    | done took all holds => exact .done took all ⟨holds.1, _, ⟨_, rfl⟩, holds.2⟩
    | refused took all cause => exact cause.elim
    | short took empty few => exact .short took empty few
  refine Draws.bind (n := 0) dropped ?_
  rintro taken _ _ ⟨⟨queue, rfl⟩, parts, expanded, shown⟩
  refine .quiet rfl rfl ⟨_, parts, rfl, Store.content_add_self .., expanded, ?_⟩
  rw [List.append_nil, shown]

/-- The children of a node are appended one by one, and no directive is touched. -/
theorem forM_append (ids : List NodeId) (target : NodeId) (s : Store) :
    ∃ after, forM ids (append target) s = .ok () after ∧ after.queue = s.queue ∧
      after.setup = s.setup ∧ after.cells.size = s.cells.size ∧
      (∀ id, after.content id = s.content id) ∧
      (target < s.cells.size → after.children target = s.children target ++ ids) := by
  induction ids generalizing s with
  | nil => exact ⟨s, rfl, rfl, rfl, rfl, fun _ => rfl, fun _ => (List.append_nil _).symm⟩
  | cons id rest ih =>
    obtain ⟨after, run, queue, setup, size, content, children⟩ :=
      ih ((s.setChildren target (s.children target ++ [id])).setOwner id (some (.node target)))
    refine ⟨after, run, queue, setup, by simpa using size, fun other => ?_, fun inside => ?_⟩
    · rw [content, Store.content_setOwner, Store.content_setChildren]
    · rw [children (by simpa using inside), Store.children_setOwner,
        Store.children_setChildren_self inside, List.append_assoc, List.singleton_append]

/-- A step that can be begun takes a directive for each sentinel that it is given, and puts it
there. -/
theorem carryOut_draws (single : s.setup.sentinel = [c]) {step : Step}
    (free : step.obstacle? s = none) :
    Draws (step.sentinels c s) s Failure.IsNotAChild
      (fun taken reply after => step.Places c s taken reply after) (carryOut step s) := by
  cases step with
  | fragment => exact .quiet rfl rfl rfl
  | element name ns => exact .quiet rfl rfl rfl
  | create name attrs =>
    refine Draws.map ((createElement_draws single name s.setup.ns attrs).imp ?_)
    intro taken id after _ placed distinct
    obtain ⟨adapted, content, adapts⟩ := placed distinct
    exact ⟨id, adapted, rfl, content, adapts⟩
  | attributes id attrs =>
    rw [carryOut, bind_pure_comp]
    exact Draws.map (setAttributes_draws single id attrs)
  | comment data => exact Draws.map (newComment_draws single data)
  | doctype => exact .quiet rfl rfl rfl
  | clone source =>
    refine Draws.map ?_
    rw [cloneNode_eq]
    exact .quiet rfl rfl rfl
  | append parent child => exact .quiet rfl rfl rfl
  | insert parent child ref =>
    rw [carryOut, bind_pure_comp]
    refine Draws.map ?_
    rcases insertBefore_cases parent child ref s with ⟨front, back, split, -, run⟩ | ⟨e, cause, fails⟩
    · obtain ⟨after, inserted, queue, setup, -⟩ :=
        insertAt_cases parent front (ref :: back) [child] s split
      rw [run, inserted]
      exact .quiet queue setup rfl
    · rw [fails]
      exact .refused (.none rfl rfl) rfl cause
  | remove parent child =>
    rw [carryOut, bind_pure_comp]
    refine Draws.map ?_
    rcases remove_cases parent child s with ⟨front, back, -, -, run⟩ | ⟨e, cause, fails⟩
    · rw [run]
      exact .quiet rfl rfl rfl
    · rw [fails]
      exact .refused (.none rfl rfl) rfl cause
  | text parent data ref =>
    have container := incapable?_eq_none_iff.mp free
    rw [carryOut, bind_pure_comp, Step.sentinels, if_pos container]
    refine Draws.map ((insertText_draws single parent data ref).imp ?_)
    intro taken _ after _ placed
    exact placed (Store.lt_size_of_isContainer container)
  | reparent source target =>
    obtain ⟨after, run, queue, setup, -⟩ := forM_append (s.children source) target s
    rw [carryOut, bind_pure_comp]
    refine Draws.map ?_
    rw [reparentChildren_eq run]
    exact .quiet queue setup rfl
  | exportTree id =>
    obtain ⟨queue, setup, -, -⟩ :=
      foldl_setOwner (s.leavesBelow (s.cells.size + 1) id) (some .exported) s
    exact .quiet queue setup rfl

/-- A step that is refused draws nothing. -/
theorem sentinels_of_obstacle {step : Step} {e : Failure} (obstacle : step.obstacle? s = some e) :
    step.sentinels c s = 0 := by
  cases step with
  | text parent data ref => simp [Step.sentinels, isContainer_of_incapable? obstacle]
  | create name attrs => cases obstacle
  | attributes id attrs => cases obstacle
  | comment data => cases obstacle
  | _ => rfl

/-- Every step takes a directive for each sentinel that it is given, and puts it there, or is
refused. -/
theorem perform_draws (single : s.setup.sentinel = [c]) (step : Step) :
    Draws (step.sentinels c s) s (step.MayFail s)
      (fun taken reply after => step.Places c s taken reply after) (perform step s) := by
  cases obstacle : step.obstacle? s with
  | some e =>
    rw [perform_of_obstacle obstacle]
    exact .refused (.none rfl rfl) (sentinels_of_obstacle obstacle).symm (.inl obstacle)
  | none =>
    rw [perform_of_free obstacle]
    exact (carryOut_draws single obstacle).widen fun _ => .inr

end Steps

/-! Runs -/

/-- After a run, what has been taken is what is missing from the queue. -/
theorem runSteps_took {c : Char} {s : Store} (single : s.setup.sentinel = [c])
    (steps : List Step) : ∃ taken, Took s taken (runSteps steps s) := by
  induction steps generalizing s with
  | nil => exact ⟨[], .none rfl rfl⟩
  | cons step rest ih =>
    have first : ∃ taken, Took s taken (step.after s) := by
      have draws := perform_draws single step
      unfold Step.after
      generalize perform step s = outcome at draws
      cases draws with
      | done took => exact ⟨_, took⟩
      | refused took => exact ⟨_, took⟩
      | short took => exact ⟨_, took⟩
    obtain ⟨taken, took⟩ := first
    obtain ⟨more, later⟩ := ih (took.setup.symm ▸ single)
    exact ⟨taken ++ more, took.trans later⟩

/-- A store without nodes, whose directives are marked by a single character. -/
def Store.fresh (sentinel : Char) (booleans : List String) (ns : Option String)
    (directives : List Tag) : Store :=
  { setup := { sentinel := [sentinel], booleans, ns }, queue := .ofList directives }

/-- After any run of steps, failing ones among them, the directives that have been taken and those
in the queue are all directives, in their order, and each step of the run takes one directive for
each sentinel that it is given, puts it there, or has taken them all and fails for want of one. A step
that is refused because of the nodes it is about has taken just as many. -/
theorem run_conserves_directives (c : Char) (booleans : List String) (ns : Option String)
    (directives : List Tag) (steps : List Step) :
    (∃ popped, (Queue.ofList directives).Pops popped
        (runSteps steps (.fresh c booleans ns directives)).queue ∧
      popped ++ (runSteps steps (.fresh c booleans ns directives)).queue.tags = directives ∧
      (runSteps steps (.fresh c booleans ns directives)).queue.popped = popped.length) ∧
    ∀ before step after s, steps = before ++ step :: after →
      s = runSteps before (.fresh c booleans ns directives) →
      Draws (step.sentinels c s) s (step.MayFail s)
        (fun taken reply after => step.Places c s taken reply after) (perform step s) := by
  constructor
  · obtain ⟨popped, took⟩ := runSteps_took (s := .fresh c booleans ns directives) rfl steps
    obtain ⟨whole, count⟩ := Queue.pops_iff.mp took.pops
    refine ⟨popped, took.pops, whole, count.trans (Nat.zero_add _)⟩
  · rintro before step after s - rfl
    obtain ⟨popped, took⟩ := runSteps_took (s := .fresh c booleans ns directives) rfl before
    have single : (runSteps before (.fresh c booleans ns directives)).setup.sentinel = [c] := by
      rw [took.setup]
      rfl
    exact perform_draws single step

end HtmlTemplate.Dom
