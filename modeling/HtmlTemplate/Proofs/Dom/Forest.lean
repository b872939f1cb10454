import HtmlTemplate.Proofs.Dom.Conservation
import HtmlTemplate.Proofs.Dom.Price
import Mathlib.Logic.Relation

/-!
The store stays a forest. Lists of children and references to owners are kept separately, and no
operation takes a node from where it was before. As long as a node is hung up only when it hangs from
nothing, and not below itself, the two agree, no node is listed twice, and there is no cycle.

All operations that change the tree are made of three: a node is added, nodes that hang from nothing
are attached to one node, and children of one node are detached from it. What each of the three does
to a forest is said once.
-/

namespace HtmlTemplate.Dom

namespace Store

def IsChild (s : Store) (parent child : NodeId) : Prop := child ∈ s.children parent

/-- A node stands below another: it is a child of it, a child of a child, and so on. -/
def Below (s : Store) (id other : NodeId) : Prop := Relation.TransGen s.IsChild id other

/-- The second node is the first one, or stands below it. -/
def AtOrBelow (s : Store) (id other : NodeId) : Prop := Relation.ReflTransGen s.IsChild id other

/-- Lists of children and references to owners that make up trees. -/
structure Forest (s : Store) : Prop where
  known : ∀ parent child, child ∈ s.children parent → child < s.cells.size
  holds : ∀ parent child, child ∈ s.children parent → s.isContainer parent = true
  distinct : ∀ parent, (s.children parent).Nodup
  owned : ∀ child parent, s.owner child = some (.node parent) ↔ child ∈ s.children parent
  free : ∀ child, s.owner child ≠ some .exported
  /-- From every node the way up, from owner to owner, comes to an end. -/
  grounded : ∀ id, Acc s.IsChild id

end Store

/-! Cycles -/

/-- Nodes that are moved to a target which is not at or below any of them make no cycle. -/
theorem acc_of_moved {before after : NodeId → NodeId → Prop} (target : NodeId)
    (moved : NodeId → Prop)
    (edges : ∀ parent child, after parent child →
      before parent child ∨ (parent = target ∧ moved child))
    (outside : ∀ id, moved id → ¬ Relation.ReflTransGen before id target)
    (grounded : ∀ id, Acc before id) (id : NodeId) : Acc after id := by
  -- Above a node that is not below anything moved, all is as it was.
  have untouched : ∀ id, (∀ other, moved other → ¬ Relation.ReflTransGen before other id) →
      Acc after id := by
    intro id
    induction grounded id with
    | intro id _ ih =>
      intro apart
      constructor
      intro parent edge
      rcases edges parent id edge with old | ⟨-, new⟩
      · apply ih parent old
        intro other new above
        exact apart other new (above.tail old)
      · exact absurd .refl (apart id new)
  induction grounded id with
  | intro id _ ih =>
    constructor
    intro parent edge
    rcases edges parent id edge with old | ⟨rfl, -⟩
    · exact ih parent old
    · exact untouched parent outside

namespace Store.Forest

variable {s after : Store}

theorem eq_of_mem (forest : s.Forest) {child first second : NodeId}
    (one : child ∈ s.children first) (other : child ∈ s.children second) : first = second := by
  have owner := (forest.owned child first).mpr one
  rw [(forest.owned child second).mpr other] at owner
  cases owner
  rfl

theorem not_mem_of_owner (forest : s.Forest) {child : NodeId} (loose : s.owner child = none)
    (parent : NodeId) : child ∉ s.children parent := by
  intro member
  rw [(forest.owned child parent).mpr member] at loose
  cases loose

/-- There is no way down from a node to itself. -/
theorem not_below_self (forest : s.Forest) (id : NodeId) : ¬ s.Below id id := by
  have grounded : Acc (Relation.TransGen s.IsChild) id := (forest.grounded id).transGen
  induction grounded with
  | intro id _ ih =>
    intro below
    exact ih id below below

/-! The three changes -/

/-- A change that moves no node. -/
theorem of_same (forest : s.Forest) (size : s.cells.size ≤ after.cells.size)
    (children : ∀ id, after.children id = s.children id)
    (owner : ∀ id, after.owner id = s.owner id)
    (container : ∀ id, s.isContainer id = true → after.isContainer id = true) : after.Forest where
  known parent child member := (forest.known parent child (children parent ▸ member)).trans_le size
  holds parent child member := container parent (forest.holds parent child (children parent ▸ member))
  distinct parent := children parent ▸ forest.distinct parent
  owned child parent := by rw [owner, children, forest.owned]
  free child := owner child ▸ forest.free child
  grounded id := by
    have same : after.IsChild = s.IsChild := by
      funext parent child
      rw [IsChild, IsChild, children]
    exact same ▸ forest.grounded id

theorem of_sameButQueue (forest : s.Forest) (same : SameButQueue s after) : after.Forest := by
  obtain ⟨queue, rfl⟩ := same
  exact forest.of_same (Nat.le_refl _) (fun _ => rfl) (fun _ => rfl) (fun _ holds => holds)

theorem add (forest : s.Forest) (content : Content) : (s.add content).2.Forest := by
  apply forest.of_same
  · rw [size_add]
    exact Nat.le_succ _
  · intro id
    exact children_add content
  · intro id
    exact owner_add content
  · intro id container
    rw [isContainer_congr (content_add_of_lt (lt_size_of_isContainer container) content), container]

end Store.Forest

/-- Nodes are put among the children of a target, side by side. -/
structure Attached (s after : Store) (target : NodeId) (nodes : List NodeId) : Prop where
  size : after.cells.size = s.cells.size
  content : ∀ id, after.content id = s.content id
  placed : ∃ front back, s.children target = front ++ back ∧
    after.children target = front ++ nodes ++ back
  kept : ∀ id, id ≠ target → after.children id = s.children id
  owned : ∀ id ∈ nodes, after.owner id = some (.node target)
  others : ∀ id, id ∉ nodes → after.owner id = s.owner id

/-- Some of the children of a node are taken from it. -/
structure Detached (s after : Store) (parent : NodeId) (gone : List NodeId) : Prop where
  size : after.cells.size = s.cells.size
  content : ∀ id, after.content id = s.content id
  mine : ∀ id ∈ gone, id ∈ s.children parent
  left : after.children parent = (s.children parent).filter (· ∉ gone)
  kept : ∀ id, id ≠ parent → after.children id = s.children id
  freed : ∀ id ∈ gone, after.owner id = none
  others : ∀ id, id ∉ gone → after.owner id = s.owner id

/-- What is needed of a node for it to be hung from another. -/
structure Store.MayHold (s : Store) (parent child : NodeId) : Prop where
  container : s.isContainer parent = true
  known : child < s.cells.size
  loose : s.owner child = none
  outside : ¬ s.AtOrBelow child parent

namespace Attached

variable {s after : Store} {target : NodeId} {nodes : List NodeId}

theorem mem_children (attached : Attached s after target nodes) (parent child : NodeId) :
    child ∈ after.children parent ↔
      child ∈ s.children parent ∨ (parent = target ∧ child ∈ nodes) := by
  by_cases same : parent = target
  · subst same
    obtain ⟨front, back, before, now⟩ := attached.placed
    rw [before, now]
    simp only [List.mem_append, true_and]
    constructor
    · rintro ((inFront | new) | inBack)
      · exact .inl (.inl inFront)
      · exact .inr new
      · exact .inl (.inr inBack)
    · rintro ((inFront | inBack) | new)
      · exact .inl (.inl inFront)
      · exact .inr inBack
      · exact .inl (.inr new)
  · rw [attached.kept parent same]
    simp [same]

/-- Attaching nodes that hang from nothing, outside of what they hold, keeps a forest. -/
theorem forest (attached : Attached s after target nodes) (forest : s.Forest)
    (distinct : nodes.Nodup) (fit : ∀ id ∈ nodes, s.MayHold target id) : after.Forest where
  known parent child member := by
    rw [attached.size]
    rcases (attached.mem_children parent child).mp member with old | ⟨-, new⟩
    · exact forest.known parent child old
    · exact (fit child new).known
  holds parent child member := by
    rw [Store.isContainer_congr (attached.content parent)]
    rcases (attached.mem_children parent child).mp member with old | ⟨rfl, new⟩
    · exact forest.holds parent child old
    · exact (fit child new).container
  distinct parent := by
    by_cases same : parent = target
    · subst same
      obtain ⟨front, back, before, now⟩ := attached.placed
      have old := forest.distinct parent
      have new : ∀ id ∈ nodes, id ∉ front ++ back := by
        intro id member
        rw [← before]
        exact forest.not_mem_of_owner (fit id member).loose parent
      rw [before] at old
      rw [now]
      grind [List.nodup_append]
    · rw [attached.kept parent same]
      exact forest.distinct parent
  owned child parent := by
    rw [attached.mem_children, ← forest.owned]
    by_cases new : child ∈ nodes
    · simp [attached.owned child new, (fit child new).loose, new, eq_comm]
    · simp [attached.others child new, new]
  free child := by
    by_cases new : child ∈ nodes
    · simp [attached.owned child new]
    · rw [attached.others child new]
      exact forest.free child
  grounded := by
    apply acc_of_moved target (· ∈ nodes) ?_ ?_ forest.grounded
    · intro parent child edge
      exact (attached.mem_children parent child).mp edge
    · intro id new
      exact (fit id new).outside

end Attached

namespace Detached

variable {s after : Store} {parent : NodeId} {gone : List NodeId}

theorem mem_children (detached : Detached s after parent gone) (forest : s.Forest)
    (other child : NodeId) :
    child ∈ after.children other ↔ child ∈ s.children other ∧ child ∉ gone := by
  by_cases same : other = parent
  · subst same
    rw [detached.left]
    simp
  · rw [detached.kept other same]
    constructor
    · intro member
      refine ⟨member, fun taken => same ?_⟩
      exact forest.eq_of_mem member (detached.mine child taken)
    · exact fun both => both.1

theorem forest (detached : Detached s after parent gone) (forest : s.Forest) : after.Forest where
  known other child member := by
    rw [detached.size]
    exact forest.known other child ((detached.mem_children forest other child).mp member).1
  holds other child member := by
    rw [Store.isContainer_congr (detached.content other)]
    exact forest.holds other child ((detached.mem_children forest other child).mp member).1
  distinct other := by
    by_cases same : other = parent
    · subst same
      rw [detached.left]
      exact (forest.distinct other).filter _
    · rw [detached.kept other same]
      exact forest.distinct other
  owned child other := by
    rw [detached.mem_children forest, ← forest.owned]
    by_cases taken : child ∈ gone
    · simp [detached.freed child taken, taken]
    · simp [detached.others child taken, taken]
  free child := by
    by_cases taken : child ∈ gone
    · simp [detached.freed child taken]
    · rw [detached.others child taken]
      exact forest.free child
  grounded := by
    -- Nothing is moved, there are only fewer ways.
    apply acc_of_moved parent (fun _ => False) ?_ ?_ forest.grounded
    · intro other child edge
      exact .inl ((detached.mem_children forest other child).mp edge).1
    · exact fun _ none => none.elim

end Detached

/-- What holds of the store when building has ended, whether or not it succeeded. -/
inductive Leaves {α : Type} (post : Store → Prop) : EStateM.Result Failure Store α → Prop where
  | done {a : α} {after : Store} (holds : post after) : Leaves post (.ok a after)
  | failed {e : Failure} {after : Store} (holds : post after) : Leaves post (.error e after)

namespace Leaves

variable {α β : Type} {s : Store} {mid post : Store → Prop}

theorem bind {first : Build α} {next : α → Build β} (front : Leaves mid (first s))
    (fails : ∀ after, mid after → post after)
    (back : ∀ a after, mid after → Leaves post (next a after)) :
    Leaves post ((first >>= next) s) := by
  show Leaves post (EStateM.bind first next s)
  unfold EStateM.bind
  generalize first s = outcome at front
  cases front with
  | done holds => exact back _ _ holds
  | failed holds => exact .failed (fails _ holds)

theorem map {act : Build α} (f : α → β) (leaves : Leaves post (act s)) :
    Leaves post ((f <$> act) s) := by
  show Leaves post (EStateM.map f act s)
  unfold EStateM.map
  generalize act s = outcome at leaves
  cases leaves with
  | done holds => exact .done holds
  | failed holds => exact .failed holds

theorem imp {outcome : EStateM.Result Failure Store α} (leaves : Leaves mid outcome)
    (follows : ∀ after, mid after → post after) : Leaves post outcome := by
  cases leaves with
  | done holds => exact .done (follows _ holds)
  | failed holds => exact .failed (follows _ holds)

end Leaves

theorem Pays.leaves {α : Type} {s : Store} {price : Nat} {post : α → Prop}
    {outcome : EStateM.Result Failure Store α} (pays : Pays price s post outcome) :
    Leaves (SameButQueue s) outcome := by
  cases pays with
  | paid => exact .done ⟨_, rfl⟩
  | broke => exact .failed ⟨_, rfl⟩
  | unmarked => exact .failed ⟨_, rfl⟩

/-! Operations -/

section Operations

variable {s : Store} {parent : NodeId}

theorem owner_foldl_setOwner (ids : List NodeId) (value : Option Owner) (s : Store)
    (known : ∀ id ∈ ids, id < s.cells.size) :
    let after := ids.foldl (fun s id => s.setOwner id value) s
    after.cells.size = s.cells.size ∧ (∀ id ∈ ids, after.owner id = value) ∧
      ∀ id, id ∉ ids → after.owner id = s.owner id := by
  induction ids generalizing s with
  | nil => simp
  | cons first rest ih =>
    have inRest : ∀ id ∈ rest, id < (s.setOwner first value).cells.size := by
      intro id member
      rw [Store.size_setOwner]
      exact known id (List.mem_cons_of_mem first member)
    obtain ⟨size, owned, others⟩ := ih (s.setOwner first value) inRest
    have inside : first < s.cells.size := known first List.mem_cons_self
    refine ⟨by simpa using size, ?_, ?_⟩
    · intro id member
      by_cases later : id ∈ rest
      · exact owned id later
      · obtain rfl : id = first := (List.mem_cons.mp member).resolve_right later
        rw [List.foldl_cons, others id later, Store.owner_setOwner_self inside]
    · intro id absent
      rw [List.mem_cons, not_or] at absent
      rw [List.foldl_cons, others id absent.2, Store.owner_setOwner_of_ne (Ne.symm absent.1)]

theorem attached_insertAt {front back nodes : List NodeId}
    (split : s.children parent = front ++ back) (inside : parent < s.cells.size)
    (known : ∀ id ∈ nodes, id < s.cells.size) :
    ∃ after, insertAt parent front.length nodes s = .ok () after ∧
      Attached s after parent nodes := by
  obtain ⟨-, -, content, children⟩ := foldl_setOwner nodes (some (.node parent))
    (s.setChildren parent (front ++ nodes ++ back))
  obtain ⟨size, owned, others⟩ := owner_foldl_setOwner nodes (some (.node parent))
    (s.setChildren parent (front ++ nodes ++ back)) (by simpa using known)
  refine ⟨_, insertAt_run split nodes, ?_⟩
  constructor
  · simpa using size
  · intro id
    rw [content, Store.content_setChildren]
  · exact ⟨front, back, split, by rw [children, Store.children_setChildren_self inside]⟩
  · intro id other
    rw [children, Store.children_setChildren_of_ne (Ne.symm other)]
  · exact owned
  · intro id absent
    rw [others id absent, Store.owner_setChildren]

/-- Appending is inserting behind the last child. -/
theorem append_eq_insertAt (parent child : NodeId) (s : Store) :
    append parent child s = insertAt parent (s.children parent).length [child] s := by
  simp [append, insertAt, modify_run]

theorem forest_insertAt (forest : s.Forest) {front back : List NodeId} {child : NodeId}
    (split : s.children parent = front ++ back) (fit : s.MayHold parent child) :
    ∃ after, insertAt parent front.length [child] s = .ok () after ∧ after.Forest := by
  have inside := Store.lt_size_of_isContainer fit.container
  obtain ⟨after, run, attached⟩ := attached_insertAt split inside
    (by simpa using fit.known : ∀ id ∈ [child], id < s.cells.size)
  refine ⟨after, run, attached.forest forest (List.pairwise_singleton _ child) ?_⟩
  intro id member
  rw [List.mem_singleton.mp member]
  exact fit

theorem forest_append (forest : s.Forest) {child : NodeId} (fit : s.MayHold parent child) :
    ∃ after, append parent child s = .ok () after ∧ after.Forest := by
  rw [append_eq_insertAt]
  exact forest_insertAt forest (List.append_nil _).symm fit

theorem forest_insertBefore (forest : s.Forest) {child ref : NodeId}
    (fit : ref ∈ s.children parent → s.MayHold parent child) :
    Leaves Store.Forest (insertBefore parent child ref s) := by
  rcases insertBefore_cases parent child ref s with ⟨front, back, split, -, run⟩ | ⟨e, -, fails⟩
  · obtain ⟨after, inserted, kept⟩ := forest_insertAt forest split (fit (by simp [split]))
    rw [run, inserted]
    exact .done kept
  · rw [fails]
    exact .failed forest

theorem eraseIdx_eq_filter {front back : List NodeId} {child : NodeId}
    (distinct : (front ++ child :: back).Nodup) :
    (front ++ child :: back).eraseIdx front.length =
      (front ++ child :: back).filter (· ∉ [child]) := by
  have inFront : front.filter (· ∉ [child]) = front := by
    apply List.filter_eq_self.mpr
    grind [List.nodup_append]
  have inBack : back.filter (· ∉ [child]) = back := by
    apply List.filter_eq_self.mpr
    grind [List.nodup_append]
  rw [List.filter_append, inFront, List.filter_cons_of_neg (by simp), inBack,
    List.eraseIdx_append_of_length_le (Nat.le_refl _), Nat.sub_self, List.eraseIdx_cons_zero]

/-- The child that is removed is listed once, so no other place of it is left. -/
theorem forest_remove (forest : s.Forest) (parent child : NodeId) :
    Leaves Store.Forest (remove parent child s) := by
  rcases remove_cases parent child s with ⟨front, back, split, first, run⟩ | ⟨e, -, fails⟩
  · rw [run]
    have mine : child ∈ s.children parent := by simp [split]
    have inside := Store.lt_size_of_isContainer (forest.holds parent child mine)
    have known := forest.known parent child mine
    have detached : Detached s ((s.setChildren parent
        ((s.children parent).eraseIdx front.length)).setOwner child none) parent [child] := by
      constructor
      · simp
      · simp
      · simpa using mine
      · rw [Store.children_setOwner, Store.children_setChildren_self inside, split]
        exact eraseIdx_eq_filter (split ▸ forest.distinct parent)
      · intro id other
        rw [Store.children_setOwner, Store.children_setChildren_of_ne (Ne.symm other)]
      · intro id member
        rw [List.mem_singleton.mp member]
        exact Store.owner_setOwner_self (by simpa using known) none
      · intro id absent
        rw [List.mem_singleton] at absent
        rw [Store.owner_setOwner_of_ne (Ne.symm absent), Store.owner_setChildren]
    exact .done (detached.forest forest)
  · rw [fails]
    exact .failed forest

/-- A node without children that hangs from nothing may be hung from any other. -/
theorem Store.MayHold.of_bare {child : NodeId} (container : s.isContainer parent = true)
    (known : child < s.cells.size) (loose : s.owner child = none) (bare : s.children child = [])
    (other : child ≠ parent) : s.MayHold parent child where
  container := container
  known := known
  loose := loose
  outside := by
    intro below
    rcases Relation.ReflTransGen.cases_head below with same | ⟨first, edge, -⟩
    · exact other same
    · rw [Store.IsChild, bare] at edge
      exact List.not_mem_nil edge

theorem Store.children_of_size_le {id : NodeId} (outside : s.cells.size ≤ id) :
    s.children id = [] := by
  simp [Store.children, Store.cell, Nat.not_lt.mpr outside]

theorem Store.owner_of_size_le {id : NodeId} (outside : s.cells.size ≤ id) : s.owner id = none := by
  simp [Store.owner, Store.cell, Nat.not_lt.mpr outside]

/-- Text is appended in leaves that are new, or goes on in a leaf that is there. -/
theorem forest_appendPart (forest : s.Forest) (container : s.isContainer parent = true)
    (part : Part) :
    ∃ after, appendPart parent part s = .ok () after ∧ after.Forest ∧
      after.isContainer parent = true := by
  rcases appendPart_cases parent part s with ⟨value, id, before, -, -, leaf, step⟩ | ⟨-, step⟩
  · -- A text is no container, so containers are not changed where one goes on.
    have kept : ∀ other, s.isContainer other = true →
        (s.setContent id (.leaf (.text (before ++ value)))).isContainer other = true := by
      intro other holds
      have apart : id ≠ other := by
        rintro rfl
        simp [Store.isContainer, leaf] at holds
      rw [Store.isContainer_congr (Store.content_setContent_of_ne apart _), holds]
    refine ⟨_, step, ?_, kept parent container⟩
    apply forest.of_same _ _ _ kept
    · simp
    · simp
    · simp
  · have inside := Store.lt_size_of_isContainer container
    have holder : (s.add (.leaf part)).2.isContainer parent = true := by
      rw [Store.isContainer_congr (Store.content_add_of_lt inside _), container]
    have fit : (s.add (.leaf part)).2.MayHold parent s.cells.size := by
      apply Store.MayHold.of_bare holder
      · rw [Store.size_add]
        exact Nat.lt_succ_self _
      · rw [Store.owner_add, Store.owner_of_size_le (Nat.le_refl _)]
      · rw [Store.children_add, Store.children_of_size_le (Nat.le_refl _)]
      · exact Nat.ne_of_gt inside
    obtain ⟨after, run, grown⟩ := forest_append (forest.add (.leaf part)) fit
    have hung : append parent s.cells.size (s.add (.leaf part)).2 = .ok () (s.hang parent part) := by
      rw [append, modify_run, Store.children_add]
      rfl
    rw [hung] at run
    cases run
    refine ⟨_, step, grown, ?_⟩
    rw [Store.isContainer_congr (Store.content_hang_of_lt inside part), container]

theorem forest_forM_appendPart (parts : List Part) (forest : s.Forest)
    (container : s.isContainer parent = true) :
    Leaves Store.Forest (parts.forM (appendPart parent) s) := by
  have step : ∀ part ∈ parts, ∀ mid : Store, mid.Forest ∧ mid.isContainer parent = true →
      ∃ after, appendPart parent part mid = .ok () after ∧ after.Forest ∧
        after.isContainer parent = true :=
    fun part _ _ kept => forest_appendPart kept.1 kept.2 part
  obtain ⟨after, run, grown, -⟩ := forM_appendPart_keeps step ⟨forest, container⟩
  rw [run]
  exact .done grown

/-- New leaves hang from nothing, and are other nodes than those there. -/
theorem forest_mapM_newNode (parts : List Part) (forest : s.Forest) :
    ∃ ids after, parts.mapM (fun part => newNode (.leaf part)) s = .ok ids after ∧ after.Forest ∧
      s.cells.size ≤ after.cells.size ∧ ids.Nodup ∧
      (∀ id ∈ ids, s.cells.size ≤ id ∧ id < after.cells.size) ∧
      (∀ id < s.cells.size, after.content id = s.content id) ∧
      (∀ id, after.owner id = s.owner id) ∧ ∀ id, after.children id = s.children id := by
  induction parts generalizing s with
  | nil =>
    exact ⟨[], s, rfl, forest, Nat.le_refl _, .nil, by simp, fun _ _ => rfl, fun _ => rfl,
      fun _ => rfl⟩
  | cons part rest ih =>
    obtain ⟨ids, after, run, grown, size, distinct, range, content, owner, children⟩ :=
      ih (forest.add (.leaf part))
    rw [Store.size_add] at size range content
    refine ⟨s.cells.size :: ids, after, mapM_newNode_cons run, grown, by omega, ?_, ?_, ?_, ?_, ?_⟩
    · apply List.nodup_cons.mpr ⟨_, distinct⟩
      intro member
      exact absurd (range _ member).1 (by omega)
    · intro id member
      rcases List.mem_cons.mp member with rfl | later
      · exact ⟨Nat.le_refl _, size⟩
      · exact ⟨Nat.le_of_succ_le (range id later).1, (range id later).2⟩
    · intro id inside
      rw [content id (Nat.lt_succ_of_lt inside), Store.content_add_of_lt inside]
    · intro id
      rw [owner, Store.owner_add]
    · intro id
      rw [children, Store.children_add]

theorem forest_insertText (forest : s.Forest) (container : s.isContainer parent = true)
    (data : List Char) (ref : Option NodeId) :
    Leaves Store.Forest (insertText parent data ref s) := by
  apply Leaves.bind (expand_pays s data).leaves (fun _ => forest.of_sameButQueue)
  rintro parts _ ⟨queue, rfl⟩
  have kept : Store.Forest { s with queue } := forest.of_sameButQueue ⟨queue, rfl⟩
  cases ref with
  | none => exact forest_forM_appendPart parts kept container
  | some ref =>
    show Leaves Store.Forest (insertParts parent ref parts { s with queue })
    by_cases filled : parts = []
    · subst filled
      exact .done kept
    · rw [insertParts_of_ne_nil filled]
      rcases childIndex_cases parent ref { s with queue } with
        ⟨front, back, split, first, index⟩ | ⟨e, -, fails⟩
      · obtain ⟨ids, mid, made, grown, size, distinct, range, content, owner, children⟩ :=
          forest_mapM_newNode parts kept
        have inside := Store.lt_size_of_isContainer container
        have known : ∀ id ∈ ids, id < mid.cells.size := fun id new => (range id new).2
        obtain ⟨after, run, attached⟩ :=
          attached_insertAt ((children parent).trans split) (inside.trans_le size) known
        rw [bind_ok index, bind_ok made, run]
        apply Leaves.done (attached.forest grown distinct _)
        -- Leaves that have just been made hang from nothing, and nothing hangs from them.
        intro id new
        apply Store.MayHold.of_bare _ (range id new).2
        · rw [owner, Store.owner_of_size_le (range id new).1]
        · rw [children, Store.children_of_size_le (range id new).1]
        · exact Nat.ne_of_gt (inside.trans_le (range id new).1)
        · rw [Store.isContainer_congr (content parent inside)]
          exact container
      · rw [bind_error fails]
        exact .failed kept

/-- Nodes that are appended one by one are listed in their order, and say from what they hang. -/
theorem forM_append_owner (ids : List NodeId) (target : NodeId) (s : Store)
    (inside : target < s.cells.size) (known : ∀ id ∈ ids, id < s.cells.size) :
    ∃ after, forM ids (append target) s = .ok () after ∧ after.cells.size = s.cells.size ∧
      (∀ id, after.content id = s.content id) ∧
      after.children target = s.children target ++ ids ∧
      (∀ id, id ≠ target → after.children id = s.children id) ∧
      (∀ id ∈ ids, after.owner id = some (.node target)) ∧
      ∀ id, id ∉ ids → after.owner id = s.owner id := by
  induction ids generalizing s with
  | nil => exact ⟨s, rfl, rfl, fun _ => rfl, by simp, fun _ _ => rfl, by simp, fun _ _ => rfl⟩
  | cons first rest ih =>
    have here : first < s.cells.size := known first List.mem_cons_self
    obtain ⟨after, run, size, content, children, kept, owned, others⟩ :=
      ih ((s.setChildren target (s.children target ++ [first])).setOwner first (some (.node target)))
        (by simpa using inside)
        (fun id member => by simpa using known id (List.mem_cons_of_mem first member))
    refine ⟨after, run, by simpa using size, ?_, ?_, ?_, ?_, ?_⟩
    · intro id
      rw [content, Store.content_setOwner, Store.content_setChildren]
    · rw [children, Store.children_setOwner, Store.children_setChildren_self inside,
        List.append_assoc, List.singleton_append]
    · intro id other
      rw [kept id other, Store.children_setOwner, Store.children_setChildren_of_ne (Ne.symm other)]
    · intro id member
      by_cases later : id ∈ rest
      · exact owned id later
      · obtain rfl : id = first := (List.mem_cons.mp member).resolve_right later
        rw [others id later, Store.owner_setOwner_self (by simpa using here)]
    · intro id absent
      rw [List.mem_cons, not_or] at absent
      rw [others id absent.2, Store.owner_setOwner_of_ne (Ne.symm absent.1),
        Store.owner_setChildren]

theorem children_setChildren_nil (s : Store) (id : NodeId) : (s.setChildren id []).children id = [] := by
  by_cases inside : id < s.cells.size
  · exact Store.children_setChildren_self inside []
  · apply Store.children_of_size_le
    rw [Store.size_setChildren]
    exact Nat.not_lt.mp inside

/-- All children of a node, taken from it. -/
def Store.emptied (s : Store) (id : NodeId) : Store :=
  (s.children id).foldl (fun s child => s.setOwner child none) (s.setChildren id [])

theorem detached_emptied (forest : s.Forest) (id : NodeId) :
    Detached s (s.emptied id) id (s.children id) := by
  obtain ⟨-, -, content, children⟩ := foldl_setOwner (s.children id) none (s.setChildren id [])
  obtain ⟨size, freed, others⟩ := owner_foldl_setOwner (s.children id) none (s.setChildren id [])
    (fun child member => by simpa using forest.known id child member)
  constructor
  · exact size.trans (s.size_setChildren [])
  · intro other
    exact (content other).trans (s.content_setChildren id other [])
  · exact fun _ member => member
  · rw [Store.emptied, children, children_setChildren_nil]
    simp
  · intro other apart
    exact (children other).trans (Store.children_setChildren_of_ne (Ne.symm apart) [])
  · exact freed
  · intro other absent
    exact (others other absent).trans (s.owner_setChildren id other [])

/-- Where there are no children nothing is moved, whatever the target. -/
theorem forest_reparentChildren_bare (forest : s.Forest) {source target : NodeId}
    (bare : s.children source = []) : Leaves Store.Forest (reparentChildren source target s) := by
  have none : forM (s.children source) (append target) s = .ok () s := by
    rw [bare]
    rfl
  rw [reparentChildren_eq none]
  apply Leaves.done
  apply forest.of_same
  · rw [Store.size_setChildren]
  · intro id
    by_cases same : id = source
    · rw [same, children_setChildren_nil, bare]
    · rw [Store.children_setChildren_of_ne (Ne.symm same)]
  · exact fun id => s.owner_setChildren source id []
  · intro id container
    rw [Store.isContainer_congr (s.content_setChildren source id []), container]

/-- The children that have been taken from a node hang from nothing, and may hang from any container
that is not at or below the node. -/
theorem mayHold_emptied (forest : s.Forest) {source target : NodeId}
    (container : s.isContainer target = true) (outside : ¬ s.AtOrBelow source target) :
    ∀ id ∈ s.children source, (s.emptied source).MayHold target id := by
  intro id member
  have detached := detached_emptied forest source
  constructor
  · rw [Store.isContainer_congr (detached.content target), container]
  · rw [detached.size]
    exact forest.known source id member
  · exact detached.freed id member
  · -- A way down in what is left was a way down before, and there was one from the source.
    intro below
    have fewer : (s.emptied source).IsChild ≤ s.IsChild := fun parent child edge =>
      ((detached.mem_children forest parent child).mp edge).1
    have before : s.AtOrBelow id target := Relation.ReflTransGen.mono fewer id target below
    exact outside (.head member before)

/-- Appending the children of a node elsewhere and then emptying the node is attaching what has been
taken from it. -/
theorem attached_reparented (forest : s.Forest) {source target : NodeId} (apart : target ≠ source)
    (inside : target < s.cells.size) :
    ∃ mid, forM (s.children source) (append target) s = .ok () mid ∧
      Attached (s.emptied source) (mid.setChildren source []) target (s.children source) := by
  obtain ⟨mid, run, size, content, children, kept, owned, others⟩ :=
    forM_append_owner (s.children source) target s inside (forest.known source)
  have detached := detached_emptied forest source
  have emptied : (s.emptied source).children source = [] := by
    rw [detached.left]
    simp
  refine ⟨mid, run, ?_⟩
  constructor
  · rw [Store.size_setChildren, size, detached.size]
  · intro id
    rw [Store.content_setChildren, content, detached.content]
  · refine ⟨s.children target, [], ?_, ?_⟩
    · rw [detached.kept target apart, List.append_nil]
    · rw [Store.children_setChildren_of_ne (Ne.symm apart), children, List.append_nil]
  · intro id other
    by_cases same : id = source
    · rw [same, children_setChildren_nil, emptied]
    · rw [Store.children_setChildren_of_ne (Ne.symm same), kept id other, detached.kept id same]
  · intro id member
    rw [Store.owner_setChildren, owned id member]
  · intro id absent
    rw [Store.owner_setChildren, others id absent, detached.others id absent]

/-- Moving all children is taking them away and attaching them elsewhere. -/
theorem forest_reparentChildren (forest : s.Forest) {source target : NodeId}
    (container : s.isContainer target = true) (outside : ¬ s.AtOrBelow source target) :
    Leaves Store.Forest (reparentChildren source target s) := by
  have apart : target ≠ source := by
    rintro rfl
    exact outside .refl
  obtain ⟨mid, run, attached⟩ :=
    attached_reparented forest apart (Store.lt_size_of_isContainer container)
  rw [reparentChildren_eq run]
  exact .done (attached.forest ((detached_emptied forest source).forest forest)
    (forest.distinct source) (mayHold_emptied forest container outside))

end Operations

/-! Steps -/

/-- What is asked of a step so that it keeps a forest: a node is hung up only when it hangs from
nothing, and not at or below itself. A step that is refused, or fails for want of the child to insert
before, hangs nothing up, and neither does one that moves the children of a node without any. A step
that exports hands leaves over to another tree. -/
def Step.Admissible (s : Store) : Step → Prop
  | .append parent child => s.isContainer parent = true → s.MayHold parent child
  | .insert parent child ref => ref ∈ s.children parent → s.MayHold parent child
  | .reparent source target =>
    s.children source ≠ [] → s.isContainer target = true → ¬ s.Below source target
  | .exportTree _ => False
  | _ => True

/-- Steps of which each is admissible when its turn comes. -/
def AdmissibleRun : List Step → Store → Prop
  | [], _ => True
  | step :: rest, s => step.Admissible s ∧ AdmissibleRun rest (step.after s)

theorem forest_setAttributes {s : Store} (forest : s.Forest) (id : NodeId)
    (attrs : List (AttrName × AttrValue)) : Leaves Store.Forest (setAttributes id attrs s) := by
  rw [setAttributes, get_bind]
  cases content : s.content id with
  | element name ns old =>
    apply Leaves.bind (adaptAttributes_pays s attrs).leaves (fun _ => forest.of_sameButQueue)
    rintro adapted _ ⟨queue, rfl⟩
    rw [modify_run]
    apply Leaves.done
    apply forest.of_same
    · simp
    · exact fun other => Store.children_setContent { s with queue } id other _
    · exact fun other => Store.owner_setContent { s with queue } id other _
    · intro other holds
      by_cases same : id = other
      · subst same
        have inside : id < s.cells.size := Store.lt_size_of_isContainer holds
        rw [Store.isContainer, Store.content_setContent_self (s := { s with queue }) inside]
      · rw [Store.isContainer_congr (Store.content_setContent_of_ne same _)]
        exact holds
  | fragment =>
    apply Leaves.map
    exact (adaptAttributes_pays s attrs).leaves.imp fun _ => forest.of_sameButQueue
  | leaf part => exact .done forest
  | ignored => exact .done forest

/-- Where children are moved, it is to another node, and this is an element or a fragment. -/
theorem reparent_free {s : Store} {source target : NodeId}
    (free : (Step.reparent source target).obstacle? s = none) (filled : s.children source ≠ []) :
    source ≠ target ∧ s.isContainer target = true := by
  rw [Step.obstacle?] at free
  split at free
  · cases free
  · rw [if_neg (by simpa using filled)] at free
    split at free
    · cases free
    next apart => exact ⟨apart, incapable?_eq_none_iff.mp free⟩

/-- An admissible step that can be begun keeps a forest. -/
theorem forest_carryOut {s : Store} (forest : s.Forest) {step : Step}
    (free : step.obstacle? s = none) (fit : step.Admissible s) :
    Leaves Store.Forest (carryOut step s) := by
  cases step with
  | fragment => exact .done (forest.add _)
  | element name ns => exact .done (forest.add _)
  | create name attrs =>
    rw [carryOut, get_bind]
    apply Leaves.map
    apply Leaves.bind (adaptAttributes_pays s attrs).leaves (fun _ => forest.of_sameButQueue)
    intro adapted after same
    exact .done ((forest.of_sameButQueue same).add _)
  | attributes id attrs =>
    rw [carryOut, bind_pure_comp]
    exact .map _ (forest_setAttributes forest id attrs)
  | comment data =>
    apply Leaves.map
    apply Leaves.bind (.map _ (expand_pays s data).leaves) (fun _ => forest.of_sameButQueue)
    intro _ after same
    exact .done ((forest.of_sameButQueue same).add _)
  | doctype => exact .done (forest.add _)
  | clone source =>
    apply Leaves.map
    rw [cloneNode_eq]
    exact .done (forest.add _)
  | append parent child =>
    rw [carryOut, bind_pure_comp]
    obtain ⟨after, run, grown⟩ := forest_append forest (fit (incapable?_eq_none_iff.mp free))
    apply Leaves.map
    rw [run]
    exact .done grown
  | insert parent child ref =>
    rw [carryOut, bind_pure_comp]
    exact .map _ (forest_insertBefore forest fit)
  | remove parent child =>
    rw [carryOut, bind_pure_comp]
    exact .map _ (forest_remove forest parent child)
  | text parent data ref =>
    rw [carryOut, bind_pure_comp]
    exact .map _ (forest_insertText forest (incapable?_eq_none_iff.mp free) data ref)
  | reparent source target =>
    rw [carryOut, bind_pure_comp]
    apply Leaves.map
    by_cases bare : s.children source = []
    · exact forest_reparentChildren_bare forest bare
    · obtain ⟨apart, container⟩ := reparent_free free bare
      apply forest_reparentChildren forest container
      intro below
      rcases Relation.reflTransGen_iff_eq_or_transGen.mp below with same | below
      · exact apart same.symm
      · exact fit bare container below
  | exportTree id => exact fit.elim

/-- An admissible step keeps a forest. -/
theorem forest_perform {s : Store} (forest : s.Forest) (step : Step) (fit : step.Admissible s) :
    Leaves Store.Forest (perform step s) := by
  cases obstacle : step.obstacle? s with
  | some e =>
    rw [perform_of_obstacle obstacle]
    exact .failed forest
  | none =>
    rw [perform_of_free obstacle]
    exact forest_carryOut forest obstacle fit

theorem forest_after {s : Store} (forest : s.Forest) (step : Step) (fit : step.Admissible s) :
    (step.after s).Forest := by
  have leaves := forest_perform forest step fit
  unfold Step.after
  generalize perform step s = outcome at leaves
  cases leaves with
  | done holds => exact holds
  | failed holds => exact holds

/-- An admissible run keeps a forest. -/
theorem forest_runSteps {steps : List Step} {s : Store} (forest : s.Forest)
    (fit : AdmissibleRun steps s) : (runSteps steps s).Forest := by
  induction steps generalizing s with
  | nil => exact forest
  | cons step rest ih => exact ih (forest_after forest step fit.1) fit.2

/-- Before anything is built there is a forest without trees. -/
theorem forest_empty (setup : Setup) (queue : Queue) : Store.Forest { setup, queue } where
  known _ _ member := absurd member (List.not_mem_nil)
  holds _ _ member := absurd member (List.not_mem_nil)
  distinct _ := .nil
  owned child parent := by simp [Store.owner, Store.children, Store.cell]
  free child := by simp [Store.owner, Store.cell]
  grounded id := ⟨id, fun _ edge => absurd edge (List.not_mem_nil)⟩

end HtmlTemplate.Dom
