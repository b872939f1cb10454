import HtmlTemplate.Proofs.Dom.Forest
import Mathlib.Data.List.Nodup
import Mathlib.Data.List.Perm.Subperm

/-!
What is exported from a forest. The way down from a node meets no node twice, so the number of nodes
is fuel enough for it, and every node below it that is not ignored becomes one object, in its place.
Objects have names of their own, and the parents written down while they are made are theirs. The
leaves among them are the nodes that are handed over to the exported tree.

The shape of what is exported is followed along the fuel; what it holds is then read off from the
shape, by induction on the objects.
-/

namespace HtmlTemplate.Dom

/-! Objects below an object -/

@[simp]
theorem Object.source_mk (name : ObjectName) (source : NodeId) (children : List Object) :
    (Object.mk name source children).source = source := rfl

@[simp]
theorem Object.children_mk (name : ObjectName) (source : NodeId) (children : List Object) :
    (Object.mk name source children).children = children := rfl

mutual

/-- An object and all below it, each before its children. -/
def Object.parts : Object → List Object
  | .mk name source children => .mk name source children :: partsOf children
termination_by structural object => object

def partsOf : List Object → List Object
  | [] => []
  | object :: rest => object.parts ++ partsOf rest
termination_by structural objects => objects

end

mutual

/-- The children in an object, each with the object that it is a child of. -/
def Object.links : Object → List (ObjectName × ObjectName)
  | .mk name _ children => linksOf children ++ children.map fun child => (child.name, name)
termination_by structural object => object

def linksOf : List Object → List (ObjectName × ObjectName)
  | [] => []
  | object :: rest => object.links ++ linksOf rest
termination_by structural objects => objects

end

mutual

/-- The value that an object stands for. -/
def Object.node (s : Store) : Object → Node
  | .mk _ source children =>
    match s.content source with
    | .fragment => .fragment (nodesOf s children)
    | .element name ns attrs => .element name ns (attrs.map exportAttr) (nodesOf s children)
    | .leaf part => part.node
    | .ignored => .foreign "IgnoredNode"
termination_by structural object => object

def nodesOf (s : Store) : List Object → List Node
  | [] => []
  | object :: rest => object.node s :: nodesOf s rest
termination_by structural objects => objects

end

/-- The objects have as children what their nodes show. -/
def Store.Shapes (s : Store) (objects : List Object) : Prop :=
  ∀ object ∈ objects, object.children.map Object.source = s.shown object.source

/-- Leaves have become part of an exported tree, and nothing else has changed. -/
structure HandedOver (s : Store) (leaves : List NodeId) (after : Store) : Prop where
  queue : after.queue = s.queue
  content : ∀ id, after.content id = s.content id
  children : ∀ id, after.children id = s.children id
  given : ∀ id ∈ leaves, after.owner id = some .exported
  others : ∀ id, id ∉ leaves → after.owner id = s.owner id

/-- What there is to say of a node that is exported. -/
structure Store.Exports (s : Store) (id : NodeId) (root : Object) (done : Export) : Prop where
  source : root.source = id
  /-- Every object has the children of its node that are not ignored, in their order. -/
  shapes : s.Shapes root.parts
  /-- No node is exported twice. -/
  once : (root.parts.map Object.source).Nodup
  /-- Just the nodes below that are not ignored are exported with it. -/
  all : ∀ other, other ∈ root.parts.map Object.source ↔
    other = id ∨ (s.Below id other ∧ s.isIgnored other = false)
  names : (root.parts.map Object.name).Nodup
  /-- Every child refers to the object that it is a child of. -/
  linked : root.isLinked done = true
  value : root.node s = s.tree id
  /-- The leaves to be handed over are the objects below the first one that are leaves. -/
  leaves : s.leavesBelow (s.cells.size + 1) id =
    ((partsOf root.children).map Object.source).filter s.isLeaf
  /-- Exporting gives the value of the objects, and hands over the leaves among them. -/
  result : ∃ after, exportTree id s = .ok (s.tree id) after ∧
    HandedOver s (s.leavesBelow (s.cells.size + 1) id) after

/-! Depth -/

section Depth

variable {s : Store} {id : NodeId}

/-- There is fuel for the way down from a node: the nodes above it, taken together with the fuel, are
more than there are. -/
def Store.Enough (s : Store) (fuel : Nat) (id : NodeId) : Prop :=
  ∃ above : List NodeId, above.Nodup ∧ (∀ other ∈ above, s.Below other id) ∧
    s.cells.size < fuel + above.length

theorem enough_start (s : Store) (id : NodeId) : s.Enough (s.cells.size + 1) id :=
  ⟨[], .nil, by simp, by simp⟩

theorem enough_child (forest : s.Forest) {fuel : Nat} (enough : s.Enough (fuel + 1) id)
    {child : NodeId} (member : child ∈ s.children id) : s.Enough fuel child := by
  obtain ⟨above, distinct, below, size⟩ := enough
  refine ⟨id :: above, ?_, ?_, ?_⟩
  · apply List.nodup_cons.mpr ⟨_, distinct⟩
    -- The nodes above the child are those above its parent and the parent, which is new among them.
    intro again
    exact forest.not_below_self id (below id again)
  · intro other listed
    rcases List.mem_cons.mp listed with rfl | higher
    · exact .single member
    · exact (below other higher).tail member
  · rw [List.length_cons]
    omega

/-- The nodes above another are known, and they are not more than there are. -/
theorem not_enough_zero (forest : s.Forest) (id : NodeId) : ¬ s.Enough 0 id := by
  rintro ⟨above, distinct, below, size⟩
  have known : above ⊆ List.range s.cells.size := by
    intro other listed
    obtain ⟨child, edge, -⟩ := Relation.TransGen.head'_iff.mp (below other listed)
    exact List.mem_range.mpr (Store.lt_size_of_isContainer (forest.holds other child edge))
  have few := (distinct.subperm known).length_le
  rw [List.length_range] at few
  omega

end Depth

/-! Shapes -/

section Shapes

variable {s : Store}

theorem Store.Forest.children_of_not_isContainer (forest : s.Forest) {id : NodeId}
    (other : s.isContainer id = false) : s.children id = [] := by
  apply List.eq_nil_iff_forall_not_mem.mpr
  intro child member
  rw [forest.holds id child member] at other
  cases other

theorem mem_shown {id child : NodeId} :
    child ∈ s.shown id ↔ child ∈ s.children id ∧ s.isIgnored child = false := by
  simp [Store.shown]

theorem exportAll_shapes {visit : NodeId → Export → Object × Export} (ids : List NodeId) (e : Export)
    (each : ∀ id ∈ ids, ∀ e, (visit id e).1.source = id ∧ s.Shapes (visit id e).1.parts) :
    (Store.exportAll visit ids e).1.map Object.source = ids ∧
      s.Shapes (partsOf (Store.exportAll visit ids e).1) := by
  induction ids generalizing e with
  | nil => exact ⟨rfl, fun _ member => absurd member (List.not_mem_nil)⟩
  | cons id rest ih =>
    obtain ⟨source, shapes⟩ := each id List.mem_cons_self e
    obtain ⟨sources, later⟩ := ih (visit id e).2 fun other member =>
      each other (List.mem_cons_of_mem id member)
    refine ⟨?_, ?_⟩
    · simp only [Store.exportAll, List.map_cons, source, sources]
    · intro object member
      simp only [Store.exportAll, partsOf, List.mem_append] at member
      rcases member with first | other
      · exact shapes object first
      · exact later object other

theorem exportObject_shapes (forest : s.Forest) (fuel : Nat) (id : NodeId) (e : Export)
    (enough : s.Enough fuel id) :
    (s.exportObject fuel id e).1.source = id ∧ s.Shapes (s.exportObject fuel id e).1.parts := by
  induction fuel generalizing id e with
  | zero => exact absurd enough (not_enough_zero forest id)
  | succ fuel ih =>
    rw [Store.exportObject]
    split
    next container =>
      obtain ⟨sources, shapes⟩ := exportAll_shapes (s.shown id) e fun child member e =>
        ih child e (enough_child forest enough (mem_shown.mp member).1)
      refine ⟨rfl, ?_⟩
      intro object member
      rcases List.mem_cons.mp member with rfl | below
      · exact sources
      · exact shapes object below
    next other =>
      refine ⟨rfl, ?_⟩
      intro object member
      obtain rfl : object = .mk (.leaf id) id [] := List.mem_singleton.mp member
      have bare := forest.children_of_not_isContainer (Bool.eq_false_iff.mpr other)
      show [] = s.shown id
      rw [Store.shown, bare, List.filter_nil]

end Shapes

/-! What a shape holds -/

section Sources

variable {s : Store}

/-- An ignored node has nothing below it, so the way to a node that is not ignored leads over nodes
that are not ignored. -/
theorem below_iff_shown (forest : s.Forest) (id other : NodeId) :
    (s.Below id other ∧ s.isIgnored other = false) ↔
      ∃ child ∈ s.shown id, other = child ∨ (s.Below child other ∧ s.isIgnored other = false) := by
  constructor
  · rintro ⟨below, shown⟩
    obtain ⟨child, edge, rest⟩ := Relation.TransGen.head'_iff.mp below
    rcases Relation.reflTransGen_iff_eq_or_transGen.mp rest with rfl | deeper
    · exact ⟨other, mem_shown.mpr ⟨edge, shown⟩, .inl rfl⟩
    · refine ⟨child, mem_shown.mpr ⟨edge, ?_⟩, .inr ⟨deeper, shown⟩⟩
      -- A node with a child is a container, and containers are not ignored.
      obtain ⟨next, down, -⟩ := Relation.TransGen.head'_iff.mp deeper
      have container := forest.holds child next down
      unfold Store.isContainer at container
      unfold Store.isIgnored
      split at container <;> simp_all
  · rintro ⟨child, member, rfl | ⟨below, shown⟩⟩
    · exact ⟨.single (mem_shown.mp member).1, (mem_shown.mp member).2⟩
    · exact ⟨.head (mem_shown.mp member).1 below, shown⟩

theorem shapes_append {front back : List Object} :
    s.Shapes (front ++ back) ↔ s.Shapes front ∧ s.Shapes back := by
  simp only [Store.Shapes, List.mem_append]
  constructor
  · intro all
    exact ⟨fun object member => all object (.inl member), fun object member =>
      all object (.inr member)⟩
  · rintro ⟨first, second⟩ object (member | member)
    · exact first object member
    · exact second object member

theorem shapes_cons {object : Object} {rest : List Object} :
    s.Shapes (object :: rest) ↔
      object.children.map Object.source = s.shown object.source ∧ s.Shapes rest := by
  simp [Store.Shapes]

mutual

/-- The nodes that an object and what is below it stand for. -/
theorem Object.mem_sources (forest : s.Forest) :
    ∀ object : Object, s.Shapes object.parts → ∀ other,
      other ∈ object.parts.map Object.source ↔
        other = object.source ∨ (s.Below object.source other ∧ s.isIgnored other = false)
  | .mk name source children, shapes, other => by
    obtain ⟨here, below⟩ := shapes_cons.mp shapes
    have inside := mem_sourcesOf forest children below other
    rw [Object.children_mk, Object.source_mk] at here
    rw [Object.parts, List.map_cons, List.mem_cons, inside, Object.source_mk,
      below_iff_shown forest, ← here]
    simp
termination_by structural object => object

theorem mem_sourcesOf (forest : s.Forest) :
    ∀ objects : List Object, s.Shapes (partsOf objects) → ∀ other,
      other ∈ (partsOf objects).map Object.source ↔
        ∃ object ∈ objects, other = object.source ∨
          (s.Below object.source other ∧ s.isIgnored other = false)
  | [], _, other => by simp [partsOf]
  | object :: rest, shapes, other => by
    obtain ⟨here, later⟩ := shapes_append.mp shapes
    rw [partsOf, List.map_append, List.mem_append, object.mem_sources forest here,
      mem_sourcesOf forest rest later]
    simp
termination_by structural objects => objects

end

/-- A node at or below two children of one node is below one of them only. -/
theorem eq_of_atOrBelow (forest : s.Forest) {parent first second other : NodeId}
    (one : first ∈ s.children parent) (two : second ∈ s.children parent)
    (below : s.AtOrBelow first other) (again : s.AtOrBelow second other) : first = second := by
  -- One of the two is at or below the other, on the way up from the node.
  have apart {a b : NodeId} (here : a ∈ s.children parent) (there : b ∈ s.children parent)
      (down : s.AtOrBelow a b) : a = b := by
    rcases Relation.ReflTransGen.cases_tail down with same | ⟨last, way, edge⟩
    · exact same.symm
    · obtain rfl : last = parent := forest.eq_of_mem edge there
      have cycle : s.Below last last := Relation.TransGen.head' here way
      exact absurd cycle (forest.not_below_self last)
  have unique : Relator.RightUnique (Function.swap s.IsChild) := fun _ _ _ up down =>
    forest.eq_of_mem up down
  rcases Relation.ReflTransGen.total_of_right_unique unique
      (Relation.reflTransGen_swap.mpr below) (Relation.reflTransGen_swap.mpr again) with up | up
  · exact (apart two one (Relation.reflTransGen_swap.mp up)).symm
  · exact apart one two (Relation.reflTransGen_swap.mp up)

theorem atOrBelow_of_source {source other : NodeId}
    (stands : other = source ∨ (s.Below source other ∧ s.isIgnored other = false)) :
    s.AtOrBelow source other := by
  rcases stands with rfl | ⟨below, -⟩
  · exact .refl
  · exact below.to_reflTransGen

mutual

/-- No two objects stand for one node. -/
theorem Object.nodup_sources (forest : s.Forest) :
    ∀ object : Object, s.Shapes object.parts → (object.parts.map Object.source).Nodup
  | .mk name source children, shapes => by
    obtain ⟨here, below⟩ := shapes_cons.mp shapes
    rw [Object.children_mk, Object.source_mk] at here
    have listed : ∀ child ∈ children, child.source ∈ s.children source := by
      intro child member
      have shown : child.source ∈ s.shown source := here ▸ List.mem_map_of_mem member
      exact (mem_shown.mp shown).1
    have distinct : (children.map Object.source).Nodup := by
      rw [here]
      exact (forest.distinct source).filter _
    rw [Object.parts, List.map_cons]
    apply List.nodup_cons.mpr ⟨_, nodup_sourcesOf forest source children below listed distinct⟩
    -- Were the object among those below it, its node would stand below itself.
    intro again
    obtain ⟨child, member, stands⟩ := (mem_sourcesOf forest children below source).mp again
    have cycle : s.Below source source :=
      Relation.TransGen.head' (listed child member) (atOrBelow_of_source stands)
    exact forest.not_below_self source cycle
termination_by structural object => object

theorem nodup_sourcesOf (forest : s.Forest) (parent : NodeId) :
    ∀ objects : List Object, s.Shapes (partsOf objects) →
      (∀ object ∈ objects, object.source ∈ s.children parent) →
      (objects.map Object.source).Nodup → ((partsOf objects).map Object.source).Nodup
  | [], _, _, _ => .nil
  | object :: rest, shapes, listed, distinct => by
    obtain ⟨here, later⟩ := shapes_append.mp shapes
    obtain ⟨new, distinct⟩ := List.nodup_cons.mp distinct
    have others : ∀ other ∈ rest, other.source ∈ s.children parent := fun other member =>
      listed other (List.mem_cons_of_mem object member)
    rw [partsOf, List.map_append]
    apply List.Nodup.append (object.nodup_sources forest here)
      (nodup_sourcesOf forest parent rest later others distinct)
    -- A node below two of the objects would have two ways up to the parent.
    intro id first second
    have stands := (object.mem_sources forest here id).mp first
    obtain ⟨other, member, stands'⟩ := (mem_sourcesOf forest rest later id).mp second
    have same := eq_of_atOrBelow forest (listed object List.mem_cons_self) (others other member)
      (atOrBelow_of_source stands) (atOrBelow_of_source stands')
    exact new (same ▸ List.mem_map_of_mem member)
termination_by structural objects => objects

end

end Sources

/-! Names -/

/-- What is written down while objects are made: those made anew are counted, and a leaf has the name
of its node. -/
structure Numbered (e : Export) (objects : List Object) (links : List (ObjectName × ObjectName))
    (after : Export) : Prop where
  grows : e.made ≤ after.made
  range : ∀ object ∈ objects, ∀ number, object.name = .made number →
    e.made ≤ number ∧ number < after.made
  distinct : objects.Pairwise fun first second =>
    ∀ number, first.name = .made number → second.name ≠ .made number
  leaves : ∀ object ∈ objects, ∀ id, object.name = .leaf id → object.source = id
  log : after.parents = e.parents ++ links

namespace Numbered

variable {e mid after : Export} {front back : List Object}
  {links more : List (ObjectName × ObjectName)}

theorem nil (e : Export) : Numbered e [] [] e where
  grows := Nat.le_refl _
  range _ member := absurd member (List.not_mem_nil)
  distinct := .nil
  leaves _ member := absurd member (List.not_mem_nil)
  log := (List.append_nil _).symm

theorem append (first : Numbered e front links mid) (second : Numbered mid back more after) :
    Numbered e (front ++ back) (links ++ more) after where
  grows := first.grows.trans second.grows
  range object member number name := by
    rcases List.mem_append.mp member with here | later
    · have bounds := first.range object here number name
      exact ⟨bounds.1, bounds.2.trans_le second.grows⟩
    · have bounds := second.range object later number name
      exact ⟨first.grows.trans bounds.1, bounds.2⟩
  distinct := by
    apply List.pairwise_append.mpr ⟨first.distinct, second.distinct, _⟩
    intro object here other later number name again
    -- All numbers of the first were given before any of the second.
    have low := (first.range object here number name).2
    have high := (second.range other later number again).1
    omega
  leaves object member := by
    rcases List.mem_append.mp member with here | later
    · exact first.leaves object here
    · exact second.leaves object later
  log := by rw [second.log, first.log, List.append_assoc]

theorem leaf (e : Export) (id : NodeId) : Numbered e [.mk (.leaf id) id []] [] e where
  grows := Nat.le_refl _
  range object member number name := by
    rw [List.mem_singleton.mp member] at name
    cases name
  distinct := List.pairwise_singleton _ _
  leaves object member other name := by
    rw [List.mem_singleton.mp member] at name ⊢
    exact ObjectName.leaf.inj name
  log := (List.append_nil _).symm

/-- An object made after those below it has a number above theirs. -/
theorem make (source : NodeId) (children : List Object)
    (below : Numbered e (partsOf children) (linksOf children) after) :
    Numbered e (after.make source children).1.parts (after.make source children).1.links
      (after.make source children).2 where
  grows := below.grows.trans (Nat.le_succ _)
  range object member number name := by
    rcases List.mem_cons.mp member with rfl | inside
    · obtain rfl := ObjectName.made.inj name
      exact ⟨below.grows, Nat.lt_succ_self _⟩
    · have bounds := below.range object inside number name
      exact ⟨bounds.1, Nat.lt_succ_of_lt bounds.2⟩
  distinct := by
    apply List.pairwise_cons.mpr ⟨_, below.distinct⟩
    intro object inside number name again
    have bounds := below.range object inside number again
    obtain rfl := ObjectName.made.inj name
    exact absurd bounds.2 (Nat.lt_irrefl _)
  leaves object member id name := by
    rcases List.mem_cons.mp member with rfl | inside
    · cases name
    · exact below.leaves object inside id name
  log := by
    show after.parents ++ _ = e.parents ++ (linksOf children ++ _)
    rw [below.log, List.append_assoc]

/-- Objects that stand for different nodes have different names. -/
theorem nodup_names (numbered : Numbered e front links after)
    (sources : (front.map Object.source).Nodup) : (front.map Object.name).Nodup := by
  apply List.pairwise_map.mpr
  apply List.Pairwise.imp_of_mem _ ((List.pairwise_map.mp sources).and numbered.distinct)
  rintro first second here there ⟨apart, numbers⟩ same
  cases name : first.name with
  | made number => exact numbers number name (same ▸ name)
  -- The name of a leaf tells its node, so equal names would mean equal nodes.
  | leaf id =>
    have one := numbered.leaves first here id name
    have two := numbered.leaves second there id (same ▸ name)
    exact apart (one.trans two.symm)

end Numbered

theorem exportAll_numbered {visit : NodeId → Export → Object × Export}
    (each : ∀ id e, Numbered e (visit id e).1.parts (visit id e).1.links (visit id e).2)
    (ids : List NodeId) (e : Export) :
    Numbered e (partsOf (Store.exportAll visit ids e).1) (linksOf (Store.exportAll visit ids e).1)
      (Store.exportAll visit ids e).2 := by
  induction ids generalizing e with
  | nil => exact .nil e
  | cons id rest ih => exact (each id e).append (ih (visit id e).2)

theorem exportObject_numbered (s : Store) (fuel : Nat) (id : NodeId) (e : Export) :
    Numbered e (s.exportObject fuel id e).1.parts (s.exportObject fuel id e).1.links
      (s.exportObject fuel id e).2 := by
  induction fuel generalizing id e with
  | zero => exact .leaf e id
  | succ fuel ih =>
    rw [Store.exportObject]
    split
    · exact .make id _ (exportAll_numbered ih (s.shown id) e)
    · exact .leaf e id

/-! Links -/

theorem Object.parts_eq (object : Object) : object.parts = object :: partsOf object.children := by
  cases object
  rfl

mutual

/-- Each object below another is linked once. -/
theorem Object.links_perm :
    ∀ object : Object, (object.links.map (·.1)).Perm ((partsOf object.children).map Object.name)
  | .mk name source children => by
    have below := linksOf_perm children
    rw [Object.links, List.map_append, List.map_map]
    exact below
termination_by structural object => object

theorem linksOf_perm :
    ∀ objects : List Object, ((linksOf objects).map (·.1) ++ objects.map Object.name).Perm
      ((partsOf objects).map Object.name)
  | [] => .nil
  | object :: rest => by
    have here := object.links_perm
    have later := linksOf_perm rest
    rw [linksOf, partsOf, object.parts_eq]
    simp only [List.map_append, List.map_cons, List.cons_append, List.append_assoc]
    -- The links below come before those to the children, so the name of the first is in the middle.
    calc
      _ = (object.links.map (·.1) ++ (linksOf rest).map (·.1)) ++
            object.name :: rest.map Object.name := (List.append_assoc ..).symm
      List.Perm _ (object.name :: ((object.links.map (·.1) ++ (linksOf rest).map (·.1)) ++
            rest.map Object.name)) := List.perm_middle
      _ = object.name :: (object.links.map (·.1) ++ ((linksOf rest).map (·.1) ++
            rest.map Object.name)) := by rw [List.append_assoc]
      List.Perm _ _ := .cons _ (here.append later)
termination_by structural objects => objects

end

theorem parent?_of_mem {e : Export} (distinct : (e.parents.map (·.1)).Nodup)
    {entry : ObjectName × ObjectName} (member : entry ∈ e.parents) :
    e.parent? entry.1 = some entry.2 := by
  have found (entries : List (ObjectName × ObjectName)) (keys : (entries.map (·.1)).Nodup)
      (listed : entry ∈ entries) : entries.find? (fun other => other.1 == entry.1) = some entry := by
    induction entries with
    | nil => cases listed
    | cons first rest ih =>
      obtain ⟨new, keys⟩ := List.nodup_cons.mp keys
      rcases List.mem_cons.mp listed with rfl | later
      · simp
      · have other : first.1 ≠ entry.1 := fun same =>
          new (List.mem_map.mpr ⟨entry, later, same.symm⟩)
        rw [List.find?_cons_of_neg (by simpa using other)]
        exact ih keys later
  -- The last entry of a name counts, and there is only one.
  rw [Export.parent?, found e.parents.reverse _ (List.mem_reverse.mpr member)]
  · rfl
  · rw [List.map_reverse]
    exact List.nodup_reverse.mpr distinct

mutual

theorem Object.isLinked_of_links {e : Export} :
    ∀ object : Object, (∀ entry ∈ object.links, e.parent? entry.1 = some entry.2) →
      object.isLinked e = true
  | .mk name source children, known => by
    rw [Object.isLinked]
    apply areLinked_of_links name children
    · intro entry member
      exact known entry (List.mem_append_left _ member)
    · intro child member
      exact known (child.name, name) (List.mem_append_right _ (List.mem_map_of_mem member))
termination_by structural object => object

theorem areLinked_of_links {e : Export} (parent : ObjectName) :
    ∀ objects : List Object, (∀ entry ∈ linksOf objects, e.parent? entry.1 = some entry.2) →
      (∀ object ∈ objects, e.parent? object.name = some parent) →
      areLinked e parent objects = true
  | [], _, _ => rfl
  | object :: rest, known, mine => by
    have here := object.isLinked_of_links fun entry member =>
      known entry (List.mem_append_left _ member)
    have later := areLinked_of_links parent rest
      (fun entry member => known entry (List.mem_append_right _ member))
      (fun other member => mine other (List.mem_cons_of_mem object member))
    rw [areLinked, mine object List.mem_cons_self, here, later]
    simp
termination_by structural objects => objects

end

/-! Values -/

theorem nodesOf_exportAll {s : Store} {visit : NodeId → Export → Object × Export}
    {value : NodeId → Node} (ids : List NodeId) (e : Export)
    (each : ∀ id ∈ ids, ∀ e, (visit id e).1.node s = value id) :
    nodesOf s (Store.exportAll visit ids e).1 = ids.map value := by
  induction ids generalizing e with
  | nil => rfl
  | cons id rest ih =>
    have later := ih (visit id e).2 fun other member => each other (List.mem_cons_of_mem id member)
    simp only [Store.exportAll, nodesOf, List.map_cons, each id List.mem_cons_self e, later]

/-- The objects stand for the tree that is exported. -/
theorem node_exportObject {s : Store} (forest : s.Forest) (fuel : Nat) (id : NodeId) (e : Export)
    (enough : s.Enough fuel id) : (s.exportObject fuel id e).1.node s = s.exportNode fuel id := by
  induction fuel generalizing id e with
  | zero => exact absurd enough (not_enough_zero forest id)
  | succ fuel ih =>
    have below := nodesOf_exportAll (s.shown id) e fun child member e =>
      ih child e (enough_child forest enough (mem_shown.mp member).1)
    rw [Store.exportObject, Store.exportNode]
    cases content : s.content id with
    | fragment => simp [Store.isContainer, content, Export.make, Object.node, below]
    | element name ns attrs => simp [Store.isContainer, content, Export.make, Object.node, below]
    | leaf part => simp [Store.isContainer, content, Object.node]
    | ignored => simp [Store.isContainer, content, Object.node]

/-! Leaves -/

theorem leaves_exportAll {s : Store} {visit : NodeId → Export → Object × Export}
    {leaves : NodeId → List NodeId} (ids : List NodeId) (e : Export)
    (each : ∀ id ∈ ids, ∀ e, ((visit id e).1.parts.map Object.source).filter s.isLeaf = leaves id) :
    ((partsOf (Store.exportAll visit ids e).1).map Object.source).filter s.isLeaf =
      ids.flatMap leaves := by
  induction ids generalizing e with
  | nil => rfl
  | cons id rest ih =>
    have later := ih (visit id e).2 fun other member => each other (List.mem_cons_of_mem id member)
    simp only [Store.exportAll, partsOf, List.map_append, List.filter_append, List.flatMap_cons,
      each id List.mem_cons_self e, later]

theorem not_isContainer_of_isLeaf {s : Store} {id : NodeId} (leaf : s.isLeaf id = true) :
    s.isContainer id = false := by
  unfold Store.isLeaf at leaf
  unfold Store.isContainer
  split at leaf <;> simp_all

theorem lt_size_of_isLeaf {s : Store} {id : NodeId} (leaf : s.isLeaf id = true) :
    id < s.cells.size := by
  apply Store.lt_size_of_content
  intro ignored
  simp [Store.isLeaf, ignored] at leaf

theorem leavesBelow_of_not_isContainer {s : Store} (forest : s.Forest) {id : NodeId}
    (other : s.isContainer id = false) (fuel : Nat) : s.leavesBelow fuel id = [] := by
  cases fuel with
  | zero => rfl
  | succ fuel =>
    rw [Store.leavesBelow, Store.shown, forest.children_of_not_isContainer other]
    rfl

/-- The leaves that are handed over are those among the objects below the one of the node. -/
theorem leaves_exportObject {s : Store} (forest : s.Forest) (fuel : Nat) (id : NodeId) (e : Export)
    (enough : s.Enough fuel id) :
    ((partsOf (s.exportObject fuel id e).1.children).map Object.source).filter s.isLeaf =
      s.leavesBelow fuel id := by
  induction fuel generalizing id e with
  | zero => exact absurd enough (not_enough_zero forest id)
  | succ fuel ih =>
    rw [Store.exportObject]
    split
    next container =>
      rw [Store.leavesBelow]
      apply leaves_exportAll
      intro child member e
      have enough := enough_child forest enough (mem_shown.mp member).1
      have source := (exportObject_shapes forest fuel child e enough).1
      rw [Object.parts_eq, List.map_cons, List.filter_cons, source, ih child e enough]
      split
      next leaf => rw [leavesBelow_of_not_isContainer forest (not_isContainer_of_isLeaf leaf)]
      next => rfl
    next other =>
      rw [leavesBelow_of_not_isContainer forest (Bool.eq_false_iff.mpr other)]
      rfl

theorem handedOver_foldl_setOwner {s : Store} {leaves : List NodeId}
    (all : ∀ id ∈ leaves, s.isLeaf id = true) :
    HandedOver s leaves (leaves.foldl (fun s leaf => s.setOwner leaf (some .exported)) s) := by
  obtain ⟨queue, -, content, children⟩ := foldl_setOwner leaves (some .exported) s
  obtain ⟨-, given, others⟩ := owner_foldl_setOwner leaves (some .exported) s fun id member =>
    lt_size_of_isLeaf (all id member)
  exact ⟨queue, content, children, given, others⟩

/-- From a forest every node is exported whole. -/
theorem Store.Forest.exports {s : Store} (forest : s.Forest) (id : NodeId) :
    s.Exports id (s.objects id).1 (s.objects id).2 := by
  have enough := enough_start s id
  obtain ⟨source, shapes⟩ := exportObject_shapes forest _ id {} enough
  have numbered := exportObject_numbered s (s.cells.size + 1) id {}
  have once := (s.objects id).1.nodup_sources forest shapes
  have names := numbered.nodup_names once
  have leaves := (leaves_exportObject forest _ id {} enough).symm
  constructor
  · exact source
  · exact shapes
  · exact once
  · intro other
    have stands := (s.objects id).1.mem_sources forest shapes other
    rw [stands]
    show _ ∨ _ ↔ _
    rw [show (s.objects id).1.source = id from source]
  · exact names
  · -- The names below the object are among those of all, so none is linked twice.
    have log : (s.objects id).2.parents = (s.objects id).1.links := numbered.log
    have keys : ((s.objects id).2.parents.map (·.1)).Nodup := by
      rw [log, (s.objects id).1.links_perm.nodup_iff]
      have all : ((s.objects id).1.parts.map Object.name).Nodup := names
      rw [Object.parts_eq, List.map_cons] at all
      exact (List.nodup_cons.mp all).2
    apply Object.isLinked_of_links
    intro entry member
    exact parent?_of_mem keys (log ▸ member)
  · exact node_exportObject forest _ id {} enough
  · exact leaves
  · refine ⟨_, rfl, handedOver_foldl_setOwner ?_⟩
    intro leaf member
    rw [leaves] at member
    exact (List.mem_filter.mp member).2

/-- Over all lists of children together no node is listed twice. -/
theorem Store.Forest.nodup_children {s : Store} (forest : s.Forest) :
    ((List.range s.cells.size).flatMap s.children).Nodup := by
  apply List.nodup_flatMap.mpr ⟨fun parent _ => forest.distinct parent, _⟩
  apply List.Pairwise.imp _ List.nodup_range
  intro first second apart id here there
  exact apart (forest.eq_of_mem here there)

/-- After any run of steps that hang up only what hangs from nothing, and nothing at or below itself,
there is a forest: no node is listed twice among all children, a node hangs from another just when it
is one of its children, and no node is below itself. So every node can be exported, and gives a tree
in which each node below it that is not ignored stands once, in its place, and refers to its parent;
the leaves among them are handed over to the tree. The first steps of a run are a run too, so this
holds after each of its steps. -/
theorem run_keeps_forest (setup : Setup) (queue : Queue) (steps : List Step)
    (fit : AdmissibleRun steps { setup, queue }) :
    ((List.range (runSteps steps { setup, queue }).cells.size).flatMap
        (runSteps steps { setup, queue }).children).Nodup ∧
      (∀ id parent, (runSteps steps { setup, queue }).owner id = some (.node parent) ↔
        id ∈ (runSteps steps { setup, queue }).children parent) ∧
      (∀ id, ¬ (runSteps steps { setup, queue }).Below id id) ∧
      ∀ id, (runSteps steps { setup, queue }).Exports id
        ((runSteps steps { setup, queue }).objects id).1
        ((runSteps steps { setup, queue }).objects id).2 := by
  have forest := forest_runSteps (forest_empty setup queue) fit
  exact ⟨forest.nodup_children, forest.owned, forest.not_below_self, forest.exports⟩

/-- Two directives, each marked by a number sign. -/
def twoDirectives : Store :=
  { setup := { sentinel := ['#'], booleans := [], ns := none }
    queue := .ofList [.expression (.variable "title"), .endIfTag] }

/-- A paragraph with text and a comment is cloned, its children are moved to the clone, and the comment
is moved to the front of them. The comment is first to be put before a node that is no child, and
to be given a child itself; at last text is inserted for which there are not enough directives. -/
def movingSteps : List Step :=
  [.fragment, .create "p" [(.plain "title", .plain "#")], .append 0 1, .text 1 ['x', '#', 'y'] none,
    .comment [], .append 1 5, .text 1 ['z'] (some 3), .clone 1, .reparent 1 7, .append 0 7,
    .remove 7 5, .insert 7 5 1, .append 5 7, .insert 7 5 2, .doctype, .text 7 ['#'] none]

theorem not_atOrBelow_of_unlisted {s : Store} {id other : NodeId} (apart : other ≠ id)
    (unlisted : ∀ parent < s.cells.size, other ∉ s.children parent) : ¬ s.AtOrBelow id other := by
  intro below
  rcases Relation.ReflTransGen.cases_tail below with same | ⟨last, -, edge⟩
  · exact apart same
  · by_cases inside : last < s.cells.size
    · exact unlisted last inside edge
    · rw [Store.IsChild, Store.children_of_size_le (Nat.not_lt.mp inside)] at edge
      cases edge

theorem admissible_movingSteps : AdmissibleRun movingSteps twoDirectives := by
  refine ⟨trivial, trivial, fun _ => ?_, trivial, trivial, fun _ => ?_, trivial, trivial,
    fun _ _ below => ?_, fun _ => ?_, trivial, ?_, ?_, fun _ => ?_, trivial, trivial, trivial⟩
  · apply Store.MayHold.of_bare <;> decide +kernel
  · apply Store.MayHold.of_bare <;> decide +kernel
  · exact not_atOrBelow_of_unlisted (by decide) (by decide +kernel) below.to_reflTransGen
  · constructor
    · decide +kernel
    · decide +kernel
    · decide +kernel
    · exact not_atOrBelow_of_unlisted (by decide) (by decide +kernel)
  · intro listed
    exact absurd listed (by decide +kernel)
  · -- A comment holds nothing, so the step is refused.
    intro container
    exact absurd container (by decide +kernel)
  · apply Store.MayHold.of_bare <;> decide +kernel

theorem run_keeps_forest_moved :
    AdmissibleRun movingSteps twoDirectives ∧
      (runSteps movingSteps twoDirectives).children 7 = [5, 2, 6, 3, 4] ∧
      (∀ id parent, (runSteps movingSteps twoDirectives).owner id = some (.node parent) ↔
        id ∈ (runSteps movingSteps twoDirectives).children parent) ∧
      (runSteps movingSteps twoDirectives).leavesBelow
        ((runSteps movingSteps twoDirectives).cells.size + 1) 0 = [2, 6, 3, 4] ∧
      (runSteps movingSteps twoDirectives).Exports 0
        ((runSteps movingSteps twoDirectives).objects 0).1
        ((runSteps movingSteps twoDirectives).objects 0).2 := by
  obtain ⟨-, owned, -, exports⟩ := run_keeps_forest _ _ movingSteps admissible_movingSteps
  exact ⟨admissible_movingSteps, by decide +kernel, owned, by decide +kernel, exports 0⟩

end HtmlTemplate.Dom
