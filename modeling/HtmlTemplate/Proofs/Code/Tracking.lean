import HtmlTemplate.Proofs.Code.Depth

/-!
Where the elements of a page come from. A tracked page is a page in which every element has an
origin: the indices on the way from the root of the tree down to the node that it comes from. The
meaning of an outline is tracked by recursion over the outline; without the origins, what is tracked
is the meaning.
-/

namespace HtmlTemplate

open Code

def Node.children : Node → List Node
  | .element _ _ _ children => children
  | .fragment children => children
  | _ => []

/-- The node at the end of a way down a tree. -/
def Node.at? (node : Node) : (way : List Nat) → Option Node
  | [] => some node
  | index :: way => node.children[index]?.bind (·.at? way)

theorem Node.at?_append {root node : Node} {way : List Nat} (found : root.at? way = some node)
    (index : Nat) : root.at? (way ++ [index]) = node.children[index]? := by
  induction way generalizing root with
  | nil =>
    cases found
    simp [Node.at?]
  | cons first way ih =>
    rw [Node.at?, Option.bind_eq_some_iff] at found
    obtain ⟨child, here, found⟩ := found
    rw [List.cons_append, Node.at?, here]
    exact ih found

mutual

/-- The elements of a page, each in front of those inside it. -/
def Value.elements : Value → List Value
  | .vnode tag props children => .vnode tag props children :: children.elements
  | .list items => elementsOf items
  | .tuple items => elementsOf items
  | _ => []
termination_by structural value => value

def Value.elementsOf : List Value → List Value
  | [] => []
  | item :: rest => item.elements ++ elementsOf rest
termination_by structural items => items

end

/-- A page, or a part of one, with the origins of its elements. -/
inductive Tracked where
  | nothing
  | text (value : String)
  | element (origin : List Nat) (tag : String) (props : List (String × Value))
      (children : List Tracked)

namespace Tracked

mutual

def value : Tracked → Value
  | .nothing => .none
  | .text value => .str value
  | .element _ tag props children => .vnode tag props (childrenValue (values children))
termination_by structural item => item

def values : List Tracked → List Value
  | [] => []
  | item :: rest => item.value :: values rest
termination_by structural items => items

end

mutual

/-- The elements of a page with their origins. -/
def elements : Tracked → List Tracked
  | .element origin tag props children => .element origin tag props children :: elementsOf children
  | _ => []
termination_by structural item => item

def elementsOf : List Tracked → List Tracked
  | [] => []
  | item :: rest => item.elements ++ elementsOf rest
termination_by structural items => items

end

def isElement : Tracked → Bool
  | .element .. => true
  | _ => false

def origin : Tracked → List Nat
  | .element origin .. => origin
  | _ => []

def tag : Tracked → String
  | .element _ tag .. => tag
  | _ => ""

def children : Tracked → List Tracked
  | .element _ _ _ children => children
  | _ => []

/-- The elements among the children of an element. -/
def childElements (item : Tracked) : List Tracked := item.children.filter isElement

/-- A whole page, as `pageOf` has it. The element that wraps several values comes from the root. -/
def page (fragmentTag : String) : List Tracked → Tracked
  | [] => .nothing
  | [item] => item
  | items => .element [] fragmentTag [] items

theorem values_append (front back : List Tracked) :
    values (front ++ back) = values front ++ values back := by
  induction front with
  | nil => rfl
  | cons item rest ih => rw [List.cons_append, values, values, ih, List.cons_append]

theorem elementsOf_append (front back : List Tracked) :
    elementsOf (front ++ back) = elementsOf front ++ elementsOf back := by
  induction front with
  | nil => rfl
  | cons item rest ih =>
    rw [List.cons_append, elementsOf, elementsOf, ih, List.append_assoc]

mutual

/-- No element of a page is without an origin. -/
theorem elements_value (item : Tracked) : item.value.elements = item.elements.map value := by
  match item with
  | .nothing => rfl
  | .text value => rfl
  | .element origin tag props children =>
    have inner : (childrenValue (values children)).elements = (elementsOf children).map value := by
      rw [← elementsOf_values children]
      cases children <;> rfl
    rw [value, Value.elements, inner, elements, List.map_cons, value]

theorem elementsOf_values (items : List Tracked) :
    Value.elementsOf (values items) = (elementsOf items).map value := by
  match items with
  | [] => rfl
  | item :: rest =>
    rw [values, Value.elementsOf, elements_value item, elementsOf_values rest, elementsOf,
      List.map_append]

end

theorem value_page (fragmentTag : String) (items : List Tracked) :
    (page fragmentTag items).value = pageOf fragmentTag (values items) := by
  match items with
  | [] => rfl
  | [item] => rfl
  | first :: second :: rest => rfl

theorem mem_elements_self {item : Tracked} (element : item.isElement = true) :
    item ∈ item.elements := by
  cases item with
  | element origin tag props children => exact List.mem_cons_self
  | _ => cases element

theorem mem_elementsOf {items : List Tracked} {item found : Tracked} (member : item ∈ items)
    (inside : found ∈ item.elements) : found ∈ elementsOf items := by
  induction items with
  | nil => cases member
  | cons first rest ih =>
    rw [elementsOf, List.mem_append]
    cases member with
    | head => exact .inl inside
    | tail _ later => exact .inr (ih later)

theorem elementsOf_subset_page (fragmentTag : String) (items : List Tracked) :
    elementsOf items ⊆ (page fragmentTag items).elements := by
  match items with
  | [] => exact List.nil_subset _
  | [item] =>
    rw [elementsOf, elementsOf, List.append_nil]
    exact List.Subset.refl _
  | first :: second :: rest => exact List.subset_cons_self _ _

-- By recursion over the page: what is inside an element of the page is inside the page.
mutual

theorem mem_elements_of_child {item above child : Tracked} (inside : above ∈ item.elements)
    (member : child ∈ above.childElements) : child ∈ item.elements := by
  match item with
  | .nothing => cases inside
  | .text value => cases inside
  | .element origin tag props children =>
    rw [elements, List.mem_cons] at inside ⊢
    right
    rcases inside with rfl | inside
    · obtain ⟨member, element⟩ := List.mem_filter.mp member
      exact mem_elementsOf member (mem_elements_self element)
    · exact mem_elementsOf_of_child inside member

theorem mem_elementsOf_of_child {items : List Tracked} {above child : Tracked}
    (inside : above ∈ elementsOf items) (member : child ∈ above.childElements) :
    child ∈ elementsOf items := by
  match items with
  | [] => cases inside
  | item :: rest =>
    rw [elementsOf, List.mem_append] at inside ⊢
    rcases inside with here | later
    · exact .inl (mem_elements_of_child here member)
    · exact .inr (mem_elementsOf_of_child later member)

end

theorem mem_elements_page {fragmentTag : String} {items : List Tracked} {found : Tracked}
    (inside : found ∈ (page fragmentTag items).elements) :
    found ∈ elementsOf items ∨
      1 < items.length ∧ found = page fragmentTag items ∧
        found = .element [] fragmentTag [] items := by
  match items with
  | [] => cases inside
  | [item] =>
    left
    rw [elementsOf, elementsOf, List.append_nil]
    exact inside
  | first :: second :: rest =>
    rcases List.mem_cons.mp inside with same | inside
    · exact .inr ⟨by simp, same, same⟩
    · exact .inl inside

end Tracked

-- Nothing is tracked in the value of an attribute: there are no elements in it.
mutual

/-- The values that an outline contributes, with their origins. The nodes of the outline stand in a
list of nodes at the end of the way `above`, the first of them at `index`. -/
def Outline.tracked (context : Option Context) (keyed : Bool) (above : List Nat) {place : Place} :
    Outline place → (index : Nat) → Except RunError (List Tracked)
  | .done, _ => .ok []
  | .text value rest, index => do
    let items ← rest.tracked context keyed above (index + 1)
    return .text value :: items
  | .shown term rest, index => do
    let value ← term.value context
    let items ← rest.tracked context keyed above (index + 1)
    return .text value.text :: items
  | .comment _ rest, index => rest.tracked context keyed above (index + 1)
  | .element tag _ attrs children rest, index => do
    let inner ← children.tracked context true (above ++ [index]) 0
    let props ← attrs.meaning context []
    let items ← rest.tracked context keyed above (index + 1)
    return .element (above ++ [index]) tag (keyedProps keyed index props) inner :: items
  | .choice condition body others rest, index => do
    let value ← condition.value context
    let chosen ←
      (if value.truth then body.tracked context keyed above (index + 1)
      else others.tracked context keyed above (index + 1 + body.nodes.length))
    let items ←
      rest.tracked context keyed above
        (index + 1 + body.nodes.length + others.nodes.length + 1)
    return chosen ++ items
termination_by structural outline => outline

def Branches.tracked (context : Option Context) (keyed : Bool) (above : List Nat) {place : Place} :
    Branches place → (index : Nat) → Except RunError (List Tracked)
  | .done, _ => .ok []
  | .otherwise body, index => body.tracked context keyed above (index + 1)
  | .further condition body others, index => do
    let value ← condition.value context
    if value.truth then body.tracked context keyed above (index + 1)
    else others.tracked context keyed above (index + 1 + body.nodes.length)
termination_by structural branches => branches

end

mutual

/-- Without the origins, what is tracked is the meaning. -/
theorem Outline.values_tracked (context : Option Context) {place : Place} (outline : Outline place)
    (keyed : Bool) (above : List Nat) (index : Nat) :
    (outline.tracked context keyed above index).map Tracked.values =
      outline.meaning context keyed index := by
  match outline with
  | .done => rfl
  | .text value rest =>
    rw [Outline.tracked, Outline.meaning, ← rest.values_tracked context keyed above]
    cases rest.tracked context keyed above (index + 1) <;> rfl
  | .shown term rest =>
    rw [Outline.tracked, Outline.meaning, ← rest.values_tracked context keyed above]
    cases term.value context
    · rfl
    · cases rest.tracked context keyed above (index + 1) <;> rfl
  | .comment text rest => exact rest.values_tracked context keyed above (index + 1)
  | .element tag ns attrs children rest =>
    rw [Outline.tracked, Outline.meaning, ← rest.values_tracked context keyed above,
      ← children.values_tracked context true (above ++ [index])]
    cases children.tracked context true (above ++ [index]) 0
    · rfl
    · cases attrs.meaning context []
      · rfl
      · cases rest.tracked context keyed above (index + 1) <;> rfl
  | .choice condition body others rest =>
    rw [Outline.tracked, Outline.meaning, ← rest.values_tracked context keyed above,
      ← body.values_tracked context keyed above, ← others.values_tracked context keyed above]
    cases condition.value context with
    | error e => rfl
    | ok value =>
      simp only [ok_bind, ← apply_ite]
      generalize (if value.truth then _ else _ : Except RunError (List Tracked)) = chosen
      generalize rest.tracked context keyed above _ = later
      cases chosen with
      | error e => rfl
      | ok chosen =>
        cases later with
        | error e => rfl
        | ok later => exact congrArg Except.ok (Tracked.values_append chosen later)

theorem Branches.values_tracked (context : Option Context) {place : Place}
    (branches : Branches place) (keyed : Bool) (above : List Nat) (index : Nat) :
    (branches.tracked context keyed above index).map Tracked.values =
      branches.meaning context keyed index := by
  match branches with
  | .done => rfl
  | .otherwise body => exact body.values_tracked context keyed above (index + 1)
  | .further condition body others =>
    rw [Branches.tracked, Branches.meaning, ← body.values_tracked context keyed above,
      ← others.values_tracked context keyed above]
    cases condition.value context with
    | error e => rfl
    | ok value =>
      simp only [ok_bind, ← apply_ite]

end

/-- The tracked page of an outline. -/
def Outline.trackedPage (fragmentTag : String) (context : Option Context)
    (outline : Outline .content) : Except RunError Tracked :=
  (outline.tracked context (1 < outline.nodes.length) [] 0).map (Tracked.page fragmentTag)

theorem Outline.exists_of_trackedPage {fragmentTag : String} {context : Option Context}
    {outline : Outline .content} {page : Tracked}
    (tracked : outline.trackedPage fragmentTag context = .ok page) :
    ∃ items, outline.tracked context (1 < outline.nodes.length) [] 0 = .ok items ∧
      page = Tracked.page fragmentTag items := by
  rw [Outline.trackedPage] at tracked
  cases run : outline.tracked context (1 < outline.nodes.length) [] 0 with
  | error e =>
    rw [run] at tracked
    cases tracked
  | ok items =>
    rw [run] at tracked
    exact ⟨items, rfl, (Except.ok.inj tracked).symm⟩

theorem Outline.value_trackedPage (fragmentTag : String) (context : Option Context)
    (outline : Outline .content) :
    (outline.trackedPage fragmentTag context).map Tracked.value =
      outline.page fragmentTag context := by
  rw [Outline.trackedPage, Outline.page, ← outline.values_tracked context _ []]
  cases outline.tracked context (1 < outline.nodes.length) [] 0 with
  | error e => rfl
  | ok items => exact congrArg Except.ok (Tracked.value_page fragmentTag items)

/-- An element that a node of the tree gives: its properties are what the attributes of the node
mean, perhaps with a key, and its children are those of the children of the node. -/
inductive Tracked.ComesFrom (context : Option Context) : Node → Tracked → Prop where
  | element {tag : String} {ns : Option String} {attrs : AttrOutline} {inner : Outline .content}
      {origin : List Nat} {own : List (String × Value)} {children : List Tracked} (keyed : Bool)
      (index : Nat) (named : attrs.meaning context [] = .ok own)
      (filled : inner.tracked context true origin 0 = .ok children) :
      ComesFrom context (.element tag ns attrs.attrs inner.nodes)
        (.element origin tag (keyedProps keyed index own) children)

/-- Nodes that stand in a list of siblings, the first of them at `index`. -/
def StandsAt (siblings : List Node) (index : Nat) (nodes : List Node) : Prop :=
  nodes <+: siblings.drop index

theorem StandsAt.all (siblings : List Node) : StandsAt siblings 0 siblings :=
  List.prefix_refl siblings

theorem StandsAt.cons {siblings nodes : List Node} {index : Nat} {node : Node}
    (stands : StandsAt siblings index (node :: nodes)) :
    siblings[index]? = some node ∧ StandsAt siblings (index + 1) nodes := by
  obtain ⟨back, same⟩ := stands
  constructor
  · rw [← List.head?_drop, ← same]
    rfl
  · rw [StandsAt, ← List.tail_drop, ← same]
    exact ⟨back, rfl⟩

theorem StandsAt.append {siblings front back : List Node} {index : Nat}
    (stands : StandsAt siblings index (front ++ back)) :
    StandsAt siblings index front ∧ StandsAt siblings (index + front.length) back := by
  obtain ⟨rest, same⟩ := stands
  constructor
  · exact ⟨back ++ rest, by rw [← same, List.append_assoc]⟩
  · rw [StandsAt, ← List.drop_drop, ← same, List.append_assoc, List.drop_left]
    exact ⟨rest, rfl⟩

-- The way to a list of siblings leads to their parent, and one index further to each of them.
mutual

/-- Every element that is tracked comes from the node at its origin. -/
theorem Outline.comesFrom {context : Option Context} {root parent : Node} {place : Place}
    (outline : Outline place) {keyed : Bool} {above : List Nat} {index : Nat}
    {items : List Tracked} (found : root.at? above = some parent)
    (stands : StandsAt parent.children index outline.nodes)
    (tracked : outline.tracked context keyed above index = .ok items) :
    ∀ element ∈ Tracked.elementsOf items,
      ∃ node, root.at? element.origin = some node ∧ element.ComesFrom context node := by
  match outline with
  | .done =>
    cases tracked
    exact List.forall_mem_nil _
  | .text value rest =>
    obtain ⟨later, behind, same⟩ := exists_of_bind tracked
    cases same
    -- Text has no elements in it.
    have fromRest := rest.comesFrom found stands.cons.2 behind
    exact fromRest
  | .shown term rest =>
    obtain ⟨value, -, tracked⟩ := exists_of_bind tracked
    obtain ⟨later, behind, same⟩ := exists_of_bind tracked
    cases same
    have fromRest := rest.comesFrom found stands.cons.2 behind
    exact fromRest
  | .comment text rest => exact rest.comesFrom found stands.cons.2 tracked
  | .element tag ns attrs children rest =>
    obtain ⟨inner, filled, tracked⟩ := exists_of_bind tracked
    obtain ⟨own, named, tracked⟩ := exists_of_bind tracked
    obtain ⟨later, behind, same⟩ := exists_of_bind tracked
    cases same
    obtain ⟨here, stands⟩ := stands.cons
    -- The element is found one index further than its parent, and its children below it.
    have foundHere := (Node.at?_append found index).trans here
    simp only [Tracked.elementsOf, Tracked.elements, List.cons_append]
    refine List.forall_mem_cons.mpr ⟨⟨_, foundHere, .element keyed index named filled⟩,
      List.forall_mem_append.mpr ⟨?_, rest.comesFrom found stands behind⟩⟩
    exact children.comesFrom foundHere (.all _) filled
  | .choice condition body others rest =>
    obtain ⟨value, -, tracked⟩ := exists_of_bind tracked
    obtain ⟨chosen, branch, tracked⟩ := exists_of_bind tracked
    obtain ⟨later, behind, same⟩ := exists_of_bind tracked
    cases same
    -- The nodes of a block stand among its siblings: the tags that open and close it take a place.
    obtain ⟨-, stands⟩ := stands.cons
    obtain ⟨standsBody, stands⟩ := stands.append
    obtain ⟨standsOthers, stands⟩ := stands.append
    rw [Tracked.elementsOf_append]
    refine List.forall_mem_append.mpr ⟨?_, rest.comesFrom found stands.cons.2 behind⟩
    split at branch
    · exact body.comesFrom found standsBody branch
    · exact others.comesFrom found standsOthers branch

theorem Branches.comesFrom {context : Option Context} {root parent : Node} {place : Place}
    (branches : Branches place) {keyed : Bool} {above : List Nat} {index : Nat}
    {items : List Tracked} (found : root.at? above = some parent)
    (stands : StandsAt parent.children index branches.nodes)
    (tracked : branches.tracked context keyed above index = .ok items) :
    ∀ element ∈ Tracked.elementsOf items,
      ∃ node, root.at? element.origin = some node ∧ element.ComesFrom context node := by
  match branches with
  | .done =>
    cases tracked
    exact List.forall_mem_nil _
  | .otherwise body => exact body.comesFrom found stands.cons.2 tracked
  | .further condition body others =>
    obtain ⟨value, -, tracked⟩ := exists_of_bind tracked
    obtain ⟨-, stands⟩ := stands.cons
    obtain ⟨standsBody, standsOthers⟩ := stands.append
    split at tracked
    · exact body.comesFrom found standsBody tracked
    · exact others.comesFrom found standsOthers tracked

end

/-- Where an element of a page comes from: it wraps the values of the page, or there is a node at its
origin that gives it. -/
theorem Outline.origin_cases {fragmentTag : String} {context : Option Context}
    {outline : Outline .content} {page element : Tracked}
    (tracked : outline.trackedPage fragmentTag context = .ok page)
    (inside : element ∈ page.elements) :
    (∃ items, outline.tracked context (1 < outline.nodes.length) [] 0 = .ok items ∧
      1 < items.length ∧ element = page ∧ element = .element [] fragmentTag [] items) ∨
    ∃ node, outline.root.at? element.origin = some node ∧ element.ComesFrom context node := by
  obtain ⟨items, run, rfl⟩ := Outline.exists_of_trackedPage tracked
  rcases Tracked.mem_elements_page inside with inside | wraps
  · have atRoot : outline.root.at? [] = some outline.root := rfl
    exact .inr (outline.comesFrom atRoot (.all outline.nodes) run element inside)
  · exact .inl ⟨items, run, wraps⟩

/-- Every page that the code of an outline renders is the tracked page without the origins. -/
theorem exists_trackedPage {fragmentTag code : String} {outline : Outline .content}
    {routine : Routine} (compiled : compile fragmentTag outline.root = .ok code)
    (loaded : load code = .ok routine) {context : Option Context} {value : Value}
    (rendered : routine.run context = .ok value) :
    ∃ page, outline.trackedPage fragmentTag context = .ok page ∧ page.value = value := by
  rw [run_of_load compiled loaded, ← outline.value_trackedPage] at rendered
  cases tracked : outline.trackedPage fragmentTag context with
  | error e =>
    rw [tracked] at rendered
    cases rendered
  | ok page =>
    rw [tracked] at rendered
    exact ⟨page, rfl, Except.ok.inj rendered⟩

end HtmlTemplate
