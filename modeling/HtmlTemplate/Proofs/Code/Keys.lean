import HtmlTemplate.Proofs.Code.Tracking
import Mathlib.Data.List.Nodup

/-!
Keys. Where siblings have keys, the key of an element is the index of the node that it comes from
among the nodes of the tree, whatever key its own attributes give it. Branches that are left out
leave gaps between the keys, so that an element has the same key on every page that it is on.
-/

namespace HtmlTemplate.Decimal

theorem writeInt_natCast_injective {m n : Nat} (same : writeInt m = writeInt n) : m = n := by
  have digits (k : Nat) : writeInt k = String.ofList (Nat.toDigits 10 k) := by
    rw [writeInt, if_neg (by omega), Int.natAbs_natCast]
  rw [digits, digits, String.ofList_inj] at same
  rw [← ofDigits_toDigits m, same, ofDigits_toDigits]

end HtmlTemplate.Decimal

namespace HtmlTemplate

open Code

theorem Value.lookup?_assign (name : String) (value : Value) (entries : List (String × Value)) :
    lookup? name (assign name value entries) = some value := by
  induction entries with
  | nil => simp [assign, lookup?]
  | cons entry rest ih =>
    rw [assign]
    split
    next same => simp [lookup?, same]
    next other =>
      rw [← ih, lookup?, lookup?, List.find?_cons, Bool.eq_false_of_not_eq_true other]

namespace Tracked

/-- The key of an element, by which it is told from its siblings. -/
def key (item : Tracked) : Value := item.value.key

/-- An element that comes from the node at `index` at the end of a way, and has this as its key if
the elements there have keys. -/
def HasIndex (keyed : Bool) (above : List Nat) (index : Nat) (item : Tracked) : Prop :=
  item.origin = above ++ [index] ∧ (keyed = true → item.key = .str (Decimal.writeInt index))

/-- Siblings that come from nodes between two indices, at most one from each of them, and in the
order of the nodes. -/
structure Indexed (keyed : Bool) (above : List Nat) (low high : Nat) (items : List Tracked) :
    Prop where
  short : low + items.length ≤ high
  indices : ∃ indices : List Nat, indices.Pairwise (· < ·) ∧ (∀ i ∈ indices, low ≤ i ∧ i < high) ∧
    List.Forall₂ (HasIndex keyed above) indices (items.filter isElement)

namespace Indexed

variable {keyed : Bool} {above : List Nat} {low middle high : Nat} {items more : List Tracked}

theorem nothing (within : low ≤ high) : Indexed keyed above low high [] where
  short := by simpa using within
  indices := ⟨[], .nil, by simp, .nil⟩

theorem widen {bottom top : Nat} (indexed : Indexed keyed above low high items)
    (lower : bottom ≤ low) (higher : high ≤ top) : Indexed keyed above bottom top items where
  short := by
    have := indexed.short
    omega
  indices := by
    obtain ⟨indices, increasing, range, each⟩ := indexed.indices
    refine ⟨indices, increasing, fun i member => ?_, each⟩
    have := range i member
    omega

/-- What comes from nodes further on stands further on. -/
theorem append (first : Indexed keyed above low middle items)
    (second : Indexed keyed above middle high more) :
    Indexed keyed above low high (items ++ more) where
  short := by
    have := first.short
    have := second.short
    rw [List.length_append]
    omega
  indices := by
    obtain ⟨front, increasing, range, each⟩ := first.indices
    obtain ⟨back, increasing', range', each'⟩ := second.indices
    have size := first.short
    have size' := second.short
    refine ⟨front ++ back, List.pairwise_append.mpr ⟨increasing, increasing', ?_⟩,
      List.forall_mem_append.mpr ⟨?_, ?_⟩, ?_⟩
    · -- The first indices end where the second ones begin.
      intro i early j late
      exact (range i early).2.trans_le (range' j late).1
    · intro i member
      have := range i member
      omega
    · intro i member
      have := range' i member
      omega
    · rw [List.filter_append]
      exact List.rel_append each each'

theorem text (value : String) : Indexed keyed above low (low + 1) [.text value] where
  short := le_rfl
  indices := ⟨[], .nil, by simp, .nil⟩

theorem element (tag : String) (own : List (String × Value)) (children : List Tracked) :
    Indexed keyed above low (low + 1)
      [.element (above ++ [low]) tag (keyedProps keyed low own) children] where
  short := le_rfl
  indices := by
    refine ⟨[low], List.pairwise_singleton _ low, by simp, .cons ⟨rfl, fun withKeys => ?_⟩ .nil⟩
    rw [key, value, Value.key, keyedProps, if_pos withKeys, Value.lookup?_assign]
    rfl

end Indexed

end Tracked

mutual

/-- What an outline contributes comes from its nodes, in their order. -/
theorem Outline.indexed {context : Option Context} {keyed : Bool} {above : List Nat}
    {place : Place} (outline : Outline place) {index : Nat} {items : List Tracked}
    (tracked : outline.tracked context keyed above index = .ok items) :
    Tracked.Indexed keyed above index (index + outline.nodes.length) items := by
  match outline with
  | .done =>
    cases tracked
    exact .nothing le_rfl
  | .text value rest =>
    obtain ⟨later, behind, same⟩ := exists_of_bind tracked
    cases same
    have rest := rest.indexed behind
    rw [Nat.add_right_comm] at rest
    exact (Tracked.Indexed.text value).append rest
  | .shown term rest =>
    obtain ⟨value, -, tracked⟩ := exists_of_bind tracked
    obtain ⟨later, behind, same⟩ := exists_of_bind tracked
    cases same
    have rest := rest.indexed behind
    rw [Nat.add_right_comm] at rest
    exact (Tracked.Indexed.text value.text).append rest
  | .comment text rest =>
    have rest := rest.indexed tracked
    rw [Nat.add_right_comm] at rest
    -- A comment gives nothing and still takes an index.
    exact rest.widen (Nat.le_succ index) le_rfl
  | .element tag ns attrs children rest =>
    obtain ⟨inner, -, tracked⟩ := exists_of_bind tracked
    obtain ⟨own, -, tracked⟩ := exists_of_bind tracked
    obtain ⟨later, behind, same⟩ := exists_of_bind tracked
    cases same
    have rest := rest.indexed behind
    rw [Nat.add_right_comm] at rest
    exact (Tracked.Indexed.element tag own inner).append rest
  | .choice condition body others rest =>
    obtain ⟨value, -, tracked⟩ := exists_of_bind tracked
    obtain ⟨chosen, branch, tracked⟩ := exists_of_bind tracked
    obtain ⟨later, behind, same⟩ := exists_of_bind tracked
    cases same
    have size : (Outline.choice condition body others rest).nodes.length =
        body.nodes.length + others.nodes.length + rest.nodes.length + 2 := by
      simp only [Outline.nodes, List.length_cons, List.length_append]
      omega
    -- Whichever branch is taken, its indices lie between the tags that open and close the block.
    have inBlock : Tracked.Indexed keyed above index
        (index + 1 + body.nodes.length + others.nodes.length + 1) chosen := by
      split at branch
      · exact (body.indexed branch).widen (by omega) (by omega)
      · exact (others.indexed branch).widen (by omega) (by omega)
    exact (inBlock.append (rest.indexed behind)).widen le_rfl (by omega)

theorem Branches.indexed {context : Option Context} {keyed : Bool} {above : List Nat}
    {place : Place} (branches : Branches place) {index : Nat} {items : List Tracked}
    (tracked : branches.tracked context keyed above index = .ok items) :
    Tracked.Indexed keyed above index (index + branches.nodes.length) items := by
  match branches with
  | .done =>
    cases tracked
    exact .nothing le_rfl
  | .otherwise body =>
    have body := body.indexed tracked
    rw [Nat.add_right_comm] at body
    exact body.widen (Nat.le_succ index) le_rfl
  | .further condition body others =>
    obtain ⟨value, -, tracked⟩ := exists_of_bind tracked
    have size : (Branches.further condition body others).nodes.length =
        body.nodes.length + others.nodes.length + 1 := by
      simp only [Branches.nodes, List.length_cons, List.length_append]
    split at tracked
    · exact (body.indexed tracked).widen (by omega) (by omega)
    · exact (others.indexed tracked).widen (by omega) (by omega)

end

namespace Tracked

/-- The child elements of an element come from nodes below the node that it comes from, in their
order, and their keys are the indices of these nodes. -/
def KeysFollow (item : Tracked) : Prop :=
  ∃ indices : List Nat, indices.Pairwise (· < ·) ∧
    List.Forall₂ (fun index child => child.origin = item.origin ++ [index] ∧
      child.key = .str (Decimal.writeInt index)) indices item.childElements

theorem KeysFollow.of_indexed {origin : List Nat} {tag : String} {props : List (String × Value)}
    {low high : Nat} {children : List Tracked}
    (indexed : Indexed true origin low high children) :
    (element origin tag props children).KeysFollow := by
  obtain ⟨indices, increasing, -, each⟩ := indexed.indices
  exact ⟨indices, increasing, each.imp fun _ _ has => ⟨has.1, has.2 rfl⟩⟩

theorem ComesFrom.keysFollow {context : Option Context} {node : Node} {item : Tracked}
    (comes : item.ComesFrom context node) : item.KeysFollow := by
  cases comes with
  | element keyed index named filled => exact .of_indexed (Outline.indexed _ filled)

theorem KeysFollow.exists_index {item child : Tracked} (follow : item.KeysFollow)
    (member : child ∈ item.childElements) :
    ∃ index : Nat, child.origin = item.origin ++ [index] ∧
      child.key = .str (Decimal.writeInt index) := by
  obtain ⟨indices, -, each⟩ := follow
  generalize item.childElements = children at member each
  induction each with
  | nil => cases member
  | cons has rest ih =>
    cases member with
    | head => exact ⟨_, has⟩
    | tail _ later => exact ih later

/-- Indices that increase are never the same, and neither are their keys. -/
theorem KeysFollow.nodup_keys {item : Tracked} (follow : item.KeysFollow) :
    (item.childElements.map key).Nodup := by
  obtain ⟨indices, increasing, each⟩ := follow
  have keys : item.childElements.map key =
      indices.map fun index : Nat => Value.str (Decimal.writeInt index) := by
    generalize item.childElements = children at each
    induction each with
    | nil => rfl
    | cons has rest ih => rw [List.map_cons, List.map_cons, has.2, ih increasing.of_cons]
  rw [keys]
  refine List.Nodup.map (fun m n same => ?_) (increasing.imp Nat.ne_of_lt)
  injection same with same
  exact Decimal.writeInt_natCast_injective same

end Tracked

/-- The keys of the child elements of every element of a page follow the nodes. -/
theorem Outline.keysFollow {fragmentTag : String} {context : Option Context}
    {outline : Outline .content} {page element : Tracked}
    (tracked : outline.trackedPage fragmentTag context = .ok page)
    (inside : element ∈ page.elements) : element.KeysFollow := by
  rcases Outline.origin_cases tracked inside with ⟨items, run, several, -, rfl⟩ | ⟨node, -, comes⟩
  · -- A page with several values has several nodes, so its elements have keys.
    have indexed := outline.indexed run
    have keyed : decide (1 < outline.nodes.length) = true := by
      have := indexed.short
      exact decide_eq_true (by omega)
    rw [keyed] at indexed
    exact .of_indexed indexed
  · exact comes.keysFollow

/-- A child element comes from a node of its own tag. -/
theorem Outline.exists_node_of_child {fragmentTag : String} {context : Option Context}
    {outline : Outline .content} {page above child : Tracked}
    (tracked : outline.trackedPage fragmentTag context = .ok page)
    (inside : above ∈ page.elements) (member : child ∈ above.childElements) :
    ∃ ns attrs children,
      outline.root.at? child.origin = some (.element child.tag ns attrs children) := by
  obtain ⟨index, origin, -⟩ := (Outline.keysFollow tracked inside).exists_index member
  rcases Outline.origin_cases tracked (Tracked.mem_elements_of_child inside member) with
    ⟨items, -, -, -, rfl⟩ | ⟨node, found, comes⟩
  · exact absurd origin (by simp [Tracked.origin])
  · cases comes
    exact ⟨_, _, _, found⟩

/-- On every page that the code of an outline renders, the keys of sibling elements are the indices
of the nodes that they come from, strictly increasing. On two pages, elements with the same key
under elements that come from the same node come from the same node themselves. -/
theorem keys_follow_template {fragmentTag code : String} {outline : Outline .content}
    {routine : Routine} (compiled : compile fragmentTag outline.root = .ok code)
    (loaded : load code = .ok routine) :
    (∀ context value, routine.run context = .ok value →
      ∃ page, outline.trackedPage fragmentTag context = .ok page ∧ page.value = value ∧
        value.elements = page.elements.map Tracked.value ∧
        ∀ element ∈ page.elements,
          ((element.origin = [] ∧ element.tag = fragmentTag ∧ element = page) ∨
            ∃ node, outline.root.at? element.origin = some node ∧
              element.ComesFrom context node) ∧
          element.KeysFollow ∧ (element.childElements.map Tracked.key).Nodup) ∧
    ∀ context context' page page', outline.trackedPage fragmentTag context = .ok page →
      outline.trackedPage fragmentTag context' = .ok page' →
      ∀ above ∈ page.elements, ∀ above' ∈ page'.elements, above.origin = above'.origin →
        ∀ child ∈ above.childElements, ∀ child' ∈ above'.childElements, child.key = child'.key →
          child.origin = child'.origin ∧ child.tag = child'.tag := by
  constructor
  · intro context value rendered
    obtain ⟨page, tracked, rfl⟩ := exists_trackedPage compiled loaded rendered
    refine ⟨page, tracked, rfl, page.elements_value, fun element inside => ?_⟩
    have follow := Outline.keysFollow tracked inside
    refine ⟨?_, follow, follow.nodup_keys⟩
    rcases Outline.origin_cases tracked inside with ⟨items, -, -, same, wraps⟩ | origin
    · left
      rw [wraps]
      exact ⟨rfl, rfl, wraps ▸ same⟩
    · exact .inr origin
  · intro context context' page page' tracked tracked' above inside above' inside' same child member
      child' member' keys
    -- The keys are written indices, so equal keys are equal indices below the same node.
    obtain ⟨index, origin, key⟩ := (Outline.keysFollow tracked inside).exists_index member
    obtain ⟨index', origin', key'⟩ := (Outline.keysFollow tracked' inside').exists_index member'
    rw [key, key', Value.str.injEq] at keys
    have equal := Decimal.writeInt_natCast_injective keys
    have origins : child.origin = child'.origin := by rw [origin, origin', same, equal]
    obtain ⟨_, _, _, found⟩ := Outline.exists_node_of_child tracked inside member
    obtain ⟨_, _, _, found'⟩ := Outline.exists_node_of_child tracked' inside' member'
    rw [origins, found'] at found
    injection found with sameNode
    injection sameNode with sameTag
    exact ⟨origins, sameTag.symm⟩

/-- A list whose first entry is there only while it is open, with keys of its own. -/
def roster : Outline .content :=
  .comment "entries"
    (.choice (.lookup "open") (.element "p" none (.plain "key" "0" .done) .done .done)
      (.otherwise (.text "closed" .done))
      (.element "ul" none (.plain "key" "p" .done) (.text "-" (.element "li" none .done .done .done))
        .done))

theorem keys_follow_roster : ∃ code routine page page',
    compile "div" roster.root = .ok code ∧ load code = .ok routine ∧
    roster.trackedPage "div" (some [("open", .bool true)]) = .ok page ∧
    roster.trackedPage "div" (some [("open", .bool false)]) = .ok page' ∧
    routine.run (some [("open", .bool true)]) = .ok page.value ∧
    routine.run (some [("open", .bool false)]) = .ok page'.value ∧
    page.childElements.map Tracked.key = [.str "2", .str "6"] ∧
    page'.childElements.map Tracked.key = [.str "6"] ∧
    (∀ element ∈ page.elements, element.KeysFollow) ∧
    ∀ child ∈ page.childElements, ∀ child' ∈ page'.childElements, child.key = child'.key →
      child.origin = child'.origin ∧ child.tag = child'.tag := by
  obtain ⟨code, routine, compiled, loaded⟩ :=
    exists_routine "div" (show roster.depth ≤ 98 by decide)
  have renders {context : Option Context} {page : Tracked}
      (tracked : roster.trackedPage "div" context = .ok page) :
      routine.run context = .ok page.value := by
    rw [run_of_load compiled loaded, ← roster.value_trackedPage, tracked]
    rfl
  obtain ⟨follow, stable⟩ := keys_follow_template compiled loaded
  obtain ⟨page, tracked, -, -, keys⟩ := follow (some [("open", .bool true)]) _ (renders rfl)
  cases tracked
  exact ⟨code, routine, _, _, compiled, loaded, rfl, rfl, renders rfl, renders rfl, rfl, rfl,
    fun element inside => (keys element inside).2.1,
    stable (some [("open", .bool true)]) (some [("open", .bool false)]) _ _ rfl rfl
      _ (Tracked.mem_elements_self rfl) _ (Tracked.mem_elements_self rfl) rfl⟩

end HtmlTemplate
