import HtmlTemplate.Dom.Export
import HtmlTemplate.Proofs.Code.Comments
import HtmlTemplate.Proofs.Code.Tracking
import HtmlTemplate.Proofs.Dom.Expansion
import Mathlib.Data.List.Nodup

/-!
Attributes without directives. On the way from the parser to the markup an attribute is adapted,
exported, compiled, assigned to an element and shown again, and twice it may change its name. If no
two names are the same and none is one that properties have, all of them arrive, in their order and
with their values.
-/

namespace HtmlTemplate

open Code

/-- Assigns values to names, one after the other. -/
def assignAll {α β : Type} [BEq α] (entries pairs : List (α × β)) : List (α × β) :=
  pairs.foldl (fun entries pair => assign pair.1 pair.2 entries) entries

/-- Names that are all different keep the order in which they are assigned to. -/
theorem assignAll_of_nodup {α β : Type} [BEq α] [LawfulBEq α] {entries pairs : List (α × β)}
    (distinct : ((entries ++ pairs).map (·.1)).Nodup) :
    assignAll entries pairs = entries ++ pairs := by
  induction pairs generalizing entries with
  | nil => exact (List.append_nil entries).symm
  | cons pair rest ih =>
    have new : pair.1 ∉ entries.map (·.1) := by
      rw [List.map_append, List.map_cons] at distinct
      intro known
      exact (List.nodup_append.mp distinct).2.2 _ known _ List.mem_cons_self rfl
    rw [← List.singleton_append, ← List.append_assoc] at distinct
    rw [assignAll, List.foldl_cons, Dom.assign_of_notMem _ new]
    exact (ih distinct).trans (List.append_assoc ..)

namespace Dom

variable {s : Store}

/-- The text of an attribute without a placeholder: its value, or the name of a boolean attribute
that has none. -/
def staticText (booleans : List String) (name value : String) : String :=
  if value.isEmpty && isBoolean booleans name then name else value

theorem adaptValue_static {text : String}
    (static : Text.occursIn s.setup.sentinel text.toList = false) (name : String) :
    adaptValue name (.plain text) s = .ok (.plain (staticText s.setup.booleans name text)) s := by
  rw [adaptValue, get_bind, static, staticText]
  split
  next impossible => cases impossible
  · split <;> rfl

/-- Attributes with the names under which they are kept. -/
def flat (raw : List (AttrName × String)) : List (String × String) :=
  raw.map fun attr => (attr.1.flatten, attr.2)

/-- Attributes without placeholders are adapted one by one, and the store stays as it is. -/
theorem adaptAttributes_static {raw : List (AttrName × String)}
    (static : ∀ attr ∈ raw, Text.occursIn s.setup.sentinel attr.2.toList = false) :
    adaptAttributes (raw.map fun attr => (attr.1, .plain attr.2)) s =
      .ok (assignAll [] (raw.map fun attr => (attr.1.flatten,
        .plain (staticText s.setup.booleans attr.1.flatten attr.2)))) s := by
  have go (adapted : Attrs) :
      adaptAttributes.go adapted (raw.map fun attr => (attr.1, .plain attr.2)) s =
        .ok (assignAll adapted (raw.map fun attr => (attr.1.flatten,
          .plain (staticText s.setup.booleans attr.1.flatten attr.2)))) s := by
    induction raw generalizing adapted with
    | nil => rfl
    | cons attr rest ih =>
      obtain ⟨here, later⟩ := List.forall_mem_cons.mp static
      exact (bind_ok (adaptValue_static here attr.1.flatten) _).trans (ih later _)
  exact go []

end Dom

/-- What an attribute is shown as: a boolean one has no value. -/
def shownAttr (attr : String × String) : String × String :=
  (attr.1, if Dom.isBoolean booleanAttributes attr.1 then "" else attr.2)

/-- Markup that starts with a tag whose attributes are some given ones. Each is there under its name
and in its place. A boolean attribute has no value; the value of any other is quoted, and decoded it
is the one that was given. If the names are such as can be read, this is what is read. -/
structure ShowsAttributes (tag : String) (attrs : List (String × String)) (markup : List Char) :
    Prop where
  starts : ∃ (shown : List (String × List Char)) (rest : List Char),
    markup = '<' :: (tag.toList ++ (shown.flatMap (fun attr =>
      ' ' :: (attr.1.toList ++ '=' :: '"' :: (attr.2 ++ ['"']))) ++ '>' :: rest)) ∧
    List.Forall₂ (fun given attr => attr.1 = given.1 ∧ '"' ∉ attr.2 ∧
      if Dom.isBoolean booleanAttributes given.1 then attr.2 = []
      else Markup.decodeFrom 0 attr.2 = given.2.toList) attrs shown
  reads : Markup.isName tag = true → (∀ attr ∈ attrs, Markup.isName attr.1 = true) →
    ∃ rest, Markup.readTag? markup = some (.start tag (attrs.map shownAttr), rest)

theorem quote_notMem_escaped (value : List Char) : '"' ∉ value.flatMap Markup.escapeAttr := by
  intro member
  obtain ⟨c, -, written⟩ := List.mem_flatMap.mp member
  exact Markup.quote_notMem_escapeAttr c written

/-- An element shows the attributes that its properties are shown as. -/
theorem ShowsAttributes.of_shownProps {props : List (String × Value)}
    {attrs : List (String × String)}
    (shown : props.filterMap Markup.shownProp = attrs.map shownAttr) (tag : String)
    (children : Value) :
    ShowsAttributes tag attrs (Markup.render (.vnode tag props children)).toList := by
  obtain ⟨rest, text⟩ : ∃ rest, (Markup.render (.vnode tag props children)).toList =
      '<' :: (tag.toList ++ ((attrs.map shownAttr).flatMap Markup.attrText ++ '>' :: rest)) := by
    rw [← shown, Markup.render]
    split
    · exact ⟨[], by simp [Markup.toList_renderProps]⟩
    · exact ⟨(Markup.render children ++ "</" ++ tag ++ ">").toList,
        by simp [Markup.toList_renderProps]⟩
  constructor
  · -- A value is written escaped, which leaves no quote in it and can be undone.
    have written : Markup.attrText = fun attr : String × String =>
        ' ' :: (attr.1.toList ++ '=' :: '"' :: (attr.2.toList.flatMap Markup.escapeAttr ++ ['"'])) :=
      rfl
    refine ⟨(attrs.map shownAttr).map fun attr =>
      (attr.1, attr.2.toList.flatMap Markup.escapeAttr), rest, ?_, ?_⟩
    · simp only [text, written, List.flatMap_map]
    · rw [List.map_map, List.forall₂_map_right_iff, List.forall₂_same]
      intro attr member
      simp only [Function.comp, shownAttr, true_and]
      refine ⟨quote_notMem_escaped _, ?_⟩
      split
      · rfl
      · exact Markup.decodeFrom_escape attr.2.toList
  · intro named attrsNamed
    refine ⟨rest, ?_⟩
    rw [text]
    apply Markup.readTag?_start named
    rw [List.forall_mem_map]
    exact attrsNamed

/-- Names of attributes that are not the names of other properties. -/
def isFree (name : String) : Bool := !(["key", "className", "htmlFor"].contains name)

/-- A property is shown under the name of its attribute. -/
theorem attributeName_propName {name : String} (free : isFree name = true) :
    Markup.attributeName (propName name) = name := by
  have known : name ≠ "key" ∧ name ≠ "className" ∧ name ≠ "htmlFor" := by
    simpa [isFree] using free
  by_cases isClass : name = "class"
  · subst isClass
    decide
  by_cases isFor : name = "for"
  · subst isFor
    decide
  simp [propName, Markup.attributeName, isClass, isFor, known]

theorem propName_ne_key {name : String} (free : isFree name = true) : propName name ≠ "key" := by
  intro same
  have shown := attributeName_propName free
  rw [same] at shown
  have isKey : name = "key" := shown.symm
  rw [isKey] at free
  exact absurd free (by decide)

/-- A boolean attribute has a text that is true, whatever its value. -/
theorem truth_staticText {name : String}
    (boolean : Dom.isBoolean booleanAttributes name = true) (value : String) :
    (Value.str (Dom.staticText booleanAttributes name value)).truth = true := by
  have named : name ≠ "" := by
    rintro rfl
    exact absurd boolean (by decide)
  rw [Dom.staticText, boolean, Bool.and_true, Value.truth]
  split
  next empty => simpa using named
  next some => simpa using some

/-- The property of an attribute is shown as the attribute. -/
theorem shownProp_static {name : String} (free : isFree name = true) (value : String) :
    Markup.shownProp (propName name, .str (Dom.staticText booleanAttributes name value)) =
      some (shownAttr (name, value)) := by
  have same := attributeName_propName free
  rw [Markup.shownProp, if_neg (propName_ne_key free), same, shownAttr]
  show (if Dom.isBoolean booleanAttributes name = true then _ else _) = _
  split
  next boolean => rw [if_pos (truth_staticText boolean value)]
  next other =>
    rw [Dom.staticText, Bool.eq_false_of_not_eq_true other, Bool.and_false]
    rfl

/-- Plain attributes mean a property each. -/
theorem AttrOutline.meaning_plain {attrs : AttrOutline} {pairs : List (String × String)}
    (plain : attrs.attrs = pairs.map fun pair => .plain pair.1 pair.2) (context : Option Context)
    (props : List (String × Value)) :
    attrs.meaning context props =
      .ok (assignAll props (pairs.map fun pair => (propName pair.1, .str pair.2))) := by
  induction pairs generalizing attrs props with
  | nil =>
    cases attrs with
    | done => rfl
    | plain name value rest => cases plain
    | parts name value rest => cases plain
  | cons pair pairs ih =>
    cases attrs with
    | done => cases plain
    | parts name value rest =>
      rw [AttrOutline.attrs, List.map_cons] at plain
      injection plain with first
      cases first
    | plain name value rest =>
      rw [AttrOutline.attrs, List.map_cons] at plain
      injection plain with first later
      injection first with sameName sameValue
      subst sameName sameValue
      exact ih later _

/-- Attributes whose names differ and are not those of other properties. -/
structure Unmixed (attrs : List (String × String)) : Prop where
  distinct : (attrs.map (·.1)).Nodup
  free : ∀ attr ∈ attrs, isFree attr.1 = true

/-- The attributes of a tree that attributes without placeholders become. -/
def staticAttrs (attrs : List (String × String)) : List Attr :=
  attrs.map fun attr => .plain attr.1 (Dom.staticText booleanAttributes attr.1 attr.2)

/-- The properties of such attributes are shown as the attributes. -/
theorem filterMap_shownProp_static {attrs : List (String × String)} (unmixed : Unmixed attrs)
    {outline : AttrOutline} (plain : outline.attrs = staticAttrs attrs)
    {context : Option Context} {own : List (String × Value)}
    (named : outline.meaning context [] = .ok own) :
    own.filterMap Markup.shownProp = attrs.map shownAttr := by
  let pairs := attrs.map fun attr => (attr.1, Dom.staticText booleanAttributes attr.1 attr.2)
  have paired : outline.attrs = pairs.map fun pair => .plain pair.1 pair.2 := by
    rw [plain, List.map_map]
    rfl
  -- Names that are shown again as they were have properties that differ as the names do.
  have distinct : (pairs.map fun pair => propName pair.1).Nodup := by
    apply List.Nodup.of_map Markup.attributeName
    rw [List.map_map, List.map_map]
    have names : attrs.map (Markup.attributeName ∘ propName ∘ (·.1)) = attrs.map (·.1) :=
      List.map_congr_left fun attr member => attributeName_propName (unmixed.free attr member)
    exact names ▸ unmixed.distinct
  rw [AttrOutline.meaning_plain paired, assignAll_of_nodup] at named
  · cases named
    rw [List.nil_append, List.map_map, List.filterMap_map, ← List.filterMap_eq_map]
    exact List.filterMap_congr fun attr member => shownProp_static (unmixed.free attr member) attr.2
  · rw [List.nil_append, List.map_map]
    exact distinct

/-- An element that comes from a node with such attributes shows them, with a key or without. -/
theorem Tracked.ComesFrom.showsAttributes {attrs : List (String × String)}
    (unmixed : Unmixed attrs) {context : Option Context} {element : Tracked} {tag : String}
    {ns : Option String} {children : List Node}
    (comes : element.ComesFrom context (.element tag ns (staticAttrs attrs) children)) :
    ShowsAttributes tag attrs (Markup.render element.value).toList := by
  generalize same : Node.element tag ns (staticAttrs attrs) children = node at comes
  cases comes with
  | element keyed index named filled =>
    injection same with sameTag _ plain
    subst sameTag
    rw [Tracked.value]
    apply ShowsAttributes.of_shownProps
    rw [filterMap_shownProp_keyedProps]
    exact filterMap_shownProp_static unmixed plain.symm named

/-- An element is exported with its attributes, whatever its children. -/
theorem exportTree_element {s after : Dom.Store} {id : Dom.NodeId} {tag : String}
    {ns : Option String} {attrs : Dom.Attrs} {node : Node}
    (content : s.content id = .element tag ns attrs)
    (exported : Dom.exportTree id s = .ok node after) :
    ∃ children, node = .element tag ns (attrs.map Dom.exportAttr) children := by
  cases exported
  rw [Dom.Store.tree, Dom.Store.exportNode, content]
  exact ⟨_, rfl⟩

/-- A value that a tree is compiled, loaded and rendered to. -/
def RendersTo (fragmentTag : String) (root : Node) (context : Option Context) (value : Value) :
    Prop :=
  ∃ code routine, compile fragmentTag root = .ok code ∧ load code = .ok routine ∧
    routine.run context = .ok value

/-- A node by itself is compiled as it is in a fragment without other nodes. -/
theorem compile_fragment_singleton (fragmentTag : String) (node : Node) :
    compile fragmentTag (.fragment [node]) = compile fragmentTag node := by
  have alone : compileNode (.fragment [node]) none prologue = compileNode node none prologue := by
    have key : keyAt (decide ([node].length > 1)) 0 = none := rfl
    rw [compileNode, compileNodes, key]
    cases compileNode node none prologue <;> rfl
  rw [compile, compile, compileLines, compileLines, alone]

/-- The indices of the elements among the nodes of an outline that stand outside every block. -/
def Outline.steady {place : Place} : Outline place → (index : Nat) → List Nat
  | .done, _ => []
  | .text _ rest, index => rest.steady (index + 1)
  | .shown _ rest, index => rest.steady (index + 1)
  | .comment _ rest, index => rest.steady (index + 1)
  | .element _ _ _ _ rest, index => index :: rest.steady (index + 1)
  | .choice _ body others rest, index =>
    rest.steady (index + 1 + body.nodes.length + others.nodes.length + 1)
termination_by structural outline => outline

/-- An element outside every block is always rendered. -/
theorem Outline.exists_of_steady {context : Option Context} {keyed : Bool} {above : List Nat}
    {place : Place} (outline : Outline place) {index : Nat} {items : List Tracked}
    (tracked : outline.tracked context keyed above index = .ok items) {i : Nat}
    (steady : i ∈ outline.steady index) :
    ∃ item ∈ items, item.isElement = true ∧ item.origin = above ++ [i] := by
  match outline with
  | .done => cases steady
  | .text value rest =>
    obtain ⟨later, behind, same⟩ := exists_of_bind tracked
    cases same
    obtain ⟨item, member, found⟩ := rest.exists_of_steady behind steady
    exact ⟨item, List.mem_cons_of_mem _ member, found⟩
  | .shown term rest =>
    obtain ⟨value, -, tracked⟩ := exists_of_bind tracked
    obtain ⟨later, behind, same⟩ := exists_of_bind tracked
    cases same
    obtain ⟨item, member, found⟩ := rest.exists_of_steady behind steady
    exact ⟨item, List.mem_cons_of_mem _ member, found⟩
  | .comment _ rest => exact rest.exists_of_steady tracked steady
  | .element tag ns attrs children rest =>
    obtain ⟨inner, -, tracked⟩ := exists_of_bind tracked
    obtain ⟨own, -, tracked⟩ := exists_of_bind tracked
    obtain ⟨later, behind, same⟩ := exists_of_bind tracked
    cases same
    rcases List.mem_cons.mp steady with rfl | steady
    · exact ⟨_, List.mem_cons_self, rfl, rfl⟩
    · obtain ⟨item, member, found⟩ := rest.exists_of_steady behind steady
      exact ⟨item, List.mem_cons_of_mem _ member, found⟩
  | .choice condition body others rest =>
    obtain ⟨value, -, tracked⟩ := exists_of_bind tracked
    obtain ⟨chosen, -, tracked⟩ := exists_of_bind tracked
    obtain ⟨later, behind, same⟩ := exists_of_bind tracked
    cases same
    -- What a block gives depends on the context and comes before what stands behind it.
    obtain ⟨item, member, found⟩ := rest.exists_of_steady behind steady
    exact ⟨item, List.mem_append_right _ member, found⟩

theorem Outline.exists_element_of_steady {fragmentTag : String} {context : Option Context}
    {outline : Outline .content} {page : Tracked}
    (tracked : outline.trackedPage fragmentTag context = .ok page) {i : Nat}
    (steady : i ∈ outline.steady 0) : ∃ element ∈ page.elements, element.origin = [i] := by
  obtain ⟨items, run, rfl⟩ := Outline.exists_of_trackedPage tracked
  obtain ⟨item, member, element, origin⟩ := outline.exists_of_steady run steady
  have inside := Tracked.mem_elementsOf member (Tracked.mem_elements_self element)
  exact ⟨item, Tracked.elementsOf_subset_page fragmentTag items inside, origin⟩

/-- On every page, the elements that come from a node with such attributes show them. -/
theorem exists_page_showsAttributes {attrs : List (String × String)} (unmixed : Unmixed attrs)
    {fragmentTag : String} {outline : Outline .content} {context : Option Context} {value : Value}
    (renders : RendersTo fragmentTag outline.root context value) (tag : String)
    (ns : Option String) (children : List Node) :
    ∃ page, outline.trackedPage fragmentTag context = .ok page ∧ page.value = value ∧
      (∀ i ∈ outline.steady 0, ∃ element ∈ page.elements, element.origin = [i]) ∧
      ∀ element ∈ page.elements,
        outline.root.at? element.origin = some (.element tag ns (staticAttrs attrs) children) →
        ShowsAttributes tag attrs (Markup.render element.value).toList := by
  obtain ⟨code, routine, compiled, loaded, rendered⟩ := renders
  obtain ⟨page, tracked, same⟩ := exists_trackedPage compiled loaded rendered
  refine ⟨page, tracked, same, fun i => Outline.exists_element_of_steady tracked,
    fun element inside found => ?_⟩
  rcases Outline.origin_cases tracked inside with ⟨items, -, -, -, rfl⟩ | ⟨node, here, comes⟩
  · -- The element that wraps a page comes from the root, which is no element.
    cases found
  · rw [found] at here
    cases here
    exact comes.showsAttributes unmixed

/-- The outline of plain attributes. -/
def AttrOutline.ofPlain : List (String × String) → AttrOutline
  | [] => .done
  | pair :: rest => .plain pair.1 pair.2 (ofPlain rest)

theorem AttrOutline.attrs_ofPlain (pairs : List (String × String)) :
    (ofPlain pairs).attrs = pairs.map fun pair => .plain pair.1 pair.2 := by
  induction pairs with
  | nil => rfl
  | cons pair rest ih => rw [ofPlain, AttrOutline.attrs, ih, List.map_cons]

/-- The page of a single element is the element. -/
theorem Outline.page_of_element {tag : String} {ns : Option String} {attrs : AttrOutline}
    {inner : Outline .content} {fragmentTag : String} {context : Option Context} {page : Tracked}
    (tracked : (Outline.element tag ns attrs inner .done).trackedPage fragmentTag context =
      .ok page) :
    page.isElement = true ∧ page.origin = [0] := by
  obtain ⟨items, run, rfl⟩ := Outline.exists_of_trackedPage tracked
  obtain ⟨_, -, run⟩ := exists_of_bind run
  obtain ⟨_, -, run⟩ := exists_of_bind run
  cases run
  exact ⟨rfl, rfl⟩

/-- An element with such attributes that is compiled by itself shows them. -/
theorem showsAttributes_of_alone {attrs : List (String × String)} (unmixed : Unmixed attrs)
    {tag : String} {ns : Option String} {inner : Outline .content} {fragmentTag : String}
    {context : Option Context} {value : Value}
    (renders : RendersTo fragmentTag (.element tag ns (staticAttrs attrs) inner.nodes) context
      value) :
    ShowsAttributes tag attrs (Markup.render value).toList := by
  let plain := AttrOutline.ofPlain (attrs.map fun attr =>
    (attr.1, Dom.staticText booleanAttributes attr.1 attr.2))
  have same : plain.attrs = staticAttrs attrs := by
    rw [AttrOutline.attrs_ofPlain, List.map_map]
    rfl
  obtain ⟨code, routine, compiled, loaded, rendered⟩ := renders
  have renders : RendersTo fragmentTag (Outline.element tag ns plain inner .done).root context
      value := by
    refine ⟨code, routine, ?_, loaded, rendered⟩
    rw [← compiled, ← same]
    exact compile_fragment_singleton fragmentTag _
  obtain ⟨page, tracked, rfl, -, shows⟩ :=
    exists_page_showsAttributes unmixed renders tag ns inner.nodes
  obtain ⟨element, origin⟩ := Outline.page_of_element tracked
  apply shows page (Tracked.mem_elements_self element)
  rw [origin, ← same]
  rfl

/-- Attributes without placeholders, with different names that are not those of other properties,
survive. They are adapted without taking anything from the queue. Wherever an element with the
adapted attributes is exported, compiled and rendered, by itself or in a tree, whatever its children
and its key, the markup shows them. -/
theorem static_attributes_survive {s : Dom.Store} (host : s.setup.booleans = booleanAttributes)
    {raw : List (Dom.AttrName × String)} (unmixed : Unmixed (Dom.flat raw))
    (static : ∀ attr ∈ raw, Text.occursIn s.setup.sentinel attr.2.toList = false) :
    ∃ adapted, Dom.adaptAttributes (raw.map fun attr => (attr.1, .plain attr.2)) s = .ok adapted s ∧
      ∀ (later after : Dom.Store) (id : Dom.NodeId) (tag : String) (ns : Option String)
        (node : Node), later.content id = .element tag ns adapted →
        Dom.exportTree id later = .ok node after →
        (∀ (inner : Outline .content) fragmentTag context value, node.children = inner.nodes →
          RendersTo fragmentTag node context value →
          ShowsAttributes tag (Dom.flat raw) (Markup.render value).toList) ∧
        ∀ (outline : Outline .content) fragmentTag context value,
          RendersTo fragmentTag outline.root context value →
          ∃ page, outline.trackedPage fragmentTag context = .ok page ∧ page.value = value ∧
            (∀ i ∈ outline.steady 0, ∃ element ∈ page.elements, element.origin = [i]) ∧
            ∀ element ∈ page.elements, outline.root.at? element.origin = some node →
              ShowsAttributes tag (Dom.flat raw) (Markup.render element.value).toList := by
  refine ⟨_, Dom.adaptAttributes_static static, fun later after id tag ns node content exported => ?_⟩
  obtain ⟨children, rfl⟩ := exportTree_element content exported
  -- As no name comes twice, none of them is assigned over.
  have attributes : (assignAll [] (raw.map fun attr => (attr.1.flatten, Dom.AttrValue.plain
      (Dom.staticText s.setup.booleans attr.1.flatten attr.2)))).map Dom.exportAttr =
        staticAttrs (Dom.flat raw) := by
    rw [assignAll_of_nodup, List.nil_append, List.map_map, staticAttrs, Dom.flat, List.map_map,
      host]
    · rfl
    · have distinct := unmixed.distinct
      rw [Dom.flat, List.map_map] at distinct
      rw [List.nil_append, List.map_map]
      exact distinct
  rw [attributes]
  constructor
  · rintro inner fragmentTag context value rfl renders
    exact showsAttributes_of_alone unmixed renders
  · intro outline fragmentTag context value renders
    exact exists_page_showsAttributes unmixed renders tag ns children

/-- Attributes that change their name on the way, that have a character to escape, that are set by
being there, and that have a qualified name. -/
def labelled : List (Dom.AttrName × String) :=
  [(.plain "for", "a&\"b\""), (.plain "hidden", ""), (.qualified (some "xlink") "href" none, "#c")]

def labelStore : Dom.Store :=
  { setup := { sentinel := ['%'], booleans := booleanAttributes, ns := none }, queue := {} }

def labelAttrs : Dom.Attrs :=
  [("for", .plain "a&\"b\""), ("hidden", .plain "hidden"), ("xlink:href", .plain "#c")]

def labelOutline (inner : Outline .content) : Outline .content :=
  .element "label" none
    (.plain "for" "a&\"b\"" (.plain "hidden" "hidden" (.plain "xlink:href" "#c" .done))) inner .done

/-- A label with a text in it, behind another text, so that it has a key. -/
def labelPage : Outline .content :=
  .text "-" (labelOutline (.text "Name" .done))

/-- The label of `labelPage` before it is exported. -/
def labelTree : Dom.Store :=
  { labelStore with
    cells := #[{ content := .element "label" none labelAttrs, children := [1] },
      { content := .leaf (.text "Name"), owner := some (.node 0) }] }

/-- The label by itself and without children, and the label inside a page. -/
theorem static_attributes_survive_labelled : ∃ adapted,
    Dom.adaptAttributes (labelled.map fun attr => (attr.1, .plain attr.2)) labelStore =
      .ok adapted labelStore ∧
    (∃ node after value,
      Dom.exportTree 0 (labelStore.add (.element "label" none adapted)).2 = .ok node after ∧
      RendersTo "div" node none value ∧
      Markup.render value =
        "<label for=\"a&amp;&quot;b&quot;\" hidden=\"\" xlink:href=\"#c\"></label>" ∧
      ShowsAttributes "label" [("for", "a&\"b\""), ("hidden", ""), ("xlink:href", "#c")]
        (Markup.render value).toList) ∧
    ∃ node after page element,
      labelTree.content 0 = .element "label" none adapted ∧
      Dom.exportTree 0 labelTree = .ok node after ∧
      RendersTo "div" labelPage.root none (Tracked.value page) ∧
      element ∈ page.elements ∧ element.value.key = .str "1" ∧
      labelPage.root.at? element.origin = some node ∧
      Markup.render element.value =
        "<label for=\"a&amp;&quot;b&quot;\" hidden=\"\" xlink:href=\"#c\">Name</label>" ∧
      ShowsAttributes "label" [("for", "a&\"b\""), ("hidden", ""), ("xlink:href", "#c")]
        (Markup.render element.value).toList := by
  have unmixed : Unmixed (Dom.flat labelled) := ⟨by decide, by decide⟩
  obtain ⟨adapted, run, survive⟩ :=
    @static_attributes_survive labelStore rfl labelled unmixed (by decide)
  have adaptedAs : adapted = labelAttrs := by
    rw [Dom.adaptAttributes_static (by decide)] at run
    injection run with same
    exact same.symm
  subst adaptedAs
  refine ⟨labelAttrs, run, ?_, ?_⟩
  · obtain ⟨code, routine, compiled, loaded⟩ :=
      exists_routine "div" (show (labelOutline .done).depth ≤ 98 by decide)
    have renders : RendersTo "div" _ none _ := ⟨code, routine,
      (compile_fragment_singleton "div" _).symm.trans compiled, loaded,
      run_of_load compiled loaded none⟩
    have shows := (survive (labelStore.add (.element "label" none labelAttrs)).2 _ 0 "label" none _
      rfl rfl).1 .done "div" none _ rfl renders
    exact ⟨_, _, _, rfl, renders, rfl, shows⟩
  · obtain ⟨code, routine, compiled, loaded⟩ :=
      exists_routine "div" (show labelPage.depth ≤ 98 by decide)
    have renders : RendersTo "div" labelPage.root none _ :=
      ⟨code, routine, compiled, loaded, run_of_load compiled loaded none⟩
    obtain ⟨page, tracked, same, -, shows⟩ :=
      (survive labelTree _ 0 "label" none _ rfl rfl).2 labelPage "div" none _ renders
    have label : ∃ element ∈ page.elements, element.value.key = .str "1" ∧
        labelPage.root.at? element.origin = some (labelTree.tree 0) ∧ Markup.render element.value =
          "<label for=\"a&amp;&quot;b&quot;\" hidden=\"\" xlink:href=\"#c\">Name</label>" := by
      -- The page is an element around the text and the label.
      cases tracked
      exact ⟨_, List.mem_cons_of_mem _ List.mem_cons_self, rfl, rfl, rfl⟩
    obtain ⟨element, inside, key, origin, shown⟩ := label
    exact ⟨_, _, page, element, rfl, rfl, same ▸ renders, inside, key, origin, shown,
      shows element inside origin⟩

end HtmlTemplate
