import HtmlTemplate.Proofs.Code.Depth
import HtmlTemplate.Proofs.Markup

/-!
Comments. A tree without some of its comments has other keys, and its elements may have no list of
children where they had an empty one. But neither is seen in the markup: both trees can be compiled,
and under each context they are rendered to the same markup, or fail in the same way. The texts of
comments do not even reach the code.
-/

namespace HtmlTemplate

open Code

mutual

/-- Nodes, and the same nodes without some of the comments among them and below them. -/
inductive Uncommented : List Node → List Node → Prop where
  | nil : Uncommented [] []
  | drop (text : String) {nodes fewer : List Node} (rest : Uncommented nodes fewer) :
      Uncommented (.tag (.comment text) :: nodes) fewer
  | text (value : String) {nodes fewer : List Node} (rest : Uncommented nodes fewer) :
      Uncommented (.text value :: nodes) (.text value :: fewer)
  | tag (tag : Tag) {nodes fewer : List Node} (rest : Uncommented nodes fewer) :
      Uncommented (.tag tag :: nodes) (.tag tag :: fewer)
  | element (tag : String) (ns : Option String) {attrs attrs' : List Attr}
      {children children' nodes fewer : List Node} (named : UncommentedAttrs attrs attrs')
      (inner : Uncommented children children') (rest : Uncommented nodes fewer) :
      Uncommented (.element tag ns attrs children :: nodes)
        (.element tag ns attrs' children' :: fewer)

inductive UncommentedAttrs : List Attr → List Attr → Prop where
  | nil : UncommentedAttrs [] []
  | plain (name value : String) {attrs fewer : List Attr} (rest : UncommentedAttrs attrs fewer) :
      UncommentedAttrs (.plain name value :: attrs) (.plain name value :: fewer)
  | parts (name : String) {value value' : List Node} {attrs fewer : List Attr}
      (inner : Uncommented value value') (rest : UncommentedAttrs attrs fewer) :
      UncommentedAttrs (.parts name value :: attrs) (.parts name value' :: fewer)

end

/-- Comments are removed from each of two lists by themselves. -/
theorem Uncommented.exists_append {front back fewer : List Node}
    (removed : Uncommented (front ++ back) fewer) :
    ∃ front' back', fewer = front' ++ back' ∧ Uncommented front front' ∧
      Uncommented back back' := by
  induction front generalizing fewer with
  | nil => exact ⟨[], fewer, rfl, .nil, removed⟩
  | cons node rest ih =>
    cases removed with
    | drop text later =>
      obtain ⟨front', back', rfl, first, second⟩ := ih later
      exact ⟨front', back', rfl, .drop text first, second⟩
    | text value later =>
      obtain ⟨front', back', rfl, first, second⟩ := ih later
      exact ⟨_, back', rfl, .text value first, second⟩
    | tag tag later =>
      obtain ⟨front', back', rfl, first, second⟩ := ih later
      exact ⟨_, back', rfl, .tag tag first, second⟩
    | element tag ns named inner later =>
      obtain ⟨front', back', rfl, first, second⟩ := ih later
      exact ⟨_, back', rfl, .element tag ns named inner first, second⟩

/-- Outcomes that fail in the same way, or give related results. -/
inductive SameOutcome {α β : Type} (R : α → β → Prop) :
    Except RunError α → Except RunError β → Prop where
  | fails (e : RunError) : SameOutcome R (.error e) (.error e)
  | gives {a : α} {b : β} (related : R a b) : SameOutcome R (.ok a) (.ok b)

namespace SameOutcome

variable {α β γ δ : Type} {R : α → β → Prop} {S : γ → δ → Prop} {x : Except RunError α}
  {y : Except RunError β}

theorem refl (x : Except RunError α) : SameOutcome Eq x x := by
  cases x with
  | error e => exact .fails e
  | ok a => exact .gives rfl

theorem bind {f : α → Except RunError γ} {g : β → Except RunError δ} (first : SameOutcome R x y)
    (next : ∀ a b, R a b → SameOutcome S (f a) (g b)) : SameOutcome S (x >>= f) (y >>= g) := by
  cases first with
  | fails e => exact .fails e
  | gives related => exact next _ _ related

end SameOutcome

/-- What is seen of a value: its markup, or its text if it is part of an attribute. -/
def Place.view : Place → Value → String
  | .content => Markup.render
  | .attribute => Value.text

/-- Values that look the same. -/
def Place.Alike (place : Place) (values others : List Value) : Prop :=
  values.map place.view = others.map place.view

namespace Place.Alike

variable {place : Place} {values others more others' : List Value}

theorem cons {value other : Value} (first : place.view value = place.view other)
    (rest : place.Alike values others) : place.Alike (value :: values) (other :: others) := by
  rw [Place.Alike, List.map_cons, List.map_cons, first, rest]

theorem append (first : place.Alike values others) (second : place.Alike more others') :
    place.Alike (values ++ more) (others ++ others') := by
  rw [Place.Alike, List.map_append, List.map_append, first, second]

end Place.Alike

/-- A key is not shown, and neither is a key that it takes the place of. -/
theorem filterMap_shownProp_keyedProps (keyed : Bool) (index : Nat)
    (props : List (String × Value)) :
    (keyedProps keyed index props).filterMap Markup.shownProp =
      props.filterMap Markup.shownProp := by
  have hidden (value : Value) : Markup.shownProp ("key", value) = none := rfl
  rw [keyedProps]
  split
  · -- The key is put in the place of one that the attributes give, or behind all of them.
    induction props with
    | nil => rfl
    | cons entry rest ih =>
      obtain ⟨name, value⟩ := entry
      rw [assign]
      split
      next same =>
        obtain rfl : name = "key" := eq_of_beq same
        rw [List.filterMap_cons_none (hidden _), List.filterMap_cons_none (hidden value)]
      · rw [List.filterMap_cons, List.filterMap_cons, ih]
  · rfl

theorem renderProps_keyedProps (keyed : Bool) (index : Nat) (props : List (String × Value)) :
    Markup.renderProps (keyedProps keyed index props) = Markup.renderProps props := by
  apply String.toList_inj.mp
  rw [Markup.toList_renderProps, Markup.toList_renderProps, filterMap_shownProp_keyedProps]

theorem renderAll_eq (items : List Value) :
    Markup.renderAll items = String.join (items.map Markup.render) := by
  induction items with
  | nil => rfl
  | cons item rest ih => simp [Markup.renderAll, ih]

theorem render_childrenValue (inner : List Value) :
    Markup.render (childrenValue inner) = String.join (inner.map Markup.render) := by
  cases inner with
  | nil => rfl
  | cons item rest => exact renderAll_eq (item :: rest)

/-- An element looks the same with another key and with children that look the same. -/
theorem render_element {inner inner' : List Value} (alike : Place.content.Alike inner inner')
    (tag : String) (props : List (String × Value)) (keyed keyed' : Bool) (index index' : Nat) :
    Markup.render (.vnode tag (keyedProps keyed index props) (childrenValue inner)) =
      Markup.render (.vnode tag (keyedProps keyed' index' props) (childrenValue inner')) := by
  have same : inner.map Markup.render = inner'.map Markup.render := alike
  simp only [Markup.render, renderProps_keyedProps, render_childrenValue, same]

/-- Outlines that are as deep as one another and give what looks the same, whatever keys they give
to their elements. -/
structure Outline.Matches {place : Place} (outline other : Outline place) : Prop where
  depth : other.depth = outline.depth
  outcome (context : Option Context) (keyed keyed' : Bool) (index index' : Nat) :
    SameOutcome place.Alike (outline.meaning context keyed index)
      (other.meaning context keyed' index')

structure Branches.Matches {place : Place} (branches other : Branches place) : Prop where
  depth : other.depth = branches.depth
  outcome (context : Option Context) (keyed keyed' : Bool) (index index' : Nat) :
    SameOutcome place.Alike (branches.meaning context keyed index)
      (other.meaning context keyed' index')

structure AttrOutline.Matches (attrs other : AttrOutline) : Prop where
  depth : other.depth = attrs.depth
  outcome (context : Option Context) (props : List (String × Value)) :
    attrs.meaning context props = other.meaning context props

section

variable {place : Place} {body body' rest rest' : Outline place} {others others' : Branches place}

/-- The step over a node that gives one value. -/
theorem SameOutcome.cons {x y : Except RunError (List Value)} (value : Value)
    (later : SameOutcome place.Alike x y) :
    SameOutcome place.Alike (do let values ← x; return value :: values)
      (do let values ← y; return value :: values) :=
  later.bind fun _ _ alike => .gives (.cons rfl alike)

theorem Outline.Matches.text (value : String) (later : rest.Matches rest') :
    (Outline.text value rest).Matches (.text value rest') where
  depth := later.depth
  outcome context keyed keyed' index index' :=
    (later.outcome context keyed keyed' (index + 1) (index' + 1)).cons _

theorem Outline.Matches.shown (term : Term) (later : rest.Matches rest') :
    (Outline.shown term rest).Matches (.shown term rest') where
  depth := later.depth
  outcome context keyed keyed' index index' :=
    (SameOutcome.refl (term.value context)).bind fun _ _ same =>
      same ▸ (later.outcome context keyed keyed' (index + 1) (index' + 1)).cons _

theorem Outline.Matches.comment (text : String) (later : rest.Matches rest') :
    (Outline.comment text rest).Matches (.comment text rest') where
  depth := later.depth
  outcome context keyed keyed' index index' :=
    later.outcome context keyed keyed' (index + 1) (index' + 1)

/-- A comment that is gone only moves the nodes behind it. -/
theorem Outline.Matches.drop (text : String) (later : rest.Matches rest') :
    (Outline.comment text rest).Matches rest' where
  depth := later.depth
  outcome context keyed keyed' index index' :=
    later.outcome context keyed keyed' (index + 1) index'

theorem Outline.Matches.element (tag : String) (ns : Option String) {attrs attrs' : AttrOutline}
    {children children' rest rest' : Outline .content} (named : attrs.Matches attrs')
    (inner : children.Matches children') (later : rest.Matches rest') :
    (Outline.element tag ns attrs children rest).Matches
      (.element tag ns attrs' children' rest') where
  depth := by
    rw [Outline.depth, Outline.depth, inner.depth, named.depth, later.depth]
  outcome context keyed keyed' index index' := by
    rw [Outline.meaning, Outline.meaning, ← named.outcome]
    -- The properties may differ in the key, which depends on the siblings and is not rendered.
    apply (inner.outcome context true true 0 0).bind
    intro values values' alike
    apply (SameOutcome.refl (attrs.meaning context [])).bind
    rintro props _ rfl
    apply (later.outcome context keyed keyed' (index + 1) (index' + 1)).bind
    intro more more' alikeRest
    exact .gives (.cons (render_element alike tag props keyed keyed' index index') alikeRest)

/-- The same branch is taken, and gives what looks the same. -/
theorem SameOutcome.branch {x y x' y' : Except RunError (List Value)} (value : Value)
    (first : SameOutcome place.Alike x x') (second : SameOutcome place.Alike y y') :
    SameOutcome place.Alike (if value.truth then x else y) (if value.truth then x' else y') := by
  split
  · exact first
  · exact second

theorem Outline.Matches.choice (condition : Term) (first : body.Matches body')
    (second : others.Matches others') (later : rest.Matches rest') :
    (Outline.choice condition body others rest).Matches (.choice condition body' others' rest') where
  depth := by
    rw [Outline.depth, Outline.depth, first.depth, second.depth, later.depth]
  outcome context keyed keyed' index index' := by
    rw [Outline.meaning, Outline.meaning]
    apply (SameOutcome.refl (condition.value context)).bind
    rintro value _ rfl
    apply (SameOutcome.branch value (first.outcome context keyed keyed' _ _)
      (second.outcome context keyed keyed' _ _)).bind
    intro chosen chosen' alike
    apply (later.outcome context keyed keyed' _ _).bind
    intro values values' alikeRest
    exact .gives (alike.append alikeRest)

theorem Branches.Matches.further (condition : Term) (first : body.Matches body')
    (second : others.Matches others') :
    (Branches.further condition body others).Matches (.further condition body' others') where
  depth := by
    rw [Branches.depth, Branches.depth, first.depth, second.depth]
  outcome context keyed keyed' index index' := by
    rw [Branches.meaning, Branches.meaning]
    apply (SameOutcome.refl (condition.value context)).bind
    rintro value _ rfl
    exact .branch value (first.outcome context keyed keyed' _ _)
      (second.outcome context keyed keyed' _ _)

theorem AttrOutline.Matches.plain (name value : String) {rest rest' : AttrOutline}
    (later : rest.Matches rest') :
    (AttrOutline.plain name value rest).Matches (.plain name value rest') where
  depth := later.depth
  outcome context _ := later.outcome context _

theorem AttrOutline.Matches.parts (name : String) {value value' : Outline .attribute}
    {rest rest' : AttrOutline} (inner : value.Matches value') (later : rest.Matches rest') :
    (AttrOutline.parts name value rest).Matches (.parts name value' rest') where
  depth := by
    rw [AttrOutline.depth, AttrOutline.depth, inner.depth, later.depth]
  outcome context props := by
    rw [AttrOutline.meaning, AttrOutline.meaning]
    have same := inner.outcome context false false 0 0
    generalize value.meaning context false 0 = values at same
    generalize value'.meaning context false 0 = values' at same
    cases same with
    | fails e => rfl
    | @gives values values' alike =>
      -- In an attribute only the texts of the values count, joined into one.
      have texts : values.map Value.text = values'.map Value.text := alike
      rw [ok_bind, ok_bind, texts]
      exact later.outcome context _

end

-- By recursion over the outline. What is removed from a block is removed from its branches and from
-- the nodes behind it, each by itself: the tags of the block stay.
mutual

/-- Nodes without some of their comments have an outline too, which matches the first. -/
theorem Outline.exists_matches {place : Place} (outline : Outline place) {fewer : List Node}
    (removed : Uncommented outline.nodes fewer) :
    ∃ other : Outline place, other.nodes = fewer ∧ outline.Matches other := by
  match outline with
  | .done =>
    cases removed
    exact ⟨.done, rfl, rfl, fun _ _ _ _ _ => .gives rfl⟩
  | .text value rest =>
    rw [Outline.nodes] at removed
    cases removed with
    | text _ removed =>
      obtain ⟨rest', rfl, later⟩ := rest.exists_matches removed
      exact ⟨.text value rest', rfl, later.text value⟩
  | .shown term rest =>
    rw [Outline.nodes] at removed
    cases removed with
    | tag _ removed =>
      obtain ⟨rest', rfl, later⟩ := rest.exists_matches removed
      exact ⟨.shown term rest', rfl, later.shown term⟩
  | .comment text rest =>
    rw [Outline.nodes] at removed
    cases removed with
    -- A comment is one of those that are removed, or it stays.
    | drop _ removed =>
      obtain ⟨rest', rfl, later⟩ := rest.exists_matches removed
      exact ⟨rest', rfl, later.drop text⟩
    | tag _ removed =>
      obtain ⟨rest', rfl, later⟩ := rest.exists_matches removed
      exact ⟨.comment text rest', rfl, later.comment text⟩
  | .element tag ns attrs children rest =>
    rw [Outline.nodes] at removed
    cases removed with
    | element _ _ fromAttrs fromChildren fromRest =>
      obtain ⟨attrs', rfl, named⟩ := attrs.exists_matches fromAttrs
      obtain ⟨children', rfl, inner⟩ := children.exists_matches fromChildren
      obtain ⟨rest', rfl, later⟩ := rest.exists_matches fromRest
      exact ⟨.element tag ns attrs' children' rest', rfl, .element tag ns named inner later⟩
  | .choice condition body others rest =>
    rw [Outline.nodes] at removed
    cases removed with
    | tag _ removed =>
      obtain ⟨_, _, rfl, fromBody, removed⟩ := removed.exists_append
      obtain ⟨_, _, rfl, fromOthers, removed⟩ := removed.exists_append
      cases removed with
      | tag _ fromRest =>
        obtain ⟨body', rfl, first⟩ := body.exists_matches fromBody
        obtain ⟨others', rfl, second⟩ := others.exists_matches fromOthers
        obtain ⟨rest', rfl, later⟩ := rest.exists_matches fromRest
        exact ⟨.choice condition body' others' rest', rfl, .choice condition first second later⟩

theorem Branches.exists_matches {place : Place} (branches : Branches place) {fewer : List Node}
    (removed : Uncommented branches.nodes fewer) :
    ∃ other : Branches place, other.nodes = fewer ∧ branches.Matches other := by
  match branches with
  | .done =>
    cases removed
    exact ⟨.done, rfl, rfl, fun _ _ _ _ _ => .gives rfl⟩
  | .otherwise body =>
    rw [Branches.nodes] at removed
    cases removed with
    | tag _ removed =>
      obtain ⟨body', rfl, inner⟩ := body.exists_matches removed
      exact ⟨.otherwise body', rfl, inner.depth, fun context keyed keyed' _ _ =>
        inner.outcome context keyed keyed' _ _⟩
  | .further condition body others =>
    rw [Branches.nodes] at removed
    cases removed with
    | tag _ removed =>
      obtain ⟨_, _, rfl, fromBody, fromOthers⟩ := removed.exists_append
      obtain ⟨body', rfl, first⟩ := body.exists_matches fromBody
      obtain ⟨others', rfl, second⟩ := others.exists_matches fromOthers
      exact ⟨.further condition body' others', rfl, .further condition first second⟩

theorem AttrOutline.exists_matches (attrs : AttrOutline) {fewer : List Attr}
    (removed : UncommentedAttrs attrs.attrs fewer) :
    ∃ other : AttrOutline, other.attrs = fewer ∧ attrs.Matches other := by
  match attrs with
  | .done =>
    cases removed
    exact ⟨.done, rfl, rfl, fun _ _ => rfl⟩
  | .plain name value rest =>
    rw [AttrOutline.attrs] at removed
    cases removed with
    | plain _ _ removed =>
      obtain ⟨rest', rfl, later⟩ := rest.exists_matches removed
      exact ⟨.plain name value rest', rfl, later.plain name value⟩
  | .parts name value rest =>
    rw [AttrOutline.attrs] at removed
    cases removed with
    | parts _ fromValue fromRest =>
      obtain ⟨value', rfl, inner⟩ := value.exists_matches fromValue
      obtain ⟨rest', rfl, later⟩ := rest.exists_matches fromRest
      exact ⟨.parts name value' rest', rfl, .parts name inner later⟩

end

/-- Pages look the same if their values do: there are as many of them. -/
theorem render_pageOf {values others : List Value} (alike : Place.content.Alike values others)
    (fragmentTag : String) :
    Markup.render (pageOf fragmentTag values) = Markup.render (pageOf fragmentTag others) := by
  have same : values.map Markup.render = others.map Markup.render := alike
  have count : values.length = others.length := by
    simpa using congrArg List.length same
  -- A page of one value is that value, without an element around it.
  match values, others with
  | [], [] => rfl
  | [value], [other] => exact (List.cons.inj same).1
  | first :: second :: rest, first' :: second' :: rest' =>
    simp only [pageOf, Markup.render, renderAll_eq, same]

theorem Outline.Matches.page {outline other : Outline .content} (matching : outline.Matches other)
    (fragmentTag : String) (context : Option Context) :
    (outline.page fragmentTag context).map Markup.render =
      (other.page fragmentTag context).map Markup.render := by
  have same := matching.outcome context (1 < outline.nodes.length) (1 < other.nodes.length) 0 0
  rw [Outline.page, Outline.page]
  generalize outline.meaning context (1 < outline.nodes.length) 0 = outcome at same
  generalize other.meaning context (1 < other.nodes.length) 0 = outcome' at same
  cases same with
  | fails e => rfl
  | gives alike => exact congrArg Except.ok (render_pageOf alike fragmentTag)

/-- An outcome that fails only over a name that the context does not have. -/
def OnlyMissing {α : Type} (outcome : Except RunError α) : Prop :=
  ∀ e, outcome = .error e → ∃ name, e = .missing name

namespace OnlyMissing

theorem ok {α : Type} (a : α) : OnlyMissing (.ok a) := by
  intro e failed
  cases failed

theorem bind {α β : Type} {x : Except RunError α} {f : α → Except RunError β}
    (first : OnlyMissing x) (next : ∀ a, OnlyMissing (f a)) : OnlyMissing (x >>= f) := by
  cases x with
  | error e =>
    rintro _ ⟨⟩
    exact first e rfl
  | ok a => exact next a

end OnlyMissing

theorem Term.onlyMissing (entries : Context) (term : Term) :
    OnlyMissing (term.value (some entries)) := by
  cases term with
  | bool b => exact .ok _
  | str s => exact .ok _
  | float x => exact .ok _
  | lookup name =>
    rw [Term.value]
    cases entries.find? (·.1 == name) with
    | none =>
      rintro _ ⟨⟩
      exact ⟨name, rfl⟩
    | some entry => exact .ok _

mutual

theorem Outline.onlyMissing (entries : Context) {place : Place} (outline : Outline place)
    (keyed : Bool) (index : Nat) : OnlyMissing (outline.meaning (some entries) keyed index) := by
  match outline with
  | .done => exact .ok _
  | .text value rest => exact (rest.onlyMissing entries keyed _).bind fun _ => .ok _
  | .shown term rest =>
    exact (term.onlyMissing entries).bind fun _ =>
      (rest.onlyMissing entries keyed _).bind fun _ => .ok _
  | .comment text rest => exact rest.onlyMissing entries keyed _
  | .element tag ns attrs children rest =>
    exact (children.onlyMissing entries true 0).bind fun _ =>
      (attrs.onlyMissing entries []).bind fun _ =>
        (rest.onlyMissing entries keyed _).bind fun _ => .ok _
  | .choice condition body others rest =>
    refine (condition.onlyMissing entries).bind fun value => .bind ?_ fun _ =>
      (rest.onlyMissing entries keyed _).bind fun _ => .ok _
    split
    · exact body.onlyMissing entries keyed _
    · exact others.onlyMissing entries keyed _

theorem Branches.onlyMissing (entries : Context) {place : Place} (branches : Branches place)
    (keyed : Bool) (index : Nat) : OnlyMissing (branches.meaning (some entries) keyed index) := by
  match branches with
  | .done => exact .ok _
  | .otherwise body => exact body.onlyMissing entries keyed _
  | .further condition body others =>
    refine (condition.onlyMissing entries).bind fun value => ?_
    split
    · exact body.onlyMissing entries keyed _
    · exact others.onlyMissing entries keyed _

theorem AttrOutline.onlyMissing (entries : Context) (attrs : AttrOutline)
    (props : List (String × Value)) : OnlyMissing (attrs.meaning (some entries) props) := by
  match attrs with
  | .done => exact .ok _
  | .plain name value rest => exact rest.onlyMissing entries _
  | .parts name value rest =>
    exact (value.onlyMissing entries false 0).bind fun _ => rest.onlyMissing entries _

end

theorem Outline.onlyMissing_page (fragmentTag : String) (entries : Context)
    (outline : Outline .content) : OnlyMissing (outline.page fragmentTag (some entries)) := by
  have fails := outline.onlyMissing entries (1 < outline.nodes.length) 0
  rw [Outline.page]
  generalize outline.meaning (some entries) _ 0 = outcome at fails
  cases outcome with
  | error e =>
    rintro _ ⟨⟩
    exact fails e rfl
  | ok values => exact .ok _

mutual

/-- A tree with the texts of its comments left out. -/
def Node.silent : Node → Node
  | .tag (.comment _) => .tag (.comment "")
  | .element tag ns attrs children => .element tag ns (silentAttrs attrs) (silentNodes children)
  | .fragment children => .fragment (silentNodes children)
  | node => node
termination_by structural node => node

def silentNodes : List Node → List Node
  | [] => []
  | node :: rest => node.silent :: silentNodes rest
termination_by structural nodes => nodes

def Attr.silent : Attr → Attr
  | .plain name value => .plain name value
  | .parts name value => .parts name (silentNodes value)
termination_by structural attr => attr

def silentAttrs : List Attr → List Attr
  | [] => []
  | attr :: rest => attr.silent :: silentAttrs rest
termination_by structural attrs => attrs

end

theorem length_silentNodes (nodes : List Node) : (silentNodes nodes).length = nodes.length := by
  induction nodes with
  | nil => rfl
  | cons node rest ih => rw [silentNodes, List.length_cons, List.length_cons, ih]

mutual

theorem compileNode_silent (node : Node) (key : Option Nat) (w : CodeWriter) :
    compileNode node.silent key w = compileNode node key w := by
  match node with
  | .text value => rfl
  | .tag tag => cases tag <;> rfl
  | .foreign kind => rfl
  | .fragment children =>
    rw [Node.silent, compileNode, compileNode, length_silentNodes, compileNodes_silent]
  | .element tag ns attrs children =>
    have inner (w : CodeWriter) :
        compileChildren (silentNodes children) w = compileChildren children w := by
      cases children with
      | nil => rfl
      | cons node rest =>
        exact congrArg (· >>= _) (compileNodes_silent true 0 (node :: rest) (openScope w))
    have named := funext (compileAttrs_silent attrs)
    rw [Node.silent, compileNode_element, compileNode_element, inner, named]
termination_by structural node

theorem compileNodes_silent (keyed : Bool) (index : Nat) (nodes : List Node) (w : CodeWriter) :
    compileNodes keyed index (silentNodes nodes) w = compileNodes keyed index nodes w := by
  match nodes with
  | [] => rfl
  | node :: rest =>
    rw [silentNodes, compileNodes, compileNodes, compileNode_silent node]
    exact congrArg _ (funext (compileNodes_silent keyed (index + 1) rest))
termination_by structural nodes

theorem compileAttr_silent (attr : Attr) (w : CodeWriter) :
    compileAttr attr.silent w = compileAttr attr w := by
  match attr with
  | .plain name value => rfl
  | .parts name value => rw [Attr.silent, compileAttr, compileAttr, compileNodes_silent]
termination_by structural attr

theorem compileAttrs_silent (attrs : List Attr) (w : CodeWriter) :
    compileAttrs (silentAttrs attrs) w = compileAttrs attrs w := by
  match attrs with
  | [] => rfl
  | attr :: rest =>
    rw [silentAttrs, compileAttrs, compileAttrs, compileAttr_silent attr]
    exact congrArg _ (funext (compileAttrs_silent rest))
termination_by structural attrs

end

/-- Trees that differ in the texts of their comments only have the same code. -/
theorem compile_silent (fragmentTag : String) (root : Node) :
    compile fragmentTag root.silent = compile fragmentTag root := by
  rw [compile, compile, compileLines, compileLines, compileNode_silent]

/-- Comments do not change the markup. A tree and the tree without some of its comments are both
compiled and loaded, and under every context they give the same markup or fail in the same way, over
the same name that the context does not have. Trees that differ in the texts of their comments only
have the same code. -/
theorem comments_leave_markup (fragmentTag : String) {outline : Outline .content}
    (shallow : outline.depth ≤ 98) {fewer : List Node}
    (removed : Uncommented outline.nodes fewer) :
    ∃ code routine code' routine',
      compile fragmentTag outline.root = .ok code ∧ load code = .ok routine ∧
      compile fragmentTag (.fragment fewer) = .ok code' ∧ load code' = .ok routine' ∧
      (∀ context, (routine.run context).map Markup.render =
        (routine'.run context).map Markup.render) ∧
      (∀ entries e, routine.run (some entries) = .error e → ∃ name, e = .missing name) ∧
      ∀ other : Node, other.silent = outline.root.silent → compile fragmentTag other = .ok code := by
  obtain ⟨outline', rfl, matching⟩ := outline.exists_matches removed
  obtain ⟨code, routine, compiled, loaded⟩ := exists_routine fragmentTag shallow
  obtain ⟨code', routine', compiled', loaded'⟩ :=
    exists_routine fragmentTag (matching.depth.trans_le shallow)
  refine ⟨code, routine, code', routine', compiled, loaded, compiled', loaded', ?_, ?_, ?_⟩
  · intro context
    rw [run_of_load compiled loaded, run_of_load compiled' loaded']
    exact matching.page fragmentTag context
  · intro entries e
    rw [run_of_load compiled loaded]
    exact outline.onlyMissing_page fragmentTag entries e
  · -- What is compiled is the tree without the texts of its comments.
    intro other same
    rw [← compile_silent, same, compile_silent]
    exact compiled

/-- Comments at the root, in a branch, and as the only child of an element and the only part of an
attribute. -/
def remarks : Outline .content :=
  .comment "first"
    (.element "p" none (.parts "title" (.comment "empty" .done) .done) (.comment "none" .done)
      (.choice (.lookup "open") (.comment "inside" (.text "a" .done)) .done .done))

theorem comments_leave_remarks : ∃ fewer code routine code' routine',
    Uncommented remarks.nodes fewer ∧ fewer.length = 4 ∧
      compile "div" remarks.root = .ok code ∧ load code = .ok routine ∧
      compile "div" (.fragment fewer) = .ok code' ∧ load code' = .ok routine' ∧
      ∀ context, (routine.run context).map Markup.render =
        (routine'.run context).map Markup.render := by
  have removed : Uncommented remarks.nodes _ :=
    .drop _ (.element _ _ (.parts _ (.drop _ .nil) .nil) (.drop _ .nil)
      (.tag _ (.drop _ (.text _ (.tag _ .nil)))))
  obtain ⟨code, routine, code', routine', compiled, loaded, compiled', loaded', same, -⟩ :=
    comments_leave_markup "div" (show remarks.depth ≤ 98 by decide) removed
  exact ⟨_, code, routine, code', routine', removed, rfl, compiled, loaded, compiled', loaded',
    same⟩

end HtmlTemplate
