import HtmlTemplate.Code.Compile
import HtmlTemplate.Code.Run

/-!
Trees whose branches are bracketed within each list of nodes, and what they mean. An outline is
such a list of nodes, cut into texts, directives, elements and blocks of branches. Its meaning is
the list of values that it contributes to a page, by recursion over the outline.
-/

namespace HtmlTemplate

open Code

/-- What stands in a directive: a truth value, a text, a number, or the name of a context value. -/
inductive Term where
  | bool (b : Bool)
  | str (s : String)
  | float (x : Float)
  | lookup (name : String)

namespace Term

def expr : Term → Expr
  | .bool b => .literal (.bool b)
  | .str s => .literal (.str s)
  | .float x => .literal (.float x)
  | .lookup name => .variable name

def value (context : Option Context) : Term → Except RunError Value
  | .bool b => .ok (.bool b)
  | .str s => .ok (.str s)
  | .float x => .ok (.float x)
  | .lookup name =>
    match context with
    | none => .error .noContext
    | some entries =>
      match entries.find? (·.1 == name) with
      | some (_, value) => .ok value
      | none => .error (.missing name)

end Term

/-- Where a list of nodes stands. The value of an attribute has no elements. -/
inductive Place where
  | content
  | attribute
  deriving DecidableEq, Repr

mutual

/-- A list of nodes in which every block of branches is closed, and nothing else is. -/
inductive Outline : Place → Type where
  | done {place : Place} : Outline place
  | text {place : Place} (value : String) (rest : Outline place) : Outline place
  | shown {place : Place} (term : Term) (rest : Outline place) : Outline place
  | comment {place : Place} (text : String) (rest : Outline place) : Outline place
  | element (tag : String) (ns : Option String) (attrs : AttrOutline)
      (children rest : Outline .content) : Outline .content
  | choice {place : Place} (condition : Term) (body : Outline place) (others : Branches place)
      (rest : Outline place) : Outline place

/-- The branches of a block after its first. -/
inductive Branches : Place → Type where
  | done {place : Place} : Branches place
  | otherwise {place : Place} (body : Outline place) : Branches place
  | further {place : Place} (condition : Term) (body : Outline place) (others : Branches place) :
      Branches place

/-- The attributes of an element. -/
inductive AttrOutline : Type where
  | done : AttrOutline
  | plain (name value : String) (rest : AttrOutline) : AttrOutline
  | parts (name : String) (value : Outline .attribute) (rest : AttrOutline) : AttrOutline

end

mutual

/-- The nodes that an outline stands for. -/
def Outline.nodes {place : Place} : Outline place → List Node
  | .done => []
  | .text value rest => .text value :: rest.nodes
  | .shown term rest => .tag (.expression term.expr) :: rest.nodes
  | .comment text rest => .tag (.comment text) :: rest.nodes
  | .element tag ns attrs children rest => .element tag ns attrs.attrs children.nodes :: rest.nodes
  | .choice condition body others rest =>
    .tag (.ifTag condition.expr) ::
      (body.nodes ++ (others.nodes ++ .tag .endIfTag :: rest.nodes))
termination_by structural outline => outline

def Branches.nodes {place : Place} : Branches place → List Node
  | .done => []
  | .otherwise body => .tag .elseTag :: body.nodes
  | .further condition body others =>
    .tag (.elifTag condition.expr) :: (body.nodes ++ others.nodes)
termination_by structural branches => branches

def AttrOutline.attrs : AttrOutline → List Attr
  | .done => []
  | .plain name value rest => .plain name value :: rest.attrs
  | .parts name value rest => .parts name value.nodes :: rest.attrs
termination_by structural outline => outline

end

mutual

/-- How deep blocks of branches stand in one another. Elements do not count. -/
def Outline.depth {place : Place} : Outline place → Nat
  | .done => 0
  | .text _ rest => rest.depth
  | .shown _ rest => rest.depth
  | .comment _ rest => rest.depth
  | .element _ _ attrs children rest => max (max children.depth attrs.depth) rest.depth
  | .choice _ body others rest => max (max body.depth others.depth + 1) rest.depth
termination_by structural outline => outline

def Branches.depth {place : Place} : Branches place → Nat
  | .done => 0
  | .otherwise body => body.depth
  | .further _ body others => max body.depth others.depth
termination_by structural branches => branches

def AttrOutline.depth : AttrOutline → Nat
  | .done => 0
  | .plain _ _ rest => rest.depth
  | .parts _ value rest => max value.depth rest.depth
termination_by structural outline => outline

end

/-- The properties of an element with the key that its place among its siblings gives it. -/
def keyedProps (keyed : Bool) (index : Nat) (props : List (String × Value)) :
    List (String × Value) :=
  if keyed then assign "key" (.str (Decimal.writeInt index)) props else props

mutual

/-- The values that an outline contributes, the first of its nodes standing at `index`. A block of
branches contributes its first branch whose condition is true, and an element is one value. -/
def Outline.meaning (context : Option Context) (keyed : Bool) {place : Place} :
    Outline place → (index : Nat) → Except RunError (List Value)
  | .done, _ => .ok []
  | .text value rest, index => do
    let values ← rest.meaning context keyed (index + 1)
    return .str value :: values
  | .shown term rest, index => do
    let value ← term.value context
    let values ← rest.meaning context keyed (index + 1)
    return .str value.text :: values
  | .comment _ rest, index => rest.meaning context keyed (index + 1)
  | .element tag _ attrs children rest, index => do
    let inner ← children.meaning context true 0
    let props ← attrs.meaning context []
    let values ← rest.meaning context keyed (index + 1)
    let children := if inner.isEmpty then .none else .list inner
    return .vnode tag (keyedProps keyed index props) children :: values
  | .choice condition body others rest, index => do
    let value ← condition.value context
    let chosen ←
      (if value.truth then body.meaning context keyed (index + 1)
      else others.meaning context keyed (index + 1 + body.nodes.length))
    let values ←
      rest.meaning context keyed
        (index + 1 + body.nodes.length + others.nodes.length + 1)
    return chosen ++ values
termination_by structural outline => outline

def Branches.meaning (context : Option Context) (keyed : Bool) {place : Place} :
    Branches place → (index : Nat) → Except RunError (List Value)
  | .done, _ => .ok []
  | .otherwise body, index => body.meaning context keyed (index + 1)
  | .further condition body others, index => do
    let value ← condition.value context
    if value.truth then body.meaning context keyed (index + 1)
    else others.meaning context keyed (index + 1 + body.nodes.length)
termination_by structural branches => branches

/-- The properties that attributes add to those before them; of equal names the last one counts. -/
def AttrOutline.meaning (context : Option Context) :
    AttrOutline → (props : List (String × Value)) → Except RunError (List (String × Value))
  | .done, props => .ok props
  | .plain name value rest, props =>
    rest.meaning context (assign (propName name) (.str value) props)
  | .parts name value rest, props => do
    let values ← value.meaning context false 0
    let joined := String.join (values.map Value.text)
    rest.meaning context (assign (propName name) (.str joined) props)
termination_by structural outline => outline

end

/-- What a whole page is: one value is the page, several are wrapped into an element. -/
def pageOf (fragmentTag : String) : List Value → Value
  | [] => .none
  | [value] => value
  | values => .vnode fragmentTag [] (.list values)

namespace Outline

def root (outline : Outline .content) : Node := .fragment outline.nodes

/-- The page of an outline. Its nodes have keys where there are several of them. -/
def page (fragmentTag : String) (context : Option Context) (outline : Outline .content) :
    Except RunError Value :=
  (outline.meaning context (1 < outline.nodes.length) 0).map (pageOf fragmentTag)

end Outline

end HtmlTemplate
