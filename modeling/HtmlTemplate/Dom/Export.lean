import HtmlTemplate.Dom.Store

/-!
Export: the finished tree as a value. Comments and document types are left out. The leaves become
part of the exported tree, so from then on they hang from it.

A path down a tree meets each cell once, so the number of cells bounds its depth.

What is exported is made of objects that refer to one another: an element or a fragment is made anew,
a leaf is the node that was inserted, and both refer to the object that they became children of.
-/

namespace HtmlTemplate.Dom

def exportAttr : String × AttrValue → Attr
  | (name, .plain text) => .plain name text
  | (name, .parts parts) => .parts name (parts.map Part.node)

namespace Store

def isIgnored (s : Store) (id : NodeId) : Bool :=
  match s.content id with
  | .ignored => true
  | _ => false

def isLeaf (s : Store) (id : NodeId) : Bool :=
  match s.content id with
  | .leaf _ => true
  | _ => false

/-- The children that are exported. -/
def shown (s : Store) (id : NodeId) : List NodeId :=
  (s.children id).filter fun child => !s.isIgnored child

def exportNode (s : Store) : (fuel : Nat) → NodeId → Node
  | 0, _ => .fragment []
  | fuel + 1, id =>
    match s.content id with
    | .fragment => .fragment ((s.shown id).map (s.exportNode fuel))
    | .element name ns attrs =>
      .element name ns (attrs.map exportAttr) ((s.shown id).map (s.exportNode fuel))
    | .leaf part => part.node
    -- Asked for by itself, an ignored node is given back as it is.
    | .ignored => .foreign "IgnoredNode"

/-- The leaves that become part of the exported tree. -/
def leavesBelow (s : Store) : (fuel : Nat) → NodeId → List NodeId
  | 0, _ => []
  | fuel + 1, id =>
    (s.shown id).flatMap fun child =>
      if s.isLeaf child then [child] else s.leavesBelow fuel child

/-- The tree below a node. -/
def tree (s : Store) (id : NodeId) : Node := s.exportNode (s.cells.size + 1) id

end Store

/-! Objects -/

/-- What tells an exported object from others. -/
inductive ObjectName where
  | leaf (id : NodeId)
  /-- The number of objects made before. -/
  | made (number : Nat)
  deriving DecidableEq, Repr

/-- An exported object, with the node that it stands for. -/
inductive Object where
  | mk (name : ObjectName) (source : NodeId) (children : List Object)

namespace Object

def name : Object → ObjectName
  | .mk name _ _ => name

def source : Object → NodeId
  | .mk _ source _ => source

def children : Object → List Object
  | .mk _ _ children => children

end Object

/-- An export under way. -/
structure Export where
  made : Nat := 0
  /-- The parents that objects have been given, by their names; the last one counts. -/
  parents : List (ObjectName × ObjectName) := []

namespace Export

/-- Makes an object, and the parent of its children. -/
def make (source : NodeId) (children : List Object) (e : Export) : Object × Export :=
  let name := ObjectName.made e.made
  (.mk name source children,
    { made := e.made + 1
      parents := e.parents ++ children.map fun child => (child.name, name) })

def parent? (e : Export) (name : ObjectName) : Option ObjectName :=
  (e.parents.reverse.find? fun entry => entry.1 == name).map (·.2)

end Export

namespace Store

def isContainer (s : Store) (id : NodeId) : Bool :=
  match s.content id with
  | .fragment => true
  | .element .. => true
  | _ => false

/-- Exports nodes one after the other. -/
def exportAll (visit : NodeId → Export → Object × Export) :
    List NodeId → Export → List Object × Export
  | [], e => ([], e)
  | id :: rest, e =>
    let (object, e) := visit id e
    let (objects, e) := exportAll visit rest e
    (object :: objects, e)

/-- The object of a node: its children first. -/
def exportObject (s : Store) : (fuel : Nat) → NodeId → Export → Object × Export
  | 0, id, e => (.mk (.leaf id) id [], e)
  | fuel + 1, id, e =>
    if s.isContainer id then
      let (children, e) := exportAll (s.exportObject fuel) (s.shown id) e
      e.make id children
    else (.mk (.leaf id) id [], e)

/-- The objects of the tree below a node. -/
def objects (s : Store) (id : NodeId) : Object × Export :=
  s.exportObject (s.cells.size + 1) id {}

end Store

mutual

/-- Whether the objects below an object refer to the objects that they are children of. -/
def Object.isLinked (e : Export) : Object → Bool
  | .mk name _ children => areLinked e name children
termination_by structural object => object

def areLinked (e : Export) (parent : ObjectName) : List Object → Bool
  | [] => true
  | child :: rest =>
    e.parent? child.name == some parent && child.isLinked e && areLinked e parent rest
termination_by structural objects => objects

end

/-- Exports a node and hands its leaves over to the exported tree. -/
def exportTree (id : NodeId) : Build Node := do
  let s ← get
  let leaves := s.leavesBelow (s.cells.size + 1) id
  set (leaves.foldl (fun s leaf => s.setOwner leaf (some .exported)) s)
  return s.tree id

end HtmlTemplate.Dom
