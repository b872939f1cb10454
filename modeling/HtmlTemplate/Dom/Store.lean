import HtmlTemplate.Queue
import HtmlTemplate.Text.Lowercase
import HtmlTemplate.Text.Pieces
import HtmlTemplate.Tree

/-!
A tree under construction. Nodes are cells of a store, known by their place in it; a cell lists its
children and names its owner. Appending and inserting never take a node from where it was before,
so it is up to the caller to keep the store a tree.

The store also holds the queue of directives: whenever text is inserted or attributes are set, each
placeholder in them takes the next directive. An operation that fails keeps what it has taken from
the queue and leaves the tree as it was.
-/

namespace HtmlTemplate.Dom

abbrev NodeId := Nat

/-- The value of an attribute: as it is written, or in parts where directives take part in it. -/
inductive AttrValue where
  | plain (text : String)
  | parts (parts : List Part)
  deriving BEq

abbrev Attrs := List (String × AttrValue)

inductive Content where
  | fragment
  | element (name : String) (ns : Option String) (attrs : Attrs)
  | leaf (part : Part)
  /-- A comment or a document type, which holds a place and is not exported. -/
  | ignored

/-- What a node hangs from: a node of the store, or the exported tree. -/
inductive Owner where
  | node (id : NodeId)
  | exported
  deriving DecidableEq, Repr

structure Cell where
  content : Content
  children : List NodeId := []
  owner : Option Owner := none

/-- What is fixed while a tree is built. -/
structure Setup where
  sentinel : List Char
  /-- Names of attributes whose empty value means that they are set, in lower case. -/
  booleans : List String
  /-- The namespace of HTML elements. -/
  ns : Option String

structure Store where
  setup : Setup
  queue : Queue
  cells : Array Cell := #[]

/-- How building a tree can fail. -/
inductive Failure where
  | placeholder (error : PlaceholderError)
  /-- A node is not among the children of another; both are described by a text. -/
  | notAChild (child parent : String)
  /-- Text cannot be cut at an empty placeholder. -/
  | emptySentinel
  /-- A directive stands where the kind of a foreign annotation is asked for. -/
  | partsForText
  /-- A numeric reference has more digits than are read. -/
  | overlong (digits : Nat)
  /-- A leaf is asked for what only elements and fragments can do. -/
  | noOperation (kind operation : String)
  /-- A comment or a document type is asked for it. -/
  | notImplemented
  /-- The children of a node are moved to the node itself, which never comes to an end. -/
  | unending
  deriving DecidableEq, Repr

/-- Building keeps the store also when it fails. -/
abbrev Build := EStateM Failure Store

namespace Store

def cell (s : Store) (id : NodeId) : Cell := (s.cells[id]?).getD { content := .ignored }

def children (s : Store) (id : NodeId) : List NodeId := (s.cell id).children

def owner (s : Store) (id : NodeId) : Option Owner := (s.cell id).owner

def content (s : Store) (id : NodeId) : Content := (s.cell id).content

def modifyCell (s : Store) (id : NodeId) (f : Cell → Cell) : Store :=
  { s with cells := s.cells.modify id f }

def setChildren (s : Store) (id : NodeId) (children : List NodeId) : Store :=
  s.modifyCell id fun cell => { cell with children }

def setOwner (s : Store) (id : NodeId) (owner : Option Owner) : Store :=
  s.modifyCell id fun cell => { cell with owner }

def setContent (s : Store) (id : NodeId) (content : Content) : Store :=
  s.modifyCell id fun cell => { cell with content }

/-- Adds a node that hangs from nothing. -/
def add (s : Store) (content : Content) : NodeId × Store :=
  (s.cells.size, { s with cells := s.cells.push { content } })

/-- The name of a node in messages. -/
def nameOf (s : Store) (id : NodeId) : String :=
  match s.content id with
  | .element name _ _ => name
  | _ => "None"

/-- A node as it is described in messages. -/
def describe (s : Store) (id : NodeId) : String :=
  match s.content id with
  | .leaf part => part.write
  | _ => "<" ++ s.nameOf id ++ ">"

/-- The text of a leaf that holds text. -/
def textOf? (s : Store) (id : NodeId) : Option String :=
  match s.content id with
  | .leaf (.text value) => some value
  | _ => none

/-- The attributes of an element. -/
def attrsOf (s : Store) (id : NodeId) : Attrs :=
  match s.content id with
  | .element _ _ attrs => attrs
  | _ => []

end Store

/-! Expansion -/

/-- Joins pieces of text with directives from the queue, leaving empty pieces out. -/
def joinPieces : List (List Char) → Queue → Except PlaceholderError (List Part) × Queue
  | [], queue => (.ok [], queue)
  | [piece], queue => (.ok (textPart piece), queue)
  | piece :: rest, queue =>
    match queue.pop with
    | .error e => (.error e, queue)
    | .ok (tag, queue) =>
      let (joined, queue) := joinPieces rest queue
      (joined.map fun parts => textPart piece ++ .tag tag :: parts, queue)
where
  textPart (piece : List Char) : List Part :=
    if piece.isEmpty then [] else [.text (String.ofList piece)]

/-- The parts of a text: each placeholder in it takes the next directive. -/
def expand (text : List Char) : Build (List Part) := fun s =>
  if s.setup.sentinel.isEmpty then .error .emptySentinel s
  else
    let (joined, queue) := joinPieces (Text.pieces s.setup.sentinel text) s.queue
    let s := { s with queue }
    match joined with
    | .ok parts => .ok parts s
    | .error e => .error (.placeholder e) s

/-! Attributes -/

/-- The name of an attribute as a parser reports it; a qualified name has a namespace too. -/
inductive AttrName where
  | plain (name : String)
  | qualified (qualifier : Option String) (name : String) (ns : Option String)
  deriving BEq

def AttrName.flatten : AttrName → String
  | .plain name => name
  | .qualified qualifier name _ =>
    match qualifier with
    | some q => if q.isEmpty then name else q ++ ":" ++ name
    | none => name

def isBoolean (booleans : List String) (name : String) : Bool :=
  booleans.contains (Text.lower name)

/-- The value of a new attribute: expanded where it has a placeholder; the name itself for the empty
value of a boolean attribute. -/
def adaptValue (name : String) : AttrValue → Build AttrValue
  -- The value of a clone has been expanded already.
  | .parts parts => pure (.parts parts)
  | .plain text => do
    let setup := (← get).setup
    if Text.occursIn setup.sentinel text.toList then
      return .parts (← expand text.toList)
    else if text.isEmpty && isBoolean setup.booleans name then
      return .plain name
    else
      return .plain text

/-- Adapts attributes in order; of equal names the first gives the place and the last the value. -/
def adaptAttributes (attrs : List (AttrName × AttrValue)) : Build Attrs :=
  go [] attrs
where
  go (adapted : Attrs) : List (AttrName × AttrValue) → Build Attrs
    | [] => pure adapted
    | (rawName, value) :: rest => do
      let value ← adaptValue rawName.flatten value
      go (assign rawName.flatten value adapted) rest

/-! Operations -/

def newNode (content : Content) : Build NodeId := fun s =>
  let (id, s) := s.add content
  .ok id s

/-- An element without attributes. -/
def newElement (name : String) (ns : Option String) : Build NodeId :=
  newNode (.element name ns [])

/-- An element with attributes, created only when they can be adapted. -/
def createElement (name : String) (ns : Option String) (attrs : List (AttrName × AttrValue)) :
    Build NodeId := do
  newNode (.element name ns (← adaptAttributes attrs))

/-- Replaces the attributes of an element. A fragment takes directives for attributes it does not
show; leaves and ignored nodes take none. -/
def setAttributes (id : NodeId) (attrs : List (AttrName × AttrValue)) : Build Unit := do
  match (← get).content id with
  | .element name ns _ =>
    let attrs ← adaptAttributes attrs
    modify fun s => s.setContent id (.element name ns attrs)
  | .fragment => discard (adaptAttributes attrs)
  | _ => pure ()

/-- A comment takes the directives of its text. -/
def newComment (data : List Char) : Build NodeId := do
  discard (expand data)
  newNode .ignored

/-- A node with the same name, namespace and attributes, and no children. It is elements that are
cloned while a page is read. -/
def cloneNode (id : NodeId) : Build NodeId := do
  match (← get).content id with
  | .element name ns attrs => newNode (.element name ns attrs)
  | content => newNode content

/-- The place of a node among the children of another. -/
def childIndex (parent child : NodeId) : Build Nat := fun s =>
  match (s.children parent).idxOf? child with
  | some index => .ok index s
  | none => .error (.notAChild (s.describe child) (s.nameOf parent)) s

def append (parent child : NodeId) : Build Unit :=
  modify fun s =>
    (s.setChildren parent (s.children parent ++ [child])).setOwner child (some (.node parent))

/-- Inserts nodes in front of the child at a place. -/
def insertAt (parent : NodeId) (index : Nat) (nodes : List NodeId) : Build Unit :=
  modify fun s =>
    let children := s.children parent
    let s := s.setChildren parent (children.take index ++ nodes ++ children.drop index)
    nodes.foldl (fun s node => s.setOwner node (some (.node parent))) s

def insertBefore (parent child ref : NodeId) : Build Unit := do
  insertAt parent (← childIndex parent ref) [child]

def remove (parent child : NodeId) : Build Unit := do
  let index ← childIndex parent child
  modify fun s =>
    (s.setChildren parent ((s.children parent).eraseIdx index)).setOwner child none

/-- Appends a part; text joins a text that stands last. -/
def appendPart (parent : NodeId) (part : Part) : Build Unit := do
  let s ← get
  let last := (s.children parent).getLast?
  match part, last, last.bind s.textOf? with
  | .text value, some id, some before => set (s.setContent id (.leaf (.text (before ++ value))))
  -- A directive joins nothing, and text joins nothing but text.
  | _, _, _ =>
    let id ← newNode (.leaf part)
    append parent id

/-- Inserts text, at the end or in front of a child. The text is expanded before anything is
inserted, and the child is looked for only when there is something to insert. -/
def insertText (parent : NodeId) (data : List Char) (ref : Option NodeId) : Build Unit := do
  let parts ← expand data
  match ref with
  | none => parts.forM (appendPart parent)
  | some ref =>
    if !parts.isEmpty then
      let index ← childIndex parent ref
      let nodes ← parts.mapM fun part => newNode (.leaf part)
      insertAt parent index nodes

/-- Appends the children of one node to another, and leaves the first without children. -/
def reparentChildren (source target : NodeId) : Build Unit := do
  let children := (← get).children source
  children.forM (append target)
  modify fun s => s.setChildren source []

def hasContent (id : NodeId) : Build Bool := do
  return !((← get).children id).isEmpty

end HtmlTemplate.Dom
