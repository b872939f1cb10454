import HtmlTemplate.Html.Builder

/-!
The active formatting elements. They are opened again where other markup has closed them, and an
end tag for one of them rearranges the tree when blocks have been opened inside it.
-/

namespace HtmlTemplate.Html

def isEntry (h : Handle) (entry : Option Handle) : Bool := entry.any (·.id == h.id)

/-- The place of an element among the formatting elements. -/
def formattingIndex? (h : Handle) (formatting : List (Option Handle)) : Option Nat :=
  formatting.findIdx? (isEntry h)

def forget (h : Handle) (formatting : List (Option Handle)) : List (Option Handle) :=
  formatting.eraseP (isEntry h)

/-- Puts an element in the place of another among the formatting elements. -/
def exchange (old new : Handle) (formatting : List (Option Handle)) : List (Option Handle) :=
  formatting.map fun entry => if isEntry old entry then some new else entry

/-- The entries after the last marker, youngest first. -/
def sinceMarker (formatting : List (Option Handle)) : List Handle :=
  (formatting.reverse.takeWhile Option.isSome).filterMap id

/-- The youngest formatting element of a name since the last marker. -/
def formattingNamed? (name : String) (formatting : List (Option Handle)) : Option Handle :=
  (sinceMarker formatting).find? (·.name == name)

def addMarker : Parse Unit :=
  modify fun b => { b with formatting := b.formatting ++ [none] }

/-- Drops the entries since the last marker, and the marker. -/
def clearToMarker : Parse Unit :=
  modify fun b =>
    { b with formatting := ((b.formatting.reverse.dropWhile Option.isSome).drop 1).reverse }

/-- Whether two lists of attributes have the same names with the same values. -/
def sameAttrs (xs ys : Dom.Attrs) : Bool :=
  xs.length == ys.length && xs.all fun (name, value) =>
    match ys.find? (·.1 == name) with
    | some (_, other) => value == other
    | none => false

/-- Adds an element to the formatting elements. Of four that are alike since the last marker, the
oldest is dropped. -/
def addFormatting (h : Handle) : Parse Unit := do
  let b ← get
  let alike := (sinceMarker b.formatting).filter fun other =>
    other.name == h.name && other.ns == h.ns
      && sameAttrs (b.dom.attrsOf other.id) (b.dom.attrsOf h.id)
  let formatting :=
    -- They stand youngest first, and the new one is not among them yet.
    match alike with
    | _ :: _ :: oldest :: _ => forget oldest b.formatting
    | _ => b.formatting
  setFormatting (formatting ++ [some h])

/-- Opens an element like one that was closed. -/
def reopen (h : Handle) : Parse Handle := do
  let attrs := (← get).dom.attrsOf h.id
  insertWith h.name h.ns (attrs.map fun (name, value) => (.plain name, value))

/-- Opens the formatting elements again that are closed, as far back as the last one that is open or
a marker. -/
def reconstruct : Parse Unit := do
  let b ← get
  -- A marker is not lost, so nothing beyond the last one is opened again.
  let isLost : Option Handle → Bool := fun entry => entry.any fun h => !b.isOpen h
  let lost := (b.formatting.reverse.takeWhile isLost).reverse
  let kept := b.formatting.take (b.formatting.length - lost.length)
  let reopened ← lost.mapM fun entry =>
    match entry with
    | some h => do return some (← reopen h)
    | none => pure none
  setFormatting (kept ++ reopened)

/-- Inserts a formatting element for a start tag. -/
def insertFormatting (tag : StartTag) : Parse Unit := do
  addFormatting (← insertTag tag)

/-! Misnested end tags -/

/-- An end tag without rules of its own: closes the innermost element of its name, unless a special
element is in between. -/
def closeOther (name : String) : Parse Unit := do
  let b ← get
  match b.opened.find? fun h => h.name == name || isSpecial h with
  | some h =>
    if h.name == name then
      closeImplied (some name)
      popThrough (·.id == h.id)
  | none => pure ()

/-- Takes a node from its parent, if it has one. -/
def detach (h : Handle) : Parse Unit := do
  match (← get).dom.owner h.id with
  | some (.node parent) => onDom (Dom.remove parent h.id)
  | _ => pure ()

def cloneHandle (h : Handle) : Parse Handle := do
  let id ← onDom (Dom.cloneNode h.id)
  return { h with id }

/-- How far the elements between a formatting element and the block inside it are rebuilt. The open
elements are held outermost first. -/
structure Rebuilding where
  stack : List Handle
  last : Handle
  bookmark : Nat

/-- Rebuilds the elements between `target` and `block`, going outwards from the place `index`, at
most `steps` of them. Those that are not formatting elements are closed, the others are replaced by
clones, each around the one before. -/
def rebuildBetween (target block : Handle) :
    (steps : Nat) → (index : Nat) → Rebuilding → Parse Rebuilding
  | 0, _, r => pure r
  | steps + 1, index, r => do
    let index := index - 1
    match r.stack[index]? with
    | none => pure r
    | some node =>
      let formatting := (← get).formatting
      match formattingIndex? node formatting with
      -- What is no formatting element is closed and not rebuilt.
      | none => rebuildBetween target block steps index { r with stack := r.stack.eraseIdx index }
      | some place =>
        if node.id = target.id then pure r
        else
          -- The target will be put behind the innermost element that is rebuilt.
          let bookmark := if r.last.id = block.id then place + 1 else r.bookmark
          let clone ← cloneHandle node
          setFormatting (exchange node clone formatting)
          detach r.last
          onDom (Dom.append clone.id r.last.id)
          rebuildBetween target block steps index
            { stack := r.stack.set index clone, last := clone, bookmark }

/-- The text for a missing node in messages. -/
def missing : String := "None"

/-- Puts a rebuilt element under the element around the formatting element, or, where that is part
of a table, in front of the table. -/
def placeRebuilt (ancestor last : Handle) : Parse Unit := do
  detach last
  if tableNames.contains ancestor.name then
    let b ← get
    let (parent, before) := fosterPlace b
    match before with
    | some ref => onDom (Dom.insertBefore parent last.id ref)
    -- There is no table in the tree that the element could stand in front of.
    | none => throw (.notAChild missing (b.dom.nameOf parent))
  else onDom (Dom.append ancestor.id last.id)

/-- Moves the formatting element `target` inside `block`, the block it is misnested with, where
`ancestor` is the element around it. -/
def moveInside (target block ancestor : Handle) : Parse Unit := do
  let b ← get
  let stack := b.opened.reverse
  let start := (stack.findIdx? (·.id == block.id)).getD 0
  let bookmark := (formattingIndex? target b.formatting).getD 0
  -- At most three of the elements in between are rebuilt; the others stay as they are.
  let r ← rebuildBetween target block 3 start { stack, last := block, bookmark }
  setOpened r.stack.reverse
  placeRebuilt ancestor r.last
  -- The clone goes between the block and its children.
  let clone ← cloneHandle target
  onDom (Dom.reparentChildren block.id clone.id)
  onDom (Dom.append block.id clone.id)
  let formatting := forget target (← get).formatting
  setFormatting (formatting.take r.bookmark ++ some clone :: formatting.drop r.bookmark)
  -- It is open right inside the block, and active where the target was.
  let stack := r.stack.eraseP (·.id == target.id)
  let place := (stack.findIdx? (·.id == block.id)).getD 0 + 1
  setOpened (stack.take place ++ clone :: stack.drop place).reverse

/-- Processes the end tag of a formatting element, in at most `rounds` rounds. -/
def closeFormatting (name : String) : (rounds : Nat) → Parse Unit
  | 0 => pure ()
  | rounds + 1 => do
    let b ← get
    match formattingNamed? name b.formatting with
    | none => closeOther name
    | some target =>
      -- A closed element is only forgotten; one out of scope is closed as any other element.
      if !b.isOpen target then setFormatting (forget target b.formatting)
      else if !b.inScope target.name .plain then closeOther name
      else
        let stack := b.opened.reverse
        let place := (stack.findIdx? (·.id == target.id)).getD 0
        -- The outermost special element inside the target is the block that it has to go into.
        match (stack.drop place).find? isSpecial with
        | none =>
          popThrough (·.id == target.id)
          setFormatting (forget target b.formatting)
        | some block =>
          moveInside target block ((stack[place - 1]?).getD b.root)
          closeFormatting name rounds

end HtmlTemplate.Html
