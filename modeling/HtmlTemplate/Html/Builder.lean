import HtmlTemplate.Dom.Export
import HtmlTemplate.Html.Element
import HtmlTemplate.Html.Scan

/-!
The state of the tree builder and its basic moves. The open elements are kept innermost first, the
active formatting elements oldest first, with `none` for a marker.

Where foster parenting is on, what would go into a table goes in front of it instead.
-/

namespace HtmlTemplate.Html

/-- The insertion modes that a fragment can be in. -/
inductive Mode where
  | beforeHead
  | inHead
  | inHeadNoscript
  | afterHead
  | inBody
  | text
  | inTable
  | inTableText
  | inCaption
  | inColumnGroup
  | inTableBody
  | inRow
  | inCell
  | inSelect
  | inSelectInTable
  | afterBody
  | inFrameset
  deriving DecidableEq, Repr

structure Builder where
  dom : Dom.Store
  /-- The name of the element that the fragment is the content of. -/
  container : String
  opened : List Handle := []
  formatting : List (Option Handle) := []
  head : Option Handle := none
  form : Option Handle := none
  mode : Mode := .inBody
  /-- The mode to go back to after the text of an element. -/
  textReturn : Mode := .inBody
  /-- The mode to go back to after text in a table, and that text. -/
  tableReturn : Mode := .inTable
  tableText : List Char := []
  foster : Bool := false
  framesetOk : Bool := true
  /-- Whether a line break at the front of the next white space is dropped. -/
  dropNewline : Bool := false
  model : ContentModel := .data
  lastStart : Option String := none

/-- The builder keeps its state also when it fails. -/
abbrev Parse := EStateM Dom.Failure Builder

/-- A rule for a token: it may hand on a token that is to be processed again. -/
abbrev Rule := Parse (Option Token)

def onDom {α : Type} (act : Dom.Build α) : Parse α := fun b =>
  match act b.dom with
  | .ok result dom => .ok result { b with dom }
  | .error e dom => .error e { b with dom }

/-- Nothing is left to do for the token. -/
def handled : Rule := pure none

/-- The token is to be processed again. -/
def again (token : Token) : Rule := pure (some token)

namespace Builder

/-- The innermost open element. -/
def current (b : Builder) : Handle := b.opened.headD { id := 0, name := "html", ns := none }

/-- The outermost open element. -/
def root (b : Builder) : Handle := b.opened.getLastD { id := 0, name := "html", ns := none }

def defaultNs (b : Builder) : Option String := b.dom.setup.ns

def inScope (b : Builder) (name : String) (scope : Scope) : Bool :=
  foundInScope (·.isHtml name) scope b.opened

def isOpen (b : Builder) (h : Handle) : Bool := b.opened.any (·.id == h.id)

end Builder

def currentName : Parse String := return (← get).current.name

def setMode (mode : Mode) : Parse Unit := modify fun b => { b with mode }

def setModel (model : ContentModel) : Parse Unit := modify fun b => { b with model }

def setFramesetOk (framesetOk : Bool) : Parse Unit := modify fun b => { b with framesetOk }

def setOpened (opened : List Handle) : Parse Unit := modify fun b => { b with opened }

def setFormatting (formatting : List (Option Handle)) : Parse Unit :=
  modify fun b => { b with formatting }

/-! Open elements -/

/-- Closes the innermost open element. -/
def pop : Parse Unit := modify fun b => { b with opened := b.opened.drop 1 }

def push (h : Handle) : Parse Unit := modify fun b => { b with opened := h :: b.opened }

/-- Closes elements up to one that passes a test, and that one too. -/
def popThrough (last : Handle → Bool) : Parse Unit :=
  modify fun b => { b with opened := (b.opened.dropWhile fun h => !last h).drop 1 }

/-- Closes elements as long as they have none of the given names. -/
def popTo (names : List String) : Parse Unit :=
  modify fun b => { b with opened := b.opened.dropWhile fun h => !names.contains h.name }

/-- Closes the elements whose end tag may be left out, except for one name. -/
def closeImplied (except : Option String) : Parse Unit :=
  modify fun b =>
    { b with opened := b.opened.dropWhile fun h =>
        impliedEndNames.contains h.name && some h.name != except }

/-- Takes an element out of the open elements, wherever it stands. -/
def closeElement (h : Handle) : Parse Unit :=
  modify fun b => { b with opened := b.opened.eraseP (·.id == h.id) }

/-! Insertion -/

/-- Where misplaced content goes: in front of the innermost table, or at the end of the element
that is open around it. -/
def fosterPlace (b : Builder) : Dom.NodeId × Option Dom.NodeId :=
  match b.opened.dropWhile (·.name != "table") with
  | [] => (b.root.id, none)
  | table :: outer =>
    match b.dom.owner table.id with
    | some (.node parent) => (parent, some table.id)
    -- The table hangs from nothing.
    | _ => ((outer.headD b.current).id, none)

abbrev RawAttrs := List (Dom.AttrName × Dom.AttrValue)

def rawAttrs (attrs : List (String × String)) : RawAttrs :=
  attrs.map fun (name, value) => (.plain name, .plain value)

def createElement (name : String) (ns : Option String) (attrs : RawAttrs) : Parse Handle := do
  let id ← onDom (Dom.createElement name ns attrs)
  return { id, name, ns }

/-- Opens a new element inside the innermost one. -/
def insertPlain (name : String) (ns : Option String) (attrs : RawAttrs) : Parse Handle := do
  let h ← createElement name ns attrs
  onDom (Dom.append (← get).current.id h.id)
  push h
  return h

/-- Opens a new element. When foster parenting is on but turns out not to apply, the element that
was made for it is given up and made anew. -/
def insertWith (name : String) (ns : Option String) (attrs : RawAttrs) : Parse Handle := do
  if (← get).foster then
    let h ← createElement name ns attrs
    if tableNames.contains (← currentName) then
      let (parent, before) := fosterPlace (← get)
      match before with
      | some ref => onDom (Dom.insertBefore parent h.id ref)
      | none => onDom (Dom.append parent h.id)
      push h
      return h
    -- The attributes are adapted once more, and take directives once more.
    else insertPlain name ns attrs
  else insertPlain name ns attrs

/-- Opens an HTML element for a start tag. -/
def insertTag (tag : StartTag) : Parse Handle := do
  insertWith tag.name (← get).defaultNs (rawAttrs tag.attrs)

/-- Opens an HTML element that no tag stands for. -/
def insertImplied (name : String) : Parse Handle := insertTag { name }

def insertText (data : List Char) : Parse Unit := do
  let b ← get
  if b.foster && tableNames.contains b.current.name then
    let (parent, before) := fosterPlace b
    onDom (Dom.insertText parent data before)
  else onDom (Dom.insertText b.current.id data none)

def insertComment (parent : Handle) (data : List Char) : Parse Unit := do
  let id ← onDom (Dom.newComment data)
  onDom (Dom.append parent.id id)

/-- Runs a rule with foster parenting on. -/
def fostering {α : Type} (act : Parse α) : Parse α := do
  modify fun b => { b with foster := true }
  let result ← act
  modify fun b => { b with foster := false }
  return result

/-! Modes -/

/-- The mode that an open element of a name calls for. -/
def modeOfName? (name : String) : Option Mode :=
  if name = "select" then some .inSelect
  else if name = "td" ∨ name = "th" then some .inCell
  else if name = "tr" then some .inRow
  else if name = "tbody" ∨ name = "thead" ∨ name = "tfoot" then some .inTableBody
  else if name = "caption" then some .inCaption
  else if name = "colgroup" then some .inColumnGroup
  else if name = "table" then some .inTable
  else if name = "head" ∨ name = "body" then some .inBody
  else if name = "frameset" then some .inFrameset
  else if name = "html" then some .beforeHead
  else none

/-- The mode for a list of open elements; the outermost counts as the container. -/
def modeFor (defaultNs : Option String) (container : String) : List Handle → Mode
  | [] => .inBody
  | [_] => (modeOfName? container).getD .inBody
  | h :: rest =>
    -- A foreign element calls for no mode, whatever its name.
    if h.ns != defaultNs then modeFor defaultNs container rest
    else (modeOfName? h.name).getD (modeFor defaultNs container rest)

def resetMode : Parse Unit :=
  modify fun b => { b with mode := modeFor b.defaultNs b.container b.opened }

end HtmlTemplate.Html
