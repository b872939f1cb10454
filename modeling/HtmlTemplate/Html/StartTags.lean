import HtmlTemplate.Html.EndTags

/-!
What start tags do in each mode, and in foreign content.
-/

namespace HtmlTemplate.Html

/-- Opens an element whose content is text of its own kind. -/
def startText (tag : StartTag) (model : ContentModel) : Parse Unit := do
  discard (insertTag tag)
  modify fun b => { b with model, textReturn := b.mode, mode := .text }

/-- Opens an element and closes it at once. -/
def insertVoid (tag : StartTag) : Parse Unit := do
  discard (insertTag tag)
  pop

/-! The head -/

def headStart (tag : StartTag) : Rule := do
  if tag.name = "html" ∨ tag.name = "head" then handled
  else if tag.name = "title" then
    startText tag .rcdata
    handled
  else if tag.name = "noframes" ∨ tag.name = "style" then
    startText tag .rawtext
    handled
  else if tag.name = "noscript" then
    discard (insertTag tag)
    setMode .inHeadNoscript
    handled
  else if tag.name = "script" then
    startText tag (.script .plain)
    handled
  else if ["base", "basefont", "bgsound", "command", "link", "meta"].contains tag.name then
    insertVoid tag
    handled
  else
    -- Anything else belongs to the body.
    leaveHead
    again (.start tag)

def headNoscriptStart (tag : StartTag) : Rule := do
  if ["basefont", "bgsound", "link", "meta", "noframes", "style"].contains tag.name then
    headStart tag
  else if ["html", "head", "noscript"].contains tag.name then handled
  else
    leaveNoscript
    again (.start tag)

/-- An element of the head after the head: the head is opened once more for it. -/
def startInHead (tag : StartTag) : Parse Unit := do
  match (← get).head with
  | some head => push head
  | none => pure ()
  discard (headStart tag)
  modify fun b => { b with opened := b.opened.eraseP (·.name == "head") }

def afterHeadStart (tag : StartTag) : Rule := do
  if tag.name = "body" then
    setFramesetOk false
    discard (insertTag tag)
    setMode .inBody
    handled
  else if tag.name = "frameset" then
    discard (insertTag tag)
    setMode .inFrameset
    handled
  else if ["base", "basefont", "bgsound", "link", "meta", "noframes", "script", "style",
      "title"].contains tag.name then
    startInHead tag
    handled
  else if tag.name = "html" ∨ tag.name = "head" then handled
  else
    startBody
    again (.start tag)

/-! The body -/

/-- The body element, if it is the second open element. -/
def openBody? (b : Builder) : Option Handle :=
  match b.opened.reverse with
  | _ :: second :: _ => if second.name = "body" then some second else none
  | _ => none

/-- A second body gives the first the attributes that it lacks, as they are written. -/
def startSecondBody (tag : StartTag) : Parse Unit := do
  match openBody? (← get) with
  | none => pure ()
  | some body =>
    setFramesetOk false
    modify fun b =>
      match b.dom.content body.id with
      | .element name ns attrs =>
        let added := tag.attrs.filter fun (name, _) => !attrs.any (·.1 == name)
        let attrs := attrs ++ added.map fun (name, value) => (name, .plain value)
        { b with dom := b.dom.setContent body.id (.element name ns attrs) }
      | _ => b

/-- A frame set takes the place of a body that has nothing to show yet. -/
def startFrameset (tag : StartTag) : Parse Unit := do
  let b ← get
  match openBody? b with
  | none => pure ()
  | some body =>
    if b.framesetOk then
      detach body
      popTo ["html"]
      discard (insertTag tag)
      setMode .inFrameset

/-- Elements that a start tag closes before a list item starts. -/
def listItemStops (name : String) : List String := if name = "li" then ["li"] else ["dt", "dd"]

/-- The open list item that a new one ends. -/
def openListItem? (name : String) : List Handle → Option String
  | [] => none
  | h :: rest =>
    if (listItemStops name).contains h.name then some h.name
    else if isSpecial h && !(["address", "div", "p"].contains h.name) then none
    else openListItem? name rest

def startListItem (tag : StartTag) : Parse Unit := do
  setFramesetOk false
  match openListItem? tag.name (← get).opened with
  -- The end tag goes by the rules of the mode, which need not be those of the body.
  | some name => discard (endTag (← get).mode name)
  | none => pure ()
  if (← get).inScope "p" .button then discard (endTag (← get).mode "p")
  discard (insertTag tag)

def startAnchor (tag : StartTag) : Parse Unit := do
  match formattingNamed? "a" (← get).formatting with
  | some anchor =>
    closeFormatting "a" 8
    -- The end tag may have found nothing to close, so the anchor is taken out by hand.
    closeElement anchor
    modify fun b => { b with formatting := forget anchor b.formatting }
  | none => pure ()
  reconstruct
  insertFormatting tag

def startNobr (tag : StartTag) : Parse Unit := do
  reconstruct
  if (← get).inScope "nobr" .plain then
    closeFormatting "nobr" 8
    reconstruct
  insertFormatting tag

def startVoidFormatting (tag : StartTag) : Parse Unit := do
  reconstruct
  insertVoid tag
  setFramesetOk false

/-- Whether an input is hidden. -/
def isHidden (tag : StartTag) : Bool :=
  tag.attrs.any fun (name, value) => name == "type" && value.map Char.toLower == "hidden"

def startInput (tag : StartTag) : Parse Unit := do
  let framesetOk := (← get).framesetOk
  startVoidFormatting tag
  -- A hidden input shows nothing, so it does not rule out a frame set.
  if isHidden tag then setFramesetOk framesetOk

def startForm (tag : StartTag) : Parse Unit := do
  if (← get).form.isNone then
    closeParagraphIfOpen
    let h ← insertTag tag
    modify fun b => { b with form := some h }

def startRule (tag : StartTag) : Parse Unit := do
  closeParagraphIfOpen
  insertVoid tag
  setFramesetOk false

def indexPrompt : String := "This is a searchable index. Enter search keywords: "

/-- A search field of old pages: a form with a labelled input between two rules. -/
def startIndex (tag : StartTag) : Parse Unit := do
  if (← get).form.isNone then
    let attr? := fun (name : String) => (tag.attrs.find? (·.1 == name)).map (·.2)
    startForm { name := "form", attrs := (attr? "action").toList.map fun v => ("action", v) }
    startRule { name := "hr" }
    reconstruct
    discard (insertImplied "label")
    bodyCharacters ((attr? "prompt").getD indexPrompt).toList
    let others := tag.attrs.filter fun (name, _) => name != "action" && name != "prompt"
    -- All other attributes are those of the input, which has a fixed name.
    startInput { name := "input", attrs := assign "name" "isindex" others }
    closeOther "label"
    startRule { name := "hr" }
    endForm

def startSelect (tag : StartTag) : Parse Unit := do
  reconstruct
  discard (insertTag tag)
  setFramesetOk false
  let mode := (← get).mode
  setMode (if [.inTable, .inCaption, .inColumnGroup, .inTableBody, .inRow, .inCell].contains mode
    then .inSelectInTable else .inSelect)

/-- Opens a foreign element, whose attributes are respelled. -/
def insertForeign (tag : StartTag) (ns : String) (spellings : List String) : Parse Unit := do
  let attrs := tag.attrs.foldl (fun attrs (name, value) =>
    assign (respell spellings name) value attrs) []
  discard (insertWith tag.name (some ns) (rawAttrs attrs))
  if tag.selfClosing then pop

def bodyStart (tag : StartTag) : Rule := do
  let name := tag.name
  if name = "html" then handled
  else if headNames.contains name then headStart tag
  else if name = "button" then
    if (← get).inScope "button" .plain then
      endBlock "button"
      again (.start tag)
    else
      reconstruct
      discard (insertTag tag)
      setFramesetOk false
      handled
  else
    if name = "body" then startSecondBody tag
    else if name = "frameset" then startFrameset tag
    else if blockNames.contains name then
      closeParagraphIfOpen
      discard (insertTag tag)
    else if headingNames.contains name then
      closeParagraphIfOpen
      if headingNames.contains (← currentName) then pop
      discard (insertTag tag)
    else if name = "pre" ∨ name = "listing" then
      closeParagraphIfOpen
      discard (insertTag tag)
      modify fun b => { b with framesetOk := false, dropNewline := true }
    else if name = "form" then startForm tag
    else if name = "li" ∨ name = "dd" ∨ name = "dt" then startListItem tag
    else if name = "plaintext" then
      closeParagraphIfOpen
      discard (insertTag tag)
      setModel .plaintext
    else if name = "a" then startAnchor tag
    else if formattingNames.contains name then
      reconstruct
      insertFormatting tag
    else if name = "nobr" then startNobr tag
    else if name = "applet" ∨ name = "marquee" ∨ name = "object" then
      reconstruct
      discard (insertTag tag)
      addMarker
      setFramesetOk false
    else if name = "xmp" then
      closeParagraphIfOpen
      reconstruct
      setFramesetOk false
      startText tag .rawtext
    else if name = "table" then
      closeParagraphIfOpen
      discard (insertTag tag)
      setFramesetOk false
      setMode .inTable
    else if ["area", "br", "embed", "img", "keygen", "wbr"].contains name then
      startVoidFormatting tag
    else if name = "image" then startVoidFormatting { tag with name := "img" }
    else if name = "param" ∨ name = "source" ∨ name = "track" then insertVoid tag
    else if name = "input" then startInput tag
    else if name = "hr" then startRule tag
    else if name = "isindex" then startIndex tag
    else if name = "textarea" then
      discard (insertTag tag)
      -- Its text has no tags in it, but the mode stays that of the body.
      modify fun b => { b with model := .rcdata, dropNewline := true, framesetOk := false }
    else if name = "iframe" then
      setFramesetOk false
      startText tag .rawtext
    else if name = "noembed" ∨ name = "noframes" then startText tag .rawtext
    else if name = "select" then startSelect tag
    else if name = "rp" ∨ name = "rt" then
      if (← get).inScope "ruby" .plain then closeImplied none
      discard (insertTag tag)
    else if name = "option" ∨ name = "optgroup" then
      if (← currentName) == "option" then discard (endTag (← get).mode "option")
      reconstruct
      discard (insertTag tag)
    else if name = "math" then
      reconstruct
      insertForeign tag mathNs mathAttrNames
    else if name = "svg" then
      reconstruct
      insertForeign tag svgNs svgAttrNames
    else if misplacedNames.contains name then pure ()
    else
      reconstruct
      discard (insertTag tag)
    handled

/-! Tables -/

def clearToTable : Parse Unit := popTo ["table", "html"]

def startRowGroup (tag : StartTag) : Parse Unit := do
  clearToTable
  discard (insertTag tag)
  setMode .inTableBody

def startColumnGroup (tag : StartTag) : Parse Unit := do
  clearToTable
  discard (insertTag tag)
  setMode .inColumnGroup

def tableStart (tag : StartTag) : Rule := do
  let name := tag.name
  if name = "html" then handled
  else if name = "caption" then
    clearToTable
    addMarker
    discard (insertTag tag)
    setMode .inCaption
    handled
  else if name = "colgroup" then
    startColumnGroup tag
    handled
  else if name = "col" then
    startColumnGroup { name := "colgroup" }
    again (.start tag)
  else if name = "tbody" ∨ name = "tfoot" ∨ name = "thead" then
    startRowGroup tag
    handled
  else if name = "td" ∨ name = "th" ∨ name = "tr" then
    startRowGroup { name := "tbody" }
    again (.start tag)
  else if name = "table" then
    -- It closes the table that is open, and is then dropped itself.
    discard (endTag (← get).mode "table")
    handled
  else if name = "style" ∨ name = "script" then headStart tag
  else if name = "input" && isHidden tag then
    insertVoid tag
    handled
  else if name = "form" then
    if (← get).form.isNone then
      let h ← insertTag tag
      modify fun b => { b with form := some h }
      pop
    handled
  else
    -- What does not belong in a table goes in front of it.
    discard (fostering (bodyStart tag))
    handled

def captionStart (tag : StartTag) : Rule := do
  if tag.name = "html" then handled
  else if ["caption", "col", "colgroup", "tbody", "td", "tfoot", "th", "thead",
      "tr"].contains tag.name then
    if ← endCaption then again (.start tag) else handled
  else bodyStart tag

def columnGroupStart (tag : StartTag) : Rule := do
  if tag.name = "html" then handled
  else if tag.name = "col" then
    insertVoid tag
    handled
  else if ← endColumnGroup then again (.start tag) else handled

def startRow (tag : StartTag) : Parse Unit := do
  clearToTableBody
  discard (insertTag tag)
  setMode .inRow

def tableBodyStart (tag : StartTag) : Rule := do
  let name := tag.name
  if name = "html" then handled
  else if name = "tr" then
    startRow tag
    handled
  else if name = "td" ∨ name = "th" then
    startRow { name := "tr" }
    again (.start tag)
  else if ["caption", "col", "colgroup", "tbody", "tfoot", "thead"].contains name then
    if ← endOpenRowGroup then again (.start tag) else handled
  else tableStart tag

def rowStart (tag : StartTag) : Rule := do
  let name := tag.name
  if name = "html" then handled
  else if name = "td" ∨ name = "th" then
    clearToRow
    discard (insertTag tag)
    setMode .inCell
    addMarker
    handled
  else if ["caption", "col", "colgroup", "tbody", "tfoot", "thead", "tr"].contains name then
    if ← endRow then again (.start tag) else handled
  else tableStart tag

def cellStart (tag : StartTag) : Rule := do
  if tag.name = "html" then handled
  else if ["caption", "col", "colgroup", "tbody", "td", "tfoot", "th", "thead",
      "tr"].contains tag.name then
    let b ← get
    if b.inScope "td" .table || b.inScope "th" .table then
      endOpenCell
      again (.start tag)
    else handled
  else bodyStart tag

/-! Selections and frames -/

def selectStart (tag : StartTag) : Rule := do
  let name := tag.name
  if name = "option" then
    if (← currentName) == "option" then pop
    discard (insertTag tag)
    handled
  else if name = "optgroup" then
    if (← currentName) == "option" then pop
    if (← currentName) == "optgroup" then pop
    discard (insertTag tag)
    handled
  else if name = "select" then
    endSelect
    handled
  else if name = "input" ∨ name = "keygen" ∨ name = "textarea" then
    if (← get).inScope "select" .select then
      endSelect
      again (.start tag)
    else handled
  else if name = "script" then headStart tag
  else handled

def selectInTableStart (tag : StartTag) : Rule := do
  if selectTableNames.contains tag.name then
    endSelect
    again (.start tag)
  else selectStart tag

def framesetStart (tag : StartTag) : Rule := do
  if tag.name = "frameset" then
    discard (insertTag tag)
    handled
  else if tag.name = "frame" then
    insertVoid tag
    handled
  else if tag.name = "noframes" then bodyStart tag
  else handled

/-! All modes -/

/-- What a start tag does in a mode. -/
def startTag (mode : Mode) (tag : StartTag) : Rule := do
  match mode with
  | .beforeHead =>
    if tag.name = "html" then handled
    else if tag.name = "head" then
      startHead tag
      handled
    else
      startHead { name := "head" }
      again (.start tag)
  | .inHead => headStart tag
  | .inHeadNoscript => headNoscriptStart tag
  | .afterHead => afterHeadStart tag
  | .inBody => bodyStart tag
  | .text => handled
  | .inTable => tableStart tag
  | .inTableText =>
    flushTableText
    again (.start tag)
  | .inCaption => captionStart tag
  | .inColumnGroup => columnGroupStart tag
  | .inTableBody => tableBodyStart tag
  | .inRow => rowStart tag
  | .inCell => cellStart tag
  | .inSelect => selectStart tag
  | .inSelectInTable => selectInTableStart tag
  | .afterBody =>
    if tag.name = "html" then handled
    else
      setMode .inBody
      again (.start tag)
  | .inFrameset => framesetStart tag

/-! Foreign content -/

/-- Whether an element holds HTML although it is foreign. Of an annotation its encoding tells, which
has to be plain text. -/
def holdsHtml (h : Handle) : Parse Bool := do
  if isAnnotation h then
    match ((← get).dom.attrsOf h.id).find? (·.1 == "encoding") with
    | some (_, .plain encoding) =>
      return ["text/html", "application/xhtml+xml"].contains (encoding.map Char.toLower)
    | some (_, .parts _) => throw .partsForText
    | none => return false
  else return isSvgHtml h

/-- Closes foreign elements up to one that holds HTML, or is HTML itself. -/
def leaveForeign (defaultNs : Option String) : List Handle → Parse (List Handle)
  | [] => pure []
  | h :: rest => do
    if h.ns == defaultNs then return h :: rest
    else if ← holdsHtml h then return h :: rest
    else if isMathText h then return h :: rest
    else leaveForeign defaultNs rest

def isBreakout (tag : StartTag) : Bool :=
  breakoutNames.contains tag.name
    || (tag.name == "font" && tag.attrs.any fun (name, _) =>
      name == "color" || name == "face" || name == "size")

def foreignStart (tag : StartTag) : Rule := do
  let b ← get
  if isBreakout tag then
    setOpened (← leaveForeign b.defaultNs b.opened)
    again (.start tag)
  else
    let ns := b.current.ns
    if ns == some mathNs then insertForeign tag mathNs mathAttrNames
    else if ns == some svgNs then
      insertForeign { tag with name := respell svgTagNames tag.name } svgNs svgAttrNames
    else
      discard (insertWith tag.name ns (rawAttrs tag.attrs))
      if tag.selfClosing then pop
    handled

/-- Looks for the element that an end tag in foreign content closes. Where HTML is met first, the
rules of the mode apply. -/
def closeForeign (defaultNs : Option String) (name : String) : List Handle → Rule
  | [] => handled
  | h :: outer => do
    if h.name.map Char.toLower == name then
      if (← get).mode = .inTableText then flushTableText
      popThrough (·.id == h.id)
      handled
    else
      match outer with
      | [] => handled
      | next :: _ =>
        if next.ns != defaultNs then closeForeign defaultNs name outer
        -- The next element out is HTML, so the end tag is one of HTML too.
        else endTag (← get).mode name

/-- An end tag in foreign content closes the innermost foreign element of its name, in any letter
case. -/
def foreignEnd (name : String) : Rule := do
  let b ← get
  closeForeign b.defaultNs name b.opened

end HtmlTemplate.Html
