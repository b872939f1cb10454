import HtmlTemplate.Html.Formatting

/-!
What end tags do in each mode, and how text is inserted in a body and in a table. None of these
rules calls for a start tag to be processed, so start tags can rely on all of them.
-/

namespace HtmlTemplate.Html

/-! Text -/

/-- Text in a body. A lone null character is dropped. -/
def bodyCharacters (data : List Char) : Parse Unit := do
  if data != [nul] then
    reconstruct
    insertText data
    if (← get).framesetOk && data.any (fun c => !isSpace c) then setFramesetOk false

def bodySpaces (data : List Char) : Parse Unit := do
  let b ← get
  let dropped := b.dropNewline && data.head? == some '\n'
    && ["pre", "listing", "textarea"].contains b.current.name
    && (b.dom.children b.current.id).isEmpty
  let data := if dropped then data.drop 1 else data
  -- The flag holds for one run of white space, whether or not it starts with a line break.
  set { b with dropNewline := false }
  if !(b.dropNewline && data.isEmpty) then
    reconstruct
    insertText data

/-- Inserts the text collected in a table: in front of the table, if it is not all white space. -/
def flushTableText : Parse Unit := do
  let b ← get
  set { b with tableText := [], mode := b.tableReturn }
  if b.tableText.any fun c => !isSpace c then fostering (bodyCharacters b.tableText)
  else if !b.tableText.isEmpty then insertText b.tableText

/-! The head -/

def startHead (tag : StartTag) : Parse Unit := do
  let h ← insertTag tag
  modify fun b => { b with head := some h, mode := .inHead }

def leaveHead : Parse Unit := do
  pop
  setMode .afterHead

def leaveNoscript : Parse Unit := do
  pop
  setMode .inHead

def startBody : Parse Unit := do
  discard (insertImplied "body")
  setMode .inBody
  setFramesetOk true

/-! The body -/

/-- Closes an open paragraph. -/
def closeParagraph : Parse Unit := do
  closeImplied (some "p")
  popThrough (·.name == "p")

/-- Closes a paragraph if one is open in the scope of a button. -/
def closeParagraphIfOpen : Parse Unit := do
  if (← get).inScope "p" .button then closeParagraph

/-- An end tag of a paragraph that is not open stands for an empty one. -/
def endParagraph : Parse Unit := do
  if !(← get).inScope "p" .button then discard (insertImplied "p")
  closeParagraph

def endBlock (name : String) : Parse Unit := do
  if name = "pre" then modify fun b => { b with dropNewline := false }
  if (← get).inScope name .plain then
    closeImplied none
    popThrough (·.name == name)

def endForm : Parse Unit := do
  let b ← get
  set { b with form := none }
  match b.form with
  | some form =>
    if foundInScope (·.id == form.id) .plain b.opened then
      closeImplied none
      closeElement form
  | none => pure ()

def endListItem (name : String) : Parse Unit := do
  if (← get).inScope name (if name = "li" then .list else .plain) then
    closeImplied (some name)
    popThrough (·.name == name)

def headingInScope (b : Builder) : Bool := headingNames.any fun name => b.inScope name .plain

def endHeading : Parse Unit := do
  if headingInScope (← get) then closeImplied none
  if headingInScope (← get) then popThrough fun h => headingNames.contains h.name

def endObject (name : String) : Parse Unit := do
  if (← get).inScope name .plain then
    closeImplied none
  if (← get).inScope name .plain then
    popThrough (·.name == name)
    clearToMarker

def endBreak : Parse Unit := do
  reconstruct
  discard (insertImplied "br")
  pop

def endBody : Parse Unit := do
  if (← get).inScope "body" .plain then setMode .afterBody

def bodyEnd (name : String) : Rule := do
  if name = "body" then endBody
  else if name = "html" then
    if (← get).inScope "body" .plain then
      endBody
      -- The body is closed first, and the end tag is then one after the body.
      return some (.close name)
  else if blockEndNames.contains name then endBlock name
  else if name = "form" then endForm
  else if name = "p" then endParagraph
  else if name = "dd" ∨ name = "dt" ∨ name = "li" then endListItem name
  else if headingNames.contains name then endHeading
  else if name = "a" ∨ name = "nobr" ∨ formattingNames.contains name then closeFormatting name 8
  else if name = "applet" ∨ name = "marquee" ∨ name = "object" then endObject name
  else if name = "br" then endBreak
  else closeOther name
  handled

/-! Tables -/

def tableEnd (name : String) : Rule := do
  if name = "table" then
    if (← get).inScope "table" .table then
      closeImplied none
      popThrough (·.name == "table")
      resetMode
  else if ["body", "caption", "col", "colgroup", "html", "tbody", "td", "tfoot", "th", "thead",
      "tr"].contains name then
    pure ()
  else discard (fostering (bodyEnd name))
  handled

/-- Closes the caption, and says whether there was one. -/
def endCaption : Parse Bool := do
  let found := (← get).inScope "caption" .table
  if found then
    closeImplied none
    popThrough (·.name == "caption")
    clearToMarker
    setMode .inTable
  return found

def captionEnd (name : String) : Rule := do
  if name = "caption" then
    discard endCaption
    handled
  else if name = "table" then
    if ← endCaption then again (.close name) else handled
  else if ["body", "col", "colgroup", "html", "tbody", "td", "tfoot", "th", "thead",
      "tr"].contains name then
    handled
  else bodyEnd name

/-- Closes the column group, and says whether there was one. -/
def endColumnGroup : Parse Bool := do
  let found := (← currentName) != "html"
  if found then
    pop
    setMode .inTable
  return found

def columnGroupEnd (name : String) : Rule := do
  if name = "colgroup" then
    discard endColumnGroup
    handled
  else if name = "col" then handled
  else if ← endColumnGroup then again (.close name) else handled

def clearToTableBody : Parse Unit := popTo ["tbody", "tfoot", "thead", "html"]

/-- Closes a group of rows. -/
def endRowGroup (name : String) : Parse Unit := do
  if (← get).inScope name .table then
    clearToTableBody
    pop
    setMode .inTable

/-- Closes the group of rows that is open, and says whether there was one. -/
def endOpenRowGroup : Parse Bool := do
  let b ← get
  let found := ["tbody", "thead", "tfoot"].any fun name => b.inScope name .table
  if found then
    clearToTableBody
    endRowGroup (← currentName)
  return found

def tableBodyEnd (name : String) : Rule := do
  if name = "tbody" ∨ name = "tfoot" ∨ name = "thead" then
    endRowGroup name
    handled
  else if name = "table" then
    if ← endOpenRowGroup then again (.close name) else handled
  else if ["body", "caption", "col", "colgroup", "html", "td", "th", "tr"].contains name then
    handled
  else tableEnd name

def clearToRow : Parse Unit := popTo ["tr", "html"]

/-- Closes the row, and says whether there was one. -/
def endRow : Parse Bool := do
  let found := (← get).inScope "tr" .table
  if found then
    clearToRow
    pop
    setMode .inTableBody
  return found

def rowEnd (name : String) : Rule := do
  if name = "tr" then
    discard endRow
    handled
  else if name = "table" then
    if ← endRow then again (.close name) else handled
  else if name = "tbody" ∨ name = "tfoot" ∨ name = "thead" then
    if (← get).inScope name .table then
      discard endRow
      again (.close name)
    else handled
  else if ["body", "caption", "col", "colgroup", "html", "td", "th"].contains name then handled
  else tableEnd name

def endCell (name : String) : Parse Unit := do
  if (← get).inScope name .table then
    closeImplied (some name)
    popThrough (·.name == name)
    clearToMarker
    setMode .inRow

/-- Closes the cell that is open. -/
def endOpenCell : Parse Unit := do
  if (← get).inScope "td" .table then endCell "td" else endCell "th"

def cellEnd (name : String) : Rule := do
  if name = "td" ∨ name = "th" then
    endCell name
    handled
  else if ["body", "caption", "col", "colgroup", "html"].contains name then handled
  else if tableNames.contains name then
    if (← get).inScope name .table then
      endOpenCell
      again (.close name)
    else handled
  else bodyEnd name

/-! Selections -/

def endSelect : Parse Unit := do
  if (← get).inScope "select" .select then
    popThrough (·.name == "select")
    resetMode

def endOptgroup : Parse Unit := do
  match (← get).opened with
  | inner :: outer :: _ => if inner.name == "option" && outer.name == "optgroup" then pop
  | _ => pure ()
  if (← currentName) == "optgroup" then pop

def selectEnd (name : String) : Rule := do
  if name = "option" then
    if (← currentName) == "option" then pop
  else if name = "optgroup" then endOptgroup
  else if name = "select" then endSelect
  handled

/-- Tags of a table, which end a selection inside it. -/
def selectTableNames : List String :=
  ["caption", "table", "tbody", "tfoot", "thead", "tr", "td", "th"]

def selectInTableEnd (name : String) : Rule := do
  if selectTableNames.contains name then
    if (← get).inScope name .table then
      endSelect
      again (.close name)
    else handled
  else selectEnd name

/-! All modes -/

/-- What an end tag does in a mode. -/
def endTag (mode : Mode) (name : String) : Rule := do
  match mode with
  | .beforeHead =>
    if ["head", "body", "html", "br"].contains name then
      startHead { name := "head" }
      again (.close name)
    else handled
  | .inHead =>
    if name = "head" then
      leaveHead
      handled
    else if ["br", "html", "body"].contains name then
      leaveHead
      again (.close name)
    else handled
  | .inHeadNoscript =>
    if name = "noscript" then
      leaveNoscript
      handled
    else if name = "br" then
      leaveNoscript
      again (.close name)
    else handled
  | .afterHead =>
    if ["body", "html", "br"].contains name then
      startBody
      again (.close name)
    else handled
  | .inBody => bodyEnd name
  | .text =>
    pop
    setMode (← get).textReturn
    handled
  | .inTable => tableEnd name
  | .inTableText =>
    flushTableText
    again (.close name)
  | .inCaption => captionEnd name
  | .inColumnGroup => columnGroupEnd name
  | .inTableBody => tableBodyEnd name
  | .inRow => rowEnd name
  | .inCell => cellEnd name
  | .inSelect => selectEnd name
  | .inSelectInTable => selectInTableEnd name
  | .afterBody =>
    if name = "html" then handled
    else
      setMode .inBody
      again (.close name)
  | .inFrameset =>
    if name = "frameset" && (← currentName) != "html" then pop
    handled

end HtmlTemplate.Html
