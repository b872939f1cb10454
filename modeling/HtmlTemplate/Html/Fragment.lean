import HtmlTemplate.Html.StartTags

/-!
Reading a fragment of HTML. Tokens are scanned one by one, because the tree decides how the text
after a tag is scanned. Each scan takes at least one character off the text, so its length bounds
their number; a token is processed again only after an element has been closed or the mode has
changed, and the open elements bound how often that can happen.
-/

namespace HtmlTemplate.Html

/-! Text and comments in each mode -/

/-- Collects text in a table. -/
def collectTableText (data : List Char) : Parse Unit := do
  let b ← get
  if b.mode != .inTableText then
    set { b with mode := .inTableText, tableReturn := b.mode, tableText := data }
  else set { b with tableText := b.tableText ++ data }

def characters (mode : Mode) (data : List Char) : Rule := do
  match mode with
  | .beforeHead =>
    startHead { name := "head" }
    again (.characters data)
  | .inHead =>
    leaveHead
    again (.characters data)
  | .inHeadNoscript =>
    leaveNoscript
    again (.characters data)
  | .afterHead =>
    startBody
    again (.characters data)
  | .inBody | .inCaption | .inCell =>
    bodyCharacters data
    handled
  | .text =>
    insertText data
    handled
  | .inTable | .inTableBody | .inRow | .inTableText =>
    if data = [nul] then
      -- A null character is dropped, but text is collected from here on.
      if mode != .inTableText then collectTableText []
    else collectTableText data
    handled
  | .inColumnGroup => if ← endColumnGroup then again (.characters data) else handled
  | .inSelect | .inSelectInTable =>
    if data != [nul] then insertText data
    handled
  | .afterBody =>
    setMode .inBody
    again (.characters data)
  | .inFrameset => handled

def spaces (mode : Mode) (data : List Char) : Rule := do
  match mode with
  | .beforeHead => pure ()
  | .inBody => bodySpaces data
  | .inTable | .inTableBody | .inRow | .inTableText => collectTableText data
  | _ => insertText data
  handled

def comment (mode : Mode) (data : List Char) : Rule := do
  let b ← get
  match mode with
  | .inTableText =>
    flushTableText
    again (.comment data)
  | .afterBody =>
    insertComment b.root data
    handled
  | _ =>
    insertComment b.current data
    handled

/-! Tokens -/

/-- What a token does by the rules of the current mode. -/
def byMode (token : Token) : Rule := do
  let mode := (← get).mode
  match token with
  | .characters data => characters mode data
  | .spaces data => spaces mode data
  | .start tag => startTag mode tag
  | .close name => endTag mode name
  | .comment data => comment mode data
  | .doctype => handled

/-- What a token does in foreign content. -/
def byForeign (token : Token) : Rule := do
  match token with
  | .characters data =>
    if data = [nul] then insertText [replacement]
    else
      if (← get).framesetOk && data.any (fun c => !isSpace c) then setFramesetOk false
      insertText data
    handled
  | .spaces data =>
    insertText data
    handled
  | .start tag => foreignStart tag
  | .close name => foreignEnd name
  | .comment data =>
    insertComment (← get).current data
    handled
  | .doctype => handled

def Token.isText : Token → Bool
  | .characters _ => true
  | .spaces _ => true
  | _ => false

/-- Whether a token at an element that takes mathematical text is read as HTML. -/
def readsInMathText : Token → Bool
  | .start tag => !(["mglyph", "malignmark"].contains tag.name)
  | token => token.isText

def startsSvg : Token → Bool
  | .start tag => tag.name == "svg"
  | _ => false

def Token.isStart : Token → Bool
  | .start _ => true
  | _ => false

/-- Whether the rules of the mode apply to a token, rather than those of foreign content. -/
def usesMode (token : Token) : Parse Bool := do
  let b ← get
  let h := b.current
  if b.opened.isEmpty || h.ns == b.defaultNs then return true
  else if isMathText h && readsInMathText token then return true
  else if isAnnotation h && startsSvg token then return true
  else
    -- Of an annotation the encoding is asked for, which fails if a directive stands in it.
    let holds ← holdsHtml h
    return holds && (token.isText || token.isStart)

/-- Processes a token, again as long as a rule hands it on. -/
def process : (fuel : Nat) → Token → Parse Unit
  | 0, _ => pure ()
  | fuel + 1, token => do
    let next ← if ← usesMode token then byMode token else byForeign token
    match next with
    | some token => process fuel token
    | none => pure ()

def processToken (token : Token) : Parse Unit := do
  match token with
  | .start tag => modify fun b => { b with lastStart := some tag.name }
  | _ => pure ()
  process (3 * (← get).opened.length + 16) token

/-! The end of the text -/

/-- What the end of the text does in a mode; says whether it is to be processed again. -/
def atEnd (mode : Mode) : Parse Bool := do
  match mode with
  | .beforeHead =>
    startHead { name := "head" }
    return true
  | .inHead =>
    leaveHead
    return true
  | .inHeadNoscript =>
    leaveNoscript
    return true
  | .afterHead =>
    startBody
    return true
  | .text =>
    pop
    setMode (← get).textReturn
    return true
  | .inTableText =>
    flushTableText
    return true
  | .inColumnGroup => endColumnGroup
  | _ => return false

def finish : (fuel : Nat) → Parse Unit
  | 0 => pure ()
  | fuel + 1 => do
    if ← atEnd (← get).mode then finish fuel

/-! Fragments -/

/-- Scans and processes the rest of the text. -/
def readTokens : (fuel : Nat) → List Char → Parse Unit
  | 0, _ => pure ()
  | fuel + 1, s => do
    let b ← get
    -- How the text goes on depends on the tree that the tokens before have built.
    let context : ScanContext :=
      { lastStart := b.lastStart
        foreign := !b.opened.isEmpty && b.current.ns != b.defaultNs }
    match scan context b.model s with
    | none => finish 8
    | some scanned =>
      match scanned.overlong with
      | some digits => throw (.overlong digits)
      | none =>
        setModel scanned.model
        match scanned.token with
        | some token => processToken token
        | none => pure ()
        readTokens fuel scanned.rest

/-- How the text directly in an element of a name is read. -/
def modelOfName (name : String) : ContentModel :=
  if name = "title" ∨ name = "textarea" then .rcdata
  else if ["style", "script", "xmp", "iframe", "noembed", "noframes", "noscript"].contains name then
    .rawtext
  else if name = "plaintext" then .plaintext
  else .data

/-- Reads a fragment: its nodes end up below a new fragment node, which is given. -/
def readFragment (text : List Char) : Parse Dom.NodeId := do
  -- The root stands in for the element around the fragment and is not part of the result.
  let root ← createElement "html" (← get).defaultNs []
  push root
  resetMode
  setModel (modelOfName (← get).container)
  let text := normalizeLines text
  readTokens (text.length + 1) text
  let fragment ← onDom (Dom.newNode .fragment)
  onDom (Dom.reparentChildren (← get).root.id fragment)
  return fragment

end HtmlTemplate.Html
