import HtmlTemplate.Html.Token

/-!
Cutting HTML into tokens. How text is cut depends on where it stands: in most elements markup and
references are read, in others only an end tag is looked for, and scripts have comments of their
own. Text is handed on in the stretches in which it is met: white space, other text, and what a
reference stands for are stretches of their own.
-/

namespace HtmlTemplate.Html

/-- How far a script is into a comment inside it. -/
inductive ScriptState where
  | plain
  | escapeStart
  | escapeStartDash
  | escaped
  | escapedDash
  | escapedDashDash
  | doubleEscapeStart (word : List Char)
  | doubleEscaped
  | doubleEscapedDash
  | doubleEscapedDashDash
  | doubleEscapedLess
  | doubleEscapeEnd (word : List Char)
  deriving DecidableEq, Repr

/-- What is looked for in text. -/
inductive ContentModel where
  /-- Markup and references. -/
  | data
  /-- References and one end tag. -/
  | rcdata
  /-- One end tag. -/
  | rawtext
  | script (state : ScriptState)
  /-- Nothing at all. -/
  | plaintext
  deriving DecidableEq, Repr

/-- What one step of scanning gives. -/
structure Scanned where
  token : Option Token
  model : ContentModel
  rest : List Char
  /-- The number of digits of a reference that has too many, which ends the reading. -/
  overlong : Option Nat := none

/-- What scanning depends on besides the text. -/
structure ScanContext where
  /-- The last start tag: in raw text only its end tag is one. -/
  lastStart : Option String
  /-- Whether raw sections are known here, as they are in foreign content. -/
  foreign : Bool

/-- A stretch of text as a token. -/
def stretch (model : ContentModel) (s : List Char) (rest : List Char) : Scanned :=
  { token := some (.characters s), model, rest }

def referenceToken (image : List Char) : Token :=
  match image with
  | [c] => if isSpace c then .spaces image else .characters image
  | _ => .characters image

def scanReference (model : ContentModel) (rest : List Char) : Scanned :=
  let reference := readReference false none rest
  { token := some (referenceToken reference.image)
    model
    rest := rest.drop reference.size
    overlong := reference.overlong }

/-- A run of characters up to one that ends it. -/
def scanRun (model : ContentModel) (stop : Char → Bool) (s : List Char) : Scanned :=
  stretch model (s.takeWhile fun c => !stop c) (s.dropWhile fun c => !stop c)

def scanSpaces (model : ContentModel) (s : List Char) : Scanned :=
  { token := some (.spaces (s.takeWhile isSpace)), model, rest := s.dropWhile isSpace }

/-- What follows `<!`. -/
def scanDeclaration (foreign : Bool) (s : List Char) : Scanned :=
  match s with
  | '-' :: '-' :: rest =>
    let (data, rest) := readComment .start [] rest
    { token := some (.comment data), model := .data, rest }
  | _ =>
    if lowerAscii (s.take 7) = "doctype" then
      { token := some .doctype, model := .data, rest := ((s.drop 7).dropWhile (· != '>')).drop 1 }
    else if foreign && "[CDATA[".toList.isPrefixOf s then
      let (raw, rest) := readRawSection (s.drop 7)
      { token := if raw.isEmpty then none else some (.characters raw), model := .data, rest }
    else
      let (token, rest) := readBogusComment s
      { token := some token, model := .data, rest }

/-- A tag whose name starts with `name`, in reverse; one that the end of the text cuts off is
dropped. -/
def scanTag (make : StartTag → Token) (name : List Char) (rest : List Char) : Scanned :=
  match readTag 0 .name { name } rest with
  | .tag tag rest => { token := some (make tag), model := .data, rest }
  | .cut => { token := none, model := .data, rest := [] }
  | .overlong digits => { token := none, model := .data, rest := [], overlong := some digits }

/-- What follows `<` where markup is read. -/
def scanMarkup (foreign : Bool) (s : List Char) : Scanned :=
  match s with
  | '!' :: rest => scanDeclaration foreign rest
  | '/' :: rest =>
    match rest with
    | [] => stretch .data ['<', '/'] []
    -- An end tag without a name is dropped, a start tag without one is text.
    | '>' :: rest => { token := none, model := .data, rest }
    | c :: after =>
      if isLetter c then scanTag (.close ·.name) [c] after
      else
        -- Anything but a letter behind the slash makes it a comment.
        let (token, rest) := readBogusComment rest
        { token := some token, model := .data, rest }
  | '>' :: rest => stretch .data ['<', '>'] rest
  | '?' :: _ =>
    let (token, rest) := readBogusComment s
    { token := some token, model := .data, rest }
  | c :: rest => if isLetter c then scanTag .start [c] rest else stretch .data ['<'] s
  | [] => stretch .data ['<'] []

/-- What follows `</` where only the end tag of the last start tag is read. -/
def scanEndTag (context : ScanContext) (model : ContentModel) (s : List Char) : Scanned :=
  let letters := s.takeWhile isLetter
  let rest := s.dropWhile isLetter
  let ends :=
    match rest with
    | c :: _ => isSpace c || c == '/' || c == '>'
    | [] => false
  if ends && context.lastStart == some (lowerAscii letters) then
    -- The name of a draft is kept in reverse.
    scanTag (.close ·.name) letters.reverse rest
  else stretch model ('<' :: '/' :: letters) rest

/-- What follows `<` where only an end tag is read. -/
def scanLess (context : ScanContext) (model : ContentModel) (s : List Char) : Scanned :=
  match s with
  | '/' :: rest => scanEndTag context model rest
  | _ => stretch model ['<'] s

def scanData (context : ScanContext) (c : Char) (rest : List Char) : Scanned :=
  if c = '&' then scanReference .data rest
  else if c = '<' then scanMarkup context.foreign rest
  -- A null is a stretch of its own: it depends on the place whether it is kept.
  else if c = nul then stretch .data [c] rest
  else if isSpace c then scanSpaces .data (c :: rest)
  else scanRun .data (fun c => c == '&' || c == '<' || c == nul) (c :: rest)

def scanRcdata (context : ScanContext) (c : Char) (rest : List Char) : Scanned :=
  if c = '&' then scanReference .rcdata rest
  else if c = '<' then scanLess context .rcdata rest
  else if c = nul then stretch .rcdata [replacement] rest
  else if isSpace c then scanSpaces .rcdata (c :: rest)
  else scanRun .rcdata (fun c => c == '&' || c == '<' || c == nul) (c :: rest)

def scanRawtext (context : ScanContext) (c : Char) (rest : List Char) : Scanned :=
  if c = '<' then scanLess context .rawtext rest
  else if c = nul then stretch .rawtext [replacement] rest
  else scanRun .rawtext (fun c => c == '<' || c == nul) (c :: rest)

def scanPlaintext (c : Char) (rest : List Char) : Scanned :=
  if c = nul then stretch .plaintext [replacement] rest
  else scanRun .plaintext (· == nul) (c :: rest)

/-! Scripts -/

def scanScriptPlain (context : ScanContext) (c : Char) (rest : List Char) : Scanned :=
  if c = '<' then
    match rest with
    | '!' :: rest => stretch (.script .escapeStart) ['<', '!'] rest
    | _ => scanLess context (.script .plain) rest
  else if c = nul then stretch (.script .plain) [replacement] rest
  else scanRun (.script .plain) (fun c => c == '<' || c == nul) (c :: rest)

/-- What follows `<` inside a comment of a script. -/
def scanEscapedLess (context : ScanContext) (s : List Char) : Scanned :=
  match s with
  | '/' :: rest => scanEndTag context (.script .escaped) rest
  | c :: rest =>
    if isLetter c then stretch (.script (.doubleEscapeStart [c])) ['<', c] rest
    else stretch (.script .escaped) ['<'] s
  | [] => stretch (.script .escaped) ['<'] []

def scanEscaped (context : ScanContext) (c : Char) (rest : List Char) : Scanned :=
  if c = '-' then stretch (.script .escapedDash) [c] rest
  else if c = '<' then scanEscapedLess context rest
  else if c = nul then stretch (.script .escaped) [replacement] rest
  else scanRun (.script .escaped) (fun c => c == '<' || c == '-' || c == nul) (c :: rest)

def isScriptWord (word : List Char) : Bool := lowerAscii word.reverse == "script"

/-- Whether a character ends the name of a tag. -/
def endsTagName (c : Char) : Bool := isSpace c || c == '/' || c == '>'

def scanDoubleEscaped (c : Char) (rest : List Char) : Scanned :=
  if c = '-' then stretch (.script .doubleEscapedDash) [c] rest
  else if c = '<' then stretch (.script .doubleEscapedLess) [c] rest
  else stretch (.script .doubleEscaped) [visible c] rest

def scanScript (context : ScanContext) (state : ScriptState) (c : Char) (rest : List Char) :
    Scanned :=
  match state with
  | .plain => scanScriptPlain context c rest
  | .escapeStart =>
    if c = '-' then stretch (.script .escapeStartDash) [c] rest
    else scanScriptPlain context c rest
  | .escapeStartDash =>
    if c = '-' then stretch (.script .escapedDashDash) [c] rest
    else scanScriptPlain context c rest
  | .escaped => scanEscaped context c rest
  | .escapedDash =>
    if c = '-' then stretch (.script .escapedDashDash) [c] rest
    else if c = '<' then scanEscapedLess context rest
    else stretch (.script .escaped) [visible c] rest
  | .escapedDashDash =>
    if c = '-' then stretch (.script .escapedDashDash) [c] rest
    else if c = '<' then scanEscapedLess context rest
    else if c = '>' then stretch (.script .plain) [c] rest
    else stretch (.script .escaped) [visible c] rest
  -- A script that starts inside the comment hides the end tag of the script around it.
  | .doubleEscapeStart word =>
    if endsTagName c then
      stretch (.script (if isScriptWord word then .doubleEscaped else .escaped)) [c] rest
    else if isLetter c then stretch (.script (.doubleEscapeStart (c :: word))) [c] rest
    else scanEscaped context c rest
  | .doubleEscaped => scanDoubleEscaped c rest
  | .doubleEscapedDash =>
    if c = '-' then stretch (.script .doubleEscapedDashDash) [c] rest
    else if c = '<' then stretch (.script .doubleEscapedLess) [c] rest
    else stretch (.script .doubleEscaped) [visible c] rest
  -- Where the comment ends, so does the script that has started inside it.
  | .doubleEscapedDashDash =>
    if c = '-' then stretch (.script .doubleEscapedDashDash) [c] rest
    else if c = '<' then stretch (.script .doubleEscapedLess) [c] rest
    else if c = '>' then stretch (.script .plain) [c] rest
    else stretch (.script .doubleEscaped) [visible c] rest
  | .doubleEscapedLess =>
    if c = '/' then stretch (.script (.doubleEscapeEnd [])) [c] rest
    else scanDoubleEscaped c rest
  | .doubleEscapeEnd word =>
    if endsTagName c then
      stretch (.script (if isScriptWord word then .escaped else .doubleEscaped)) [c] rest
    else if isLetter c then stretch (.script (.doubleEscapeEnd (c :: word))) [c] rest
    else scanDoubleEscaped c rest

/-- One step of scanning: takes at least one character off the text. -/
def scan (context : ScanContext) (model : ContentModel) : List Char → Option Scanned
  | [] => none
  | c :: rest =>
    some (match model with
      | .data => scanData context c rest
      | .rcdata => scanRcdata context c rest
      | .rawtext => scanRawtext context c rest
      | .script state => scanScript context state c rest
      | .plaintext => scanPlaintext c rest)

/-- Line ends as HTML has them: a carriage return, alone or before a line feed, is a line feed. -/
def normalizeLines : List Char → List Char
  | [] => []
  | '\r' :: '\n' :: rest => '\n' :: normalizeLines rest
  | '\r' :: rest => '\n' :: normalizeLines rest
  | c :: rest => c :: normalizeLines rest

end HtmlTemplate.Html
