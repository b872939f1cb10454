import HtmlTemplate.Html.Reference

/-!
The tokens of HTML, and the reading of the two that have an inner structure, tags and comments.
Reading goes through the text once; what is cut off by the end of the text is dropped if it is a
tag, and kept if it is a comment.
-/

namespace HtmlTemplate.Html

structure StartTag where
  name : String
  /-- In the order of the text, no name twice. -/
  attrs : List (String × String) := []
  selfClosing : Bool := false
  deriving DecidableEq, Repr

inductive Token where
  | characters (text : List Char)
  /-- A run of white space. -/
  | spaces (text : List Char)
  | start (tag : StartTag)
  | close (name : String)
  | comment (data : List Char)
  | doctype
  deriving DecidableEq, Repr

def isLetter (c : Char) : Bool := c.isAlpha

def nul : Char := Char.ofNat 0

/-- A character as it is kept where the null character is not allowed. -/
def visible (c : Char) : Char := if c = nul then replacement else c

def lowerAscii (s : List Char) : String := String.ofList (s.map Char.toLower)

/-! Tags -/

/-- A tag as far as it is read. All its texts are kept in reverse, and the attribute read last
stands first. -/
structure Draft where
  name : List Char := []
  attrs : List (List Char × List Char) := []
  selfClosing : Bool := false

namespace Draft

def pushName (d : Draft) (c : Char) : Draft := { d with name := visible c :: d.name }

def newAttr (d : Draft) (c : Char) : Draft := { d with attrs := ([visible c], []) :: d.attrs }

def pushAttrName (d : Draft) (c : Char) : Draft :=
  match d.attrs with
  | (name, value) :: rest => { d with attrs := (visible c :: name, value) :: rest }
  | [] => d

/-- Adds to the value of the last attribute. -/
def pushValue (d : Draft) (text : List Char) : Draft :=
  match d.attrs with
  | (name, value) :: rest => { d with attrs := (name, text.reverse ++ value) :: rest }
  | [] => d

/-- Adds an attribute unless the name is taken. -/
def addFirst (attrs : List (String × String)) (attr : String × String) : List (String × String) :=
  if attrs.any (·.1 == attr.1) then attrs else attrs ++ [attr]

def tag (d : Draft) : StartTag :=
  { name := lowerAscii d.name.reverse
    attrs := (d.attrs.reverse.map fun (name, value) =>
      (lowerAscii name.reverse, String.ofList value.reverse)).foldl addFirst []
    selfClosing := d.selfClosing }

end Draft

/-- Where in a tag the reading stands. -/
inductive TagState where
  | name
  | beforeAttr
  | attrName
  | afterAttrName
  | beforeValue
  | quoted (quote : Char)
  | unquoted
  | afterValue
  | selfClosing

/-- What a character does to the reading of a tag: it ends it, or it goes on in a state, passing
over some of the characters that follow. -/
inductive TagMove where
  | done (draft : Draft)
  | next (state : TagState) (draft : Draft) (skip : Nat)
  /-- A reference has more digits than are read. -/
  | overlong (digits : Nat)

def moveBeforeAttr (d : Draft) (c : Char) : TagMove :=
  if isSpace c then .next .beforeAttr d 0
  else if c = '>' then .done d
  else if c = '/' then .next .selfClosing d 0
  else .next .attrName (d.newAttr c) 0

def moveReference (state : TagState) (quote : Char) (d : Draft) (rest : List Char) : TagMove :=
  let reference := readReference true (some quote) rest
  match reference.overlong with
  | some digits => .overlong digits
  | none => .next state (d.pushValue reference.image) reference.size

def moveUnquoted (d : Draft) (c : Char) (rest : List Char) : TagMove :=
  if isSpace c then .next .beforeAttr d 0
  -- No quote ends the value; for a reference the end of the tag takes its place.
  else if c = '&' then moveReference .unquoted '>' d rest
  else if c = '>' then .done d
  else .next .unquoted (d.pushValue [visible c]) 0

/-- The move of a character `c` that `rest` follows. -/
def moveTag (state : TagState) (d : Draft) (c : Char) (rest : List Char) : TagMove :=
  match state with
  | .name =>
    if isSpace c then .next .beforeAttr d 0
    else if c = '>' then .done d
    else if c = '/' then .next .selfClosing d 0
    else .next .name (d.pushName c) 0
  | .beforeAttr => moveBeforeAttr d c
  | .attrName =>
    if isSpace c then .next .afterAttrName d 0
    else if c = '=' then .next .beforeValue d 0
    else if c = '>' then .done d
    else if c = '/' then .next .selfClosing d 0
    else .next .attrName (d.pushAttrName c) 0
  | .afterAttrName =>
    if isSpace c then .next .afterAttrName d 0
    else if c = '=' then .next .beforeValue d 0
    else moveBeforeAttr d c
  | .beforeValue =>
    if isSpace c then .next .beforeValue d 0
    else if c = '"' ∨ c = '\'' then .next (.quoted c) d 0
    else moveUnquoted d c rest
  | .quoted quote =>
    if c = quote then .next .afterValue d 0
    else if c = '&' then moveReference (.quoted quote) quote d rest
    else .next (.quoted quote) (d.pushValue [visible c]) 0
  | .unquoted => moveUnquoted d c rest
  | .afterValue => moveBeforeAttr d c
  | .selfClosing =>
    if c = '>' then .done { d with selfClosing := true } else moveBeforeAttr d c

/-- How the reading of a tag ends. -/
inductive TagEnd where
  | tag (tag : StartTag) (rest : List Char)
  /-- The text is over before the tag is. -/
  | cut
  | overlong (digits : Nat)

/-- Reads on in a tag, passing over `skip` characters first. -/
def readTag : (skip : Nat) → TagState → Draft → List Char → TagEnd
  | _, _, _, [] => .cut
  | skip + 1, state, d, _ :: rest => readTag skip state d rest
  | 0, state, d, c :: rest =>
    match moveTag state d c rest with
    -- The tag is complete only here: in the draft all its texts are in reverse.
    | .done d => .tag d.tag rest
    | .next state d skip => readTag skip state d rest
    | .overlong digits => .overlong digits

/-! Comments -/

/-- Where in a comment the reading stands. -/
inductive CommentState where
  | start
  | startDash
  | body
  | endDash
  | ending
  | endBang

/-- Reads on in a comment; `data` is what it holds so far, in reverse. -/
def readComment : CommentState → (data : List Char) → List Char → List Char × List Char
  | _, data, [] => (data.reverse, [])
  | .start, data, c :: rest =>
    if c = '-' then readComment .startDash data rest
    else if c = nul then readComment .start (replacement :: data) rest
    else if c = '>' then (data.reverse, rest)
    else readComment .body (c :: data) rest
  | .startDash, data, c :: rest =>
    if c = '-' then readComment .ending data rest
    else if c = nul then readComment .startDash (replacement :: '-' :: data) rest
    else if c = '>' then (data.reverse, rest)
    else readComment .body (c :: '-' :: data) rest
  | .body, data, c :: rest =>
    if c = '-' then readComment .endDash data rest
    else readComment .body (visible c :: data) rest
  | .endDash, data, c :: rest =>
    if c = '-' then readComment .ending data rest
    else readComment .body (visible c :: '-' :: data) rest
  | .ending, data, c :: rest =>
    if c = '>' then (data.reverse, rest)
    else if c = '!' then readComment .endBang data rest
    else if c = '-' then readComment .ending ('-' :: data) rest
    else readComment .body (visible c :: '-' :: '-' :: data) rest
  | .endBang, data, c :: rest =>
    if c = '>' then (data.reverse, rest)
    else if c = '-' then readComment .endDash ('!' :: '-' :: '-' :: data) rest
    else readComment .body (visible c :: '!' :: '-' :: '-' :: data) rest

/-- A comment that ends at the first `>`, for markup that is not understood. -/
def readBogusComment (s : List Char) : Token × List Char :=
  (.comment ((s.takeWhile (· != '>')).map visible), (s.dropWhile (· != '>')).drop 1)

/-- A stretch of raw text up to `]]>`, or to the end. -/
def readRawSection : List Char → List Char × List Char
  | [] => ([], [])
  | ']' :: ']' :: '>' :: rest => ([], rest)
  | c :: rest =>
    let (text, after) := readRawSection rest
    (visible c :: text, after)

end HtmlTemplate.Html
