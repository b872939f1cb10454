import HtmlTemplate.Directive.Parse
import HtmlTemplate.Queue

/-!
Extraction: every directive of a template is cut out and replaced by a placeholder, so that what is
left can be read as HTML. The directives are kept in the order of the template.

A directive is looked for in the text that follows the last one only, so a placeholder never takes
part in a directive, whatever it looks like.
-/

namespace HtmlTemplate

/-- A directive in place: its opener, its whole source, and its offset in the marked text. -/
structure Found where
  opener : List Char
  source : List Char
  offset : Nat
  tag : Tag

inductive ExtractionError where
  | placeholder (error : PlaceholderError)
  | directive (error : DirectiveError)

/-- A template without its directives. -/
structure Extracted where
  marked : List Char
  queue : Queue

namespace Extraction

/-- The directives found so far, and the marked text or the error that ended the scan. -/
structure Scan where
  found : List Found
  outcome : Except DirectiveError (List Char)

def Scan.emit (text : List Char) (scan : Scan) : Scan :=
  { scan with outcome := scan.outcome.map (text ++ ·) }

def Scan.record (found : Found) (scan : Scan) : Scan :=
  { scan with found := found :: scan.found }

/-- Scans a text. `skip` is the number of characters still to pass of the directive that was met
last, and `offset` the length of what is marked so far. -/
def scan (placeholder : List Char) : (skip offset : Nat) → List Char → Scan
  | _, _, [] => { found := [], outcome := .ok [] }
  | skip + 1, offset, _ :: rest => scan placeholder skip offset rest
  | 0, offset, c :: rest =>
    match Directive.openerAt? (c :: rest) with
    | none => (scan placeholder 0 (offset + 1) rest).emit [c]
    | some opener =>
      match Directive.parseFront (c :: rest) with
      | .error e => { found := [], outcome := .error e }
      | .ok (tag, size) =>
        ((scan placeholder (size - 1) (offset + placeholder.length) rest).emit placeholder).record
          { opener, source := (c :: rest).take size, offset, tag }

end Extraction

/-- Cuts the directives out of a template; also gives the directives that were found, even when a
later one fails. -/
def extractWithFound (placeholder template : List Char) :
    List Found × Except ExtractionError Extracted :=
  match Text.indexOf? placeholder template with
  | some position =>
    ([], .error (.placeholder (.reserved (String.ofList placeholder) position)))
  | none =>
    let scan := Extraction.scan placeholder 0 0 template
    (scan.found,
      match scan.outcome with
      | .ok marked => .ok { marked, queue := .ofList (scan.found.map (·.tag)) }
      | .error e => .error (.directive e))

/-- Cuts the directives out of a template. -/
def extract (placeholder template : List Char) : Except ExtractionError Extracted :=
  (extractWithFound placeholder template).2

end HtmlTemplate
