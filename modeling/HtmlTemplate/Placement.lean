import HtmlTemplate.Boolean
import HtmlTemplate.Extraction
import HtmlTemplate.Html.Fragment
import HtmlTemplate.Settings

/-!
Placement: the marked text of a template is read as HTML, and each placeholder in it takes its
directive from the queue. The tree is given only if every directive has found a place.
-/

namespace HtmlTemplate

inductive PlacementError where
  | build (failure : Dom.Failure)
  /-- The fragment has no element to be the content of. -/
  | noContainer
  deriving DecidableEq, Repr

def Dom.Failure.message : Dom.Failure → String
  | .placeholder e => e.message
  | .notAChild child parent => child ++ " is not a child of " ++ parent
  | .emptySentinel => "empty separator"
  | .partsForText => "'list' object has no attribute 'translate'"
  | .overlong digits => Decimal.overlongMessage digits
  | .noOperation kind operation => "'" ++ kind ++ "' object has no attribute '" ++ operation ++ "'"
  | .notImplemented => ""
  | .unending => ""

def PlacementError.message : PlacementError → String
  | .build failure => failure.message
  | .noContainer => ""

/-- How a template is read. -/
structure Reading where
  settings : Settings := {}
  booleans : List String := booleanAttributes
  container : Option String := none
  placeholder : Option String := none

/-- The result of placing directives, with the queue as it was left. -/
structure Placed where
  outcome : Except PlacementError Node
  queue : Queue
  /-- Whether every node of the tree refers to the node that it is a child of. -/
  linked : Bool

def Reading.setup (reading : Reading) : Dom.Setup :=
  { sentinel := (reading.placeholder.getD reading.settings.placeholder).toList
    booleans := reading.booleans
    ns := if reading.settings.namespaceHtmlElements then some Html.htmlNs else none }

/-- Reads the fragment, and refuses to leave directives over. -/
def readPage (total : Nat) (text : List Char) : Html.Parse (Bool × Node) := do
  let fragment ← Html.readFragment text
  let s := (← get).dom
  if !s.queue.isEmpty then throw (.placeholder (.unplaced s.queue.size total))
  let (root, e) := s.objects fragment
  return (root.isLinked e, ← Html.onDom (Dom.exportTree fragment))

/-- Puts the directives of a queue into the page that a text describes. -/
def place (reading : Reading) (text : List Char) (queue : Queue) : Placed :=
  let container := Text.lower (reading.container.getD reading.settings.fragmentContainer)
  let sentinels := reading.settings.count text reading.placeholder
  let failed := fun (e : PlacementError) (queue : Queue) =>
    ({ outcome := .error e, queue, linked := true } : Placed)
  if sentinels ≠ queue.size then
    failed (.build (.placeholder (.countMismatch sentinels queue.size))) queue
  else if container.isEmpty then failed .noContainer queue
  else
    match readPage queue.size text { dom := { setup := reading.setup, queue }, container } with
    | .ok (linked, tree) b => { outcome := .ok tree, queue := b.dom.queue, linked }
    | .error e b => failed (.build e) b.dom.queue

end HtmlTemplate
