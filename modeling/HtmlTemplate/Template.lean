import HtmlTemplate.Code.Compile
import HtmlTemplate.Code.Run
import HtmlTemplate.Layout
import HtmlTemplate.Log
import HtmlTemplate.Markup
import HtmlTemplate.Placement

/-!
Templates: HTML with directives, compiled to a routine that renders it. Compiling goes through four
stages, each of which may fail: the directives are cut out, the rest is read as HTML with the
directives put back in place, the combined tree is compiled to source, and the source is loaded.
-/

namespace HtmlTemplate

inductive TemplateError where
  | extraction (error : ExtractionError)
  | placement (error : PlacementError)
  | compile (error : CompileError)
  | load (error : Code.LoadError)

def ExtractionError.message : ExtractionError → String
  | .placeholder e => e.message
  | .directive e => e.message

def TemplateError.message : TemplateError → String
  | .extraction e => e.message
  | .placement e => e.message
  | .compile e => e.message
  | .load e => e.message

/-- A compiled template. -/
structure Template where
  source : String
  tree : Node
  code : String
  routine : Code.Routine

/-- A result with the log entries on the way to it, which are kept when it is an error. -/
structure Traced (α : Type) where
  entries : List Entry
  outcome : Except TemplateError α

namespace Traced

/-- Goes on with a stage that has a log of its own. -/
def bind {α β : Type} (t : Traced α) (next : α → Traced β) : Traced β :=
  match t.outcome with
  | .ok a =>
    let rest := next a
    { entries := t.entries ++ rest.entries, outcome := rest.outcome }
  | .error e => { entries := t.entries, outcome := .error e }

end Traced

namespace Template

def foundNote (verbosity : Int) (found : Found) : List Entry :=
  Log.note verbosity 3 Log.defaultStage fun _ =>
    String.ofList found.opener ++ " directive " ++ Text.quote (String.ofList found.source) ++ " at "
      ++ Decimal.writeInt found.offset ++ ": " ++ found.tag.write

/-- Cuts the directives out. -/
def extractStage (verbosity : Int) (settings : Settings) (source : String) : Traced Extracted :=
  let (found, outcome) := extractWithFound settings.placeholder.toList source.toList
  let counted :=
    match outcome with
    | .ok extracted =>
      Log.note verbosity 2 Log.defaultStage fun _ =>
        "Extracted " ++ Decimal.writeInt extracted.queue.size ++ " directives"
    | .error _ => []
  { entries :=
      Log.note verbosity 2 "extract" (fun _ => "Extracting directives...")
        ++ found.flatMap (foundNote verbosity) ++ counted
    outcome := outcome.mapError .extraction }

/-- Reads the page and puts the directives back. -/
def placeStage (verbosity : Int) (settings : Settings) (booleans : List String)
    (extracted : Extracted) : Traced Node :=
  let placed := place { settings, booleans } extracted.marked extracted.queue
  let done :=
    match placed.outcome with
    | .ok tree =>
      Log.note verbosity 2 Log.defaultStage (fun _ =>
        "Placed " ++ Decimal.writeInt placed.queue.popped ++ " directives into the HTML tree")
        ++ Log.note verbosity 3 "html" fun _ => "Combined tree:\n" ++ tree.pretty
    | .error _ => []
  { entries := Log.note verbosity 2 "html" (fun _ => "Parsing HTML...") ++ done
    outcome := placed.outcome.mapError .placement }

/-- Compiles the tree to source. -/
def codeStage (verbosity : Int) (settings : Settings) (tree : Node) : Traced String :=
  let compiled := Code.compileLines settings.fragmentTag tree
  let done :=
    match compiled with
    | .ok writer =>
      Log.note verbosity 2 Log.defaultStage (fun _ =>
        "Generated " ++ Decimal.writeInt writer.lines.size ++ " lines of render source")
        ++ Log.note verbosity 3 "compile" fun _ => "Generated source:\n" ++ writer.text
    | .error _ => []
  { entries := Log.note verbosity 2 "compile" (fun _ => "Generating render routine...") ++ done
    outcome := (compiled.mapError .compile).map Code.Writer.text }

def loadStage (code : String) : Traced Code.Routine :=
  { entries := [], outcome := (Code.load code).mapError .load }

/-- Compiles a template, and says what is logged on the way. -/
def compileTraced (verbosity : Int) (settings : Settings) (booleans : List String)
    (source : String) : Traced Template :=
  (extractStage verbosity settings source).bind fun extracted =>
    (placeStage verbosity settings booleans extracted).bind fun tree =>
      (codeStage verbosity settings tree).bind fun code =>
        (loadStage code).bind fun routine =>
          { entries := [], outcome := .ok { source, tree, code, routine } }

/-- Compiles a template. -/
def compile (settings : Settings) (booleans : List String) (source : String) :
    Except TemplateError Template :=
  (compileTraced 0 settings booleans source).outcome

/-- The verbosity that templates are compiled with unless another is asked for. -/
def defaultVerbosity (settings : Settings) : Int := if settings.debugMode then 3 else 1

/-- Renders a template; without a context nothing is known. -/
def render (template : Template) (context : Option Code.Context) : Except Code.RunError Value :=
  template.routine.run (some (context.getD []))

/-- Renders a template to markup. -/
def markup (template : Template) (context : Option Code.Context) : Except Code.RunError String :=
  (template.render context).map Markup.render

end Template

end HtmlTemplate
