import HtmlTemplate.Command.Arguments
import HtmlTemplate.Files.Tree
import HtmlTemplate.Json
import HtmlTemplate.Template

/-!
A run of the command: a template and perhaps a context are read from the input directory, and the
rendered page is written to the output directory. A run is a function of the files it finds, and
says what it logs, how it ends and what files there are then. The page is the last thing that can
fail and the only file that is written.
-/

namespace HtmlTemplate.Command

/-- Why a text file cannot be read. -/
inductive ReadError where
  | file (error : Files.Failure)
  | encoding (fault : Text.Utf8.Fault)
  deriving DecidableEq, Repr

def ReadError.message : ReadError → String
  | .file e => e.message
  | .encoding e => e.message

/-- Why a context cannot be read. -/
inductive ContextError where
  | read (error : ReadError)
  | json (message : String)
  deriving DecidableEq, Repr

def ContextError.message : ContextError → String
  | .read e => e.message
  | .json message => message

/-- Why a run fails. -/
inductive RunFailure where
  | notADirectory (path : Path)
  | noInput (path : Path)
  | noContext (path : Path)
  | input (error : ReadError)
  | template (error : TemplateError)
  | context (error : ContextError)
  | contextNotObject
  | render (error : Code.RunError)
  | output (error : Files.Failure)

/-- Whether an error lies in the template, and not in what becomes of it. -/
def reportable : TemplateError → Bool
  | .extraction _ => true
  | .placement (.build (.placeholder _)) => true
  | .placement _ => false
  | .compile _ => true
  | .load _ => false

namespace RunFailure

/-- What a failed run tells its user. Some failures are not foreseen: of them nothing is told. -/
def report? : RunFailure → Option String
  | .notADirectory path => some ("Not a directory: " ++ path.write)
  | .noInput path => some ("Error: Input file not found: " ++ path.write)
  | .noContext path => some ("Error: Context file not found: " ++ path.write)
  | .input (.file e) => some ("Error reading input file: " ++ e.message)
  | .input (.encoding _) => none
  | .template e => if reportable e then some ("Template error: " ++ e.message) else none
  | .context e => some ("Error reading context file: " ++ e.message)
  | .contextNotObject => some "Error: Context file must hold a JSON object"
  | .render (.missing name) => some ("Render error: context has no value for " ++ Text.quote name)
  | .render _ => none
  | .output _ => none

def message : RunFailure → String
  | .notADirectory path => "Not a directory: " ++ path.write
  | .noInput path => "Input file not found: " ++ path.write
  | .noContext path => "Context file not found: " ++ path.write
  | .input e => e.message
  | .template e => e.message
  | .context e => e.message
  | .contextNotObject => "Context file must hold a JSON object"
  | .render e => e.message
  | .output e => e.message

end RunFailure

/-- The files and the log as a run goes on. -/
structure Progress where
  files : Files.Tree
  entries : List Entry := []

/-- A part of a run. What is done before a failure stays done. -/
abbrev Job := EStateM RunFailure Progress

def note (options : Options) (level : Int) (message : String) : Job Unit :=
  modify fun p =>
    { p with
      entries := p.entries ++ Log.note options.verbosity level Log.defaultStage fun _ => message }

/-- Fails with the cause that a failure is taken for. -/
def attempt {ε α : Type} (cause : ε → RunFailure) : Except ε α → Job α
  | .ok a => pure a
  | .error e => throw (cause e)

/-- Changes the files. -/
def change (act : Files.Change Unit) : Job Unit := fun p =>
  match act p.files with
  | .ok _ files => .ok () { p with files }
  | .error e files => .error (.output e) { p with files }

/-- The text of a file, with its line ends joined. -/
def readText (files : Files.Tree) (path : Path) : Except ReadError (List Char) := do
  let bytes ← (files.read path).mapError .file
  let text ← (Text.Utf8.decode bytes).mapError .encoding
  .ok (Text.joinLineEnds text)

/-- The value in a file. -/
def readValue (files : Files.Tree) (path : Path) : Except ContextError Value := do
  let text ← (readText files path).mapError .read
  (Json.parse (String.ofList text)).mapError .json

/-- The context in a value, which has to be an object. -/
def contextOf? : Value → Option Code.Context
  | .dict entries =>
    some (entries.map fun (name, value) =>
      match name with
      | .str s => (s, value)
      -- The names of an object that was read are texts, so there is no such name.
      | _ => ("", value))
  | _ => none

/-- The paths of the template and the context. -/
structure Inputs where
  template : Path
  context : Option Path

namespace Options

def templatePath (options : Options) : Path := options.inputDir.join (.read options.inputFile)

def contextPath? (options : Options) : Option Path :=
  match options.contextFile with
  | some name => if name.isEmpty then none else some (options.inputDir.join (.read name))
  | none => none

def outputPath (options : Options) : Path := options.outputDir.join (.read options.outputFile)

end Options

/-- Finds the input files, then makes the output directory. -/
def findInputs (options : Options) : Job Inputs := do
  note options 2 "Checking environment..."
  let template := options.templatePath
  if !(← get).files.exists? template then throw (.noInput template)
  note options 2 ("Input file: " ++ template.write)
  if let some context := options.contextPath? then
    if !(← get).files.exists? context then throw (.noContext context)
    note options 2 ("Context file: " ++ context.write)
  change (Files.Tree.ensureDirectories options.outputDir)
  note options 2 ("Output directory: " ++ options.outputDir.write)
  return { template, context := options.contextPath? }

/-- Reads and compiles the template, without the blanks around it. -/
def compileInput (options : Options) (settings : Settings) (inputs : Inputs) : Job Template := do
  note options 1 "Reading template..."
  let text ← attempt .input (readText (← get).files inputs.template)
  let source := Text.trim text
  note options 2 ("Read " ++ Decimal.writeInt source.length ++ " characters from "
    ++ inputs.template.name)
  note options 1 "Compiling template..."
  let traced :=
    Template.compileTraced options.verbosity settings booleanAttributes (String.ofList source)
  modify fun p => { p with entries := p.entries ++ traced.entries }
  attempt .template traced.outcome

/-- The context of a run; without a context file nothing is known. -/
def readContext (inputs : Inputs) : Job Code.Context := do
  match inputs.context with
  | none => return []
  | some path =>
    let value ← attempt .context (readValue (← get).files path)
    match contextOf? value with
    | some context => return context
    | none => throw .contextNotObject

/-- Renders the page and writes it. -/
def writePage (options : Options) (inputs : Inputs) (template : Template) : Job String := do
  -- The template has been compiled by now, so its faults are told before those of the context.
  let context ← readContext inputs
  note options 1 "Rendering..."
  let markup ← attempt .render (template.markup (some context))
  let path := options.outputPath
  let files ←
    attempt .output ((← get).files.write path (Text.Utf8.encode (markup ++ "\n").toList))
  modify fun p => { p with files }
  note options 2 ("Wrote " ++ path.write)
  return markup

/-- Says what was written. -/
def reportPage (options : Options) (markup : String) : Job Unit := do
  note options 1 "\n✓ Rendering successful!"
  note options 1 ("  Output: " ++ options.outputPath.write)
  note options 1 ("  Size:   " ++ Decimal.writeInt markup.length ++ " characters")

/-- Renders a template file. -/
def render (settings : Settings) (options : Options) : Job Unit := do
  let inputs ← findInputs options
  let template ← compileInput options settings inputs
  let markup ← writePage options inputs template
  reportPage options markup

/-- Makes sure of the two directories. The output directory comes first, and is made if it is not
there. -/
def checkDirectories (options : Options) : Job Unit := do
  if !(← get).files.exists? options.outputDir then
    change (Files.Tree.ensureDirectories options.outputDir)
  else if !(← get).files.isDirectory options.outputDir then
    throw (.notADirectory options.outputDir)
  -- Where the input directory is missing, the output directory has been made all the same.
  if !(← get).files.isDirectory options.inputDir then throw (.notADirectory options.inputDir)

def version : String := "0.1.0"

/-- How a command ends. -/
inductive Ending where
  | done
  | failed (failure : RunFailure)
  | unusable (error : UsageError)

/-- The exit status; a failure that is not foreseen has none. -/
def Ending.status? : Ending → Option Nat
  | .done => some 0
  | .failed e => if e.report?.isSome then some 1 else none
  | .unusable _ => some 2

/-- What a command does. -/
structure Outcome where
  files : Files.Tree
  entries : List Entry := []
  output : String := ""
  ending : Ending := .done

/-- Runs the command on its arguments. -/
def run (settings : Settings) (arguments : List String) (files : Files.Tree) : Outcome :=
  match readArguments arguments with
  | .unusable e => { files, ending := .unusable e }
  | .help => { files, output := "usage: cowlick [options] inputdir outputdir\n" }
  | .version => { files, output := "cowlick " ++ version ++ "\n" }
  | .render options =>
    match (checkDirectories options *> render settings options) { files } with
    | .ok _ p => { files := p.files, entries := p.entries }
    | .error e p => { files := p.files, entries := p.entries, ending := .failed e }

end HtmlTemplate.Command
