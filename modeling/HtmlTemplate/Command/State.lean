import HtmlTemplate.Files.Path
import HtmlTemplate.Value

/-!
The state that a run starts from: the two directories, and named values that options may set. An
option of any other name is left aside, and the directories are never taken from the options.
-/

namespace HtmlTemplate.Command

structure State where
  inputDir : Path
  outputDir : Path
  fields : List (String × Value)

namespace State

/-- The named values of a state, as they are without options. -/
def defaults : List (String × Value) :=
  [("verbosity", .int 1), ("inputFile", .str ""), ("contextFile", .none),
    ("outputFile", .str "index.html"), ("envOK", .bool false), ("context", .dict []),
    ("markup", .str ""), ("source", .str ""), ("rewritten", .str ""), ("code", .str "")]

/-- The state for some options. -/
def ofOptions (options : List (String × Value)) (inputDir outputDir : Path) : State :=
  { inputDir
    outputDir
    fields := defaults.map fun (name, value) => (name, (Value.lookup? name options).getD value) }

/-- A state made anew from the directories and the values of another. -/
def copy (state : State) : State := ofOptions state.fields state.inputDir state.outputDir

end State

end HtmlTemplate.Command
