import HtmlTemplate.Command.Run
import HtmlTemplate.Settings.Read

/-!
The command as a program. It looks up what a run may look at, runs the command on that, and carries
out the changes.
-/

namespace HtmlTemplate.Command

/-- The names of an absolute path in its written form. -/
def namesOf (path : String) : List String := (Path.read path).names

/-- Looks a path up on the disk, and the directories on the way to it. The content of a file is only
taken if it is asked for. -/
def loadPath (tree : Files.Tree) (path : Path) (withContent : Bool) : IO Files.Tree := do
  let start ← IO.currentDir
  let mut tree := tree
  for n in List.range (path.names.length + 1) do
    let front : Path := { path with names := path.names.take n }
    if let .ok place := tree.place front then
      let file := start / front.write
      if ← file.isDir then
        tree := tree.put place .directory
      else if ← file.pathExists then
        let content ← if withContent then IO.FS.readBinFile file else pure .empty
        tree := tree.put place (.file content.toList)
  return tree

/-- The files that a run may look at. -/
def loadFiles (options : Options) : IO Files.Tree := do
  let mut tree : Files.Tree := { here := namesOf (← IO.currentDir).toString }
  for path in [options.inputDir, options.outputDir] do
    tree ← loadPath tree path false
  for path in options.outputPath :: options.templatePath :: options.contextPath?.toList do
    tree ← loadPath tree path true
  return tree

/-- Carries out a change. -/
def carryOut (change : Files.Place × Files.Item) : IO Unit := do
  let path := "/" ++ "/".intercalate change.1
  match change.2 with
  | .directory => IO.FS.createDirAll path
  | .file content => IO.FS.writeBinFile path (ByteArray.mk content.toArray)

/-- The variables of the environment that give settings. -/
def loadEnvironment : IO (List (String × String)) := do
  let mut found := []
  for name in Settings.names do
    for key in ["cowlick_" ++ name, "COWLICK_" ++ name.map Char.toUpper] do
      if let some value ← IO.getEnv key then found := found ++ [(key, value)]
  return found

/-- Tells how a command ended, and gives its exit status. -/
def tell (ending : Ending) : IO UInt32 := do
  match ending with
  | .done => return 0
  | .failed e =>
    IO.eprintln (e.report?.getD e.message)
    return 1
  | .unusable e =>
    IO.eprintln ("cowlick: error: " ++ e.message)
    return 2

/-- Runs the command on the disk. -/
def runOnDisk (settings : Settings) (arguments : List String) : IO UInt32 := do
  let before ←
    match readArguments arguments with
    | .render options => loadFiles options
    | _ => pure {}
  let outcome := run settings arguments before
  for entry in outcome.entries do
    IO.eprintln (entry.stage ++ " │ " ++ entry.message)
  for change in Files.Tree.changes before outcome.files do
    carryOut change
  IO.print outcome.output
  tell outcome.ending

end HtmlTemplate.Command

def main (arguments : List String) : IO UInt32 := do
  match HtmlTemplate.Settings.read { environment := ← HtmlTemplate.Command.loadEnvironment } with
  | .ok settings => HtmlTemplate.Command.runOnDisk settings arguments
  | .error refusals =>
    for refusal in refusals do
      IO.eprintln (refusal.name ++ ": " ++ refusal.flaw.message)
    return 1
