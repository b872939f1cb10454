import HtmlTemplate.Files.Path

/-!
The arguments of the command line: two directories, and options among them in any order. A long
option may be shortened as long as one option fits, and takes its value after an equals sign or from
the next word. Short options may share a dash. After a double dash every word is a plain one.
-/

namespace HtmlTemplate.Command

inductive Flag where
  | help
  | inputFile
  | contextFile
  | outputFile
  | verbosity
  | version
  /-- Taken and left aside. -/
  | saveInputMeta
  | saveOutputMeta
  deriving DecidableEq, Repr

namespace Flag

/-- The spellings of the options. -/
def spellings : List (String × Flag) :=
  [("-h", .help), ("--help", .help), ("--inputFile", .inputFile), ("--contextFile", .contextFile),
    ("--outputFile", .outputFile), ("-v", .verbosity), ("--verbosity", .verbosity),
    ("-V", .version), ("--version", .version), ("--saveinputmeta", .saveInputMeta),
    ("--saveoutputmeta", .saveOutputMeta)]

def spelled? (s : String) : Option Flag := (spellings.find? fun entry => entry.1 == s).map (·.2)

def takesValue : Flag → Bool
  | .inputFile | .contextFile | .outputFile => true
  | _ => false

end Flag

/-- What a run is asked to do. -/
structure Options where
  inputDir : Path
  outputDir : Path
  /-- The template, seen from the input directory. -/
  inputFile : String
  /-- The context, seen from the input directory; an empty name stands for none. -/
  contextFile : Option String := none
  /-- The page, seen from the output directory. -/
  outputFile : String := "index.html"
  verbosity : Nat := 1
  deriving DecidableEq, Repr

/-- Why arguments cannot be understood. -/
inductive UsageError where
  | ambiguous (option : String)
  | noValue (flag : Flag)
  | unexpectedValue (value : String)
  | required
  | unrecognized
  deriving DecidableEq, Repr

def UsageError.message : UsageError → String
  | .ambiguous option => "ambiguous option: " ++ option
  | .noValue _ => "expected one argument"
  | .unexpectedValue value => "ignored explicit argument '" ++ value ++ "'"
  | .required => "--inputFile, inputdir and outputdir are required"
  | .unrecognized => "unrecognized arguments"

/-- What the arguments ask for. -/
inductive Request where
  | render (options : Options)
  | version
  | help
  | unusable (error : UsageError)
  deriving DecidableEq, Repr

/-- A word of the command line. -/
inductive Word where
  | plain (s : String)
  | divider
  | long (flag : Flag) (value : Option String)
  /-- The flag of a dash with one letter, and what follows the letter. -/
  | short (flag : Flag) (rest : Option String)
  | unknown (s : String)
  deriving DecidableEq, Repr

/-- A word cut at its first equals sign. -/
def cutValue (s : List Char) : List Char × Option String :=
  match s.dropWhile (· != '=') with
  | _ :: value => (s.takeWhile (· != '='), some (String.ofList value))
  | [] => (s, none)

/-- Digits after a dash, perhaps with a point before the last of them. -/
def isNegativeNumber : List Char → Bool
  | '-' :: digits =>
    match digits.dropWhile Char.isDigit with
    | [] => !digits.isEmpty
    | '.' :: places => !places.isEmpty && places.all Char.isDigit
    | _ => false
  | _ => false

/-- A word with a dash that is no option: a number, a text with a blank in it, or a mistake. -/
def classifyOther (s : String) : Word :=
  if isNegativeNumber s.toList || s.toList.contains ' ' then .plain s else .unknown s

/-- A word that starts with two dashes and is no option as it stands. -/
def classifyLong (s : String) : Except UsageError Word :=
  let (front, value) := cutValue s.toList
  match Flag.spelled? (String.ofList front) with
  | some flag => .ok (.long flag value)
  | none =>
    match Flag.spellings.filter fun entry => front.isPrefixOf entry.1.toList with
    | [] => .ok (classifyOther s)
    | [(_, flag)] => .ok (.long flag value)
    | _ => .error (.ambiguous s)

/-- A word that starts with one dash and is no option as it stands. -/
def classifyShort (s : String) : Word :=
  let (front, value) := cutValue s.toList
  match Flag.spelled? (String.ofList front), Flag.spelled? (String.ofList (s.toList.take 2)) with
  | some flag, _ => .short flag value
  | none, some flag => .short flag (some (String.ofList (s.toList.drop 2)))
  | none, none => classifyOther s

def classify (s : String) : Except UsageError Word :=
  match s.toList, Flag.spelled? s with
  | '-' :: '-' :: _, some flag => .ok (.long flag none)
  | _, some flag => .ok (.short flag none)
  | '-' :: '-' :: _, none => classifyLong s
  | '-' :: _ :: _, none => .ok (classifyShort s)
  | _, none => .ok (.plain s)

/-- The words of the command line. -/
def classifyAll : List String → Except UsageError (List Word)
  | [] => .ok []
  | s :: rest =>
    if s = "--" then .ok (.divider :: rest.map .plain)
    else do
      let word ← classify s
      let words ← classifyAll rest
      .ok (word :: words)

/-- What is known after some of the words. -/
structure Seen where
  directories : List String := []
  inputFile : Option String := none
  contextFile : Option String := none
  outputFile : Option String := none
  verbosity : Nat := 1
  /-- Whether a word was met that nothing is made of. -/
  strange : Bool := false
  /-- Whether a directory was named since the last option. -/
  named : Bool := false

namespace Seen

def isFull (seen : Seen) : Bool := decide (2 ≤ seen.directories.length)

def plain (seen : Seen) (s : String) : Seen :=
  if seen.isFull then { seen with strange := true }
  else { seen with directories := seen.directories ++ [s], named := true }

/-- Takes the value of an option. -/
def give (seen : Seen) (value : String) : Flag → Seen
  | .inputFile => { seen with inputFile := some value, named := false }
  | .contextFile => { seen with contextFile := some value, named := false }
  | .outputFile => { seen with outputFile := some value, named := false }
  | _ => seen

def finish (seen : Seen) : Request :=
  match seen.directories, seen.inputFile with
  | [inputDir, outputDir], some inputFile =>
    if seen.strange then .unusable .unrecognized
    else
      .render
        { inputDir := .read inputDir
          outputDir := .read outputDir
          inputFile
          contextFile := seen.contextFile
          outputFile := seen.outputFile.getD "index.html"
          verbosity := seen.verbosity }
  | _, _ => .unusable .required

/-- Acts on options without values, one after the other; the first that ends the work does so. -/
def act (seen : Seen) : List Flag → Except Request Seen
  | [] => .ok { seen with named := false }
  | .version :: _ => .error .version
  | .help :: _ => .error .help
  | .verbosity :: rest => act { seen with verbosity := seen.verbosity + 1 } rest
  | _ :: rest => act seen rest

end Seen

/-- The options of the letters that share a dash. -/
def lettersOf (rest : String) : List Char → Except UsageError (List Flag)
  | [] => .ok []
  | c :: more =>
    match Flag.spelled? (String.ofList ['-', c]) with
    | some flag => (lettersOf (String.ofList more) more).map (flag :: ·)
    | none => .error (.unexpectedValue rest)

/-- The options of a word with one dash; what follows the first letter is not empty. -/
def shortFlags (flag : Flag) : Option String → Except UsageError (List Flag)
  | none => .ok [flag]
  | some rest =>
    if rest.isEmpty then .error (.unexpectedValue rest)
    else (lettersOf rest rest.toList).map (flag :: ·)

def readWords (seen : Seen) : List Word → Request
  | [] => seen.finish
  | .plain s :: rest => readWords (seen.plain s) rest
  | .divider :: rest =>
    -- A double dash is in place only where it divides directories that are taken.
    let fits := seen.named || (!rest.isEmpty && !seen.isFull)
    readWords (if fits then seen else { seen with strange := true }) rest
  | .unknown _ :: rest => readWords { seen with strange := true, named := false } rest
  | .short flag value :: rest =>
    match shortFlags flag value with
    | .error e => .unusable e
    | .ok flags =>
      match seen.act flags with
      | .ok seen => readWords seen rest
      | .error request => request
  | .long flag (some value) :: rest =>
    if flag.takesValue then readWords (seen.give value flag) rest
    else .unusable (.unexpectedValue value)
  | .long flag none :: .plain value :: rest =>
    if flag.takesValue then readWords (seen.give value flag) rest
    else
      match seen.act [flag] with
      | .ok seen => readWords (seen.plain value) rest
      | .error request => request
  | .long flag none :: rest =>
    if flag.takesValue then .unusable (.noValue flag)
    else
      match seen.act [flag] with
      | .ok seen => readWords seen rest
      | .error request => request

/-- Reads the arguments of a command line. -/
def readArguments (arguments : List String) : Request :=
  match classifyAll arguments with
  | .ok words => readWords {} words
  | .error e => .unusable e

end HtmlTemplate.Command
