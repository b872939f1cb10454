import HtmlTemplate.Code.Read

/-!
Loading the source of a routine: its lines are read into nested blocks by their indentation. A line
that is deeper than the one before opens a block under it; a line that is less deep closes blocks.
A block has at most one last branch without a condition, and blocks nest to a limited depth.
-/

namespace HtmlTemplate.Code

/-- A statement, or branches with their conditions and perhaps a last one without. -/
inductive Block where
  | statement (statement : Statement)
  | branches (arms : List (Test × List Block)) (otherwise : Option (List Block))

/-- Why source cannot be loaded, with the number of the line. -/
inductive LoadError where
  | invalidSyntax (line : Nat)
  | tooDeep (line : Nat)
  deriving DecidableEq, Repr

def LoadError.message : LoadError → String
  | .invalidSyntax line =>
    "invalid syntax (<cowlick template>, line " ++ Decimal.writeInt line ++ ")"
  | .tooDeep line =>
    "too many levels of indentation (<cowlick template>, line " ++ Decimal.writeInt line ++ ")"

/-- A line of source: its number, its indentation, and the rest of it. -/
structure SourceLine where
  number : Nat
  indent : Nat
  text : List Char

/-- The lines of a source in which every line ends with a line feed. -/
def sourceLines (source : List Char) : List SourceLine :=
  (source.splitOn '\n').dropLast.mapIdx fun index line =>
    { number := index + 1
      indent := (line.takeWhile (· == ' ')).length
      text := line.dropWhile (· == ' ') }

/-- The number of levels that indentation can have. -/
def mostLevels : Nat := 99

/-- Whether a statement opens a block. -/
def Statement.isHeader : Statement → Bool
  | .define => true
  | .ifHeader _ => true
  | .elifHeader _ => true
  | .elseHeader => true
  | _ => false

/-- The indentation of the block under a header at `indent`, which is on `level` levels already. -/
def blockIndent (line level indent : Nat) : List SourceLine → Except LoadError Nat
  | [] => .error (.invalidSyntax line)
  | first :: _ =>
    if first.indent ≤ indent then .error (.invalidSyntax first.number)
    else if level ≥ mostLevels then .error (.tooDeep first.number)
    else .ok first.indent

mutual

/-- Reads the lines of a block, which are on `level` levels and indented by `indent`; gives also the
lines after it. -/
def readBlock (level indent : Nat) (lines : List SourceLine) :
    (fuel : Nat) → Except LoadError (List Block × List SourceLine)
  | 0 => .ok ([], lines)
  | fuel + 1 =>
    match lines with
    | [] => .ok ([], [])
    | line :: rest =>
      if line.indent < indent then .ok ([], lines)
      else if line.indent > indent then .error (.invalidSyntax line.number)
      else
        match readStatement? line.text with
        | some (.ifHeader test) => do
          let inner ← blockIndent line.number level indent rest
          let (body, rest) ← readBlock (level + 1) inner rest fuel
          let (arms, otherwise, rest) ← readArms level indent rest fuel
          let (blocks, rest) ← readBlock level indent rest fuel
          .ok (.branches ((test, body) :: arms) otherwise :: blocks, rest)
        | some statement =>
          if statement.isHeader then .error (.invalidSyntax line.number)
          else do
            let (blocks, rest) ← readBlock level indent rest fuel
            .ok (.statement statement :: blocks, rest)
        | none => .error (.invalidSyntax line.number)

/-- Reads the further branches of a block. -/
def readArms (level indent : Nat) (lines : List SourceLine) :
    (fuel : Nat) →
      Except LoadError (List (Test × List Block) × Option (List Block) × List SourceLine)
  | 0 => .ok ([], none, lines)
  | fuel + 1 =>
    match lines with
    | [] => .ok ([], none, [])
    | line :: rest =>
      if line.indent ≠ indent then .ok ([], none, lines)
      else
        match readStatement? line.text with
        | some (.elifHeader operand) => do
          let inner ← blockIndent line.number level indent rest
          let (body, rest) ← readBlock (level + 1) inner rest fuel
          let (arms, otherwise, rest) ← readArms level indent rest fuel
          .ok ((.operand operand, body) :: arms, otherwise, rest)
        | some .elseHeader => do
          let inner ← blockIndent line.number level indent rest
          let (body, rest) ← readBlock (level + 1) inner rest fuel
          .ok ([], some body, rest)
        | _ => .ok ([], none, lines)

end

/-- A routine that is ready to run. -/
structure Routine where
  body : List Block

/-- Loads the source of a routine. -/
def load (source : String) : Except LoadError Routine :=
  let lines := sourceLines source.toList
  match lines with
  | [] => .error (.invalidSyntax 1)
  | head :: rest =>
    match readStatement? head.text with
    | some .define => do
      let inner ← blockIndent head.number 0 0 rest
      let (body, left) ← readBlock 1 inner rest (2 * lines.length)
      match left with
      | [] => .ok { body }
      | line :: _ => .error (.invalidSyntax line.number)
    | _ => .error (.invalidSyntax head.number)

end HtmlTemplate.Code
