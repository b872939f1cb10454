import HtmlTemplate.Decimal.Written
import HtmlTemplate.Files.Path
import HtmlTemplate.Text.Utf8

/-!
A tree of files, as a value. A place is the list of names that leads to it from the root. Looking a
path up goes from name to name: each name on the way has to be a directory, and a double dot goes
back to the directory above.
-/

namespace HtmlTemplate.Files

/-- What is at a place. -/
inductive Item where
  | directory
  | file (content : List UInt8)
  deriving DecidableEq, Repr

abbrev Place := List String

structure Tree where
  /-- Where paths start that do not start at the root. -/
  here : Place := []
  /-- What is at each place, no place twice. The root and the places above `here` are directories
  whether listed or not. -/
  items : List (Place × Item) := []
  deriving DecidableEq, Repr

/-- Why an operation on files fails. -/
inductive Flaw where
  | missing
  | exists
  | notADirectory
  | isADirectory
  deriving DecidableEq, Repr

/-- A flaw with the path it was met at. -/
structure Failure where
  flaw : Flaw
  path : Path
  deriving DecidableEq, Repr

def Flaw.number : Flaw → Nat
  | .missing => 2
  | .exists => 17
  | .notADirectory => 20
  | .isADirectory => 21

def Flaw.text : Flaw → String
  | .missing => "No such file or directory"
  | .exists => "File exists"
  | .notADirectory => "Not a directory"
  | .isADirectory => "Is a directory"

def Failure.message (e : Failure) : String :=
  "[Errno " ++ Decimal.writeInt e.flaw.number ++ "] " ++ e.flaw.text ++ ": "
    ++ Text.quote e.path.write

/-- A change of a tree of files. What is done before a failure stays done. -/
abbrev Change := EStateM Failure Tree

namespace Tree

def item? (tree : Tree) (place : Place) : Option Item :=
  match tree.items.find? fun entry => entry.1 == place with
  | some entry => some entry.2
  | none => if place.isPrefixOf tree.here then some .directory else none

/-- Puts an item at a place. -/
def put (tree : Tree) (place : Place) (item : Item) : Tree :=
  { tree with items := tree.items.filter (fun entry => entry.1 != place) ++ [(place, item)] }

/-- Follows names from a place that is a directory. -/
def follow (tree : Tree) (place : Place) : List String → Except Flaw Place
  | [] => .ok place
  | name :: rest =>
    let next := if name = ".." then place.dropLast else place ++ [name]
    match rest with
    | [] => .ok next
    | _ =>
      match tree.item? next with
      | some .directory => follow tree next rest
      | some (.file _) => .error .notADirectory
      | none => .error .missing

/-- The place that a path leads to, whether anything is there or not. -/
def place (tree : Tree) (path : Path) : Except Flaw Place :=
  follow tree (if path.root.isEmpty then tree.here else []) path.names

/-- What a path leads to, if it leads to anything. -/
def lookup? (tree : Tree) (path : Path) : Option Item :=
  match tree.place path with
  | .ok place => tree.item? place
  | .error _ => none

def exists? (tree : Tree) (path : Path) : Bool := (tree.lookup? path).isSome

def isDirectory (tree : Tree) (path : Path) : Bool :=
  match tree.lookup? path with
  | some .directory => true
  | _ => false

/-- The content of a file. -/
def read (tree : Tree) (path : Path) : Except Failure (List UInt8) :=
  match tree.place path with
  | .error flaw => .error { flaw, path }
  | .ok place =>
    match tree.item? place with
    | some (.file content) => .ok content
    | some .directory => .error { flaw := .isADirectory, path }
    | none => .error { flaw := .missing, path }

/-- Gives a file new content; the file need not be there, but its directory does. -/
def write (tree : Tree) (path : Path) (content : List UInt8) : Except Failure Tree :=
  match tree.place path with
  | .error flaw => .error { flaw, path }
  | .ok place =>
    match tree.item? place with
    | some .directory => .error { flaw := .isADirectory, path }
    | _ => .ok (tree.put place (.file content))

/-- Makes a directory in one that is there. -/
def makeDirectory (tree : Tree) (path : Path) : Except Failure Tree :=
  match tree.place path with
  | .error flaw => .error { flaw, path }
  | .ok place =>
    match tree.item? place with
    | some _ => .error { flaw := .exists, path }
    | none => .ok (tree.put place .directory)

/-- Makes a directory where there is none. -/
def ensureDirectory (path : Path) : Change Unit := fun tree =>
  match tree.makeDirectory path with
  | .ok made => .ok () made
  | .error e => if tree.isDirectory path then .ok () tree else .error e tree

/-- Makes the directory of the given names, the last one first, and those above it. -/
def ensureNames (root : String) : (backward : List String) → Change Unit
  | [] => ensureDirectory { root, names := [] }
  | name :: above => fun tree =>
    let path : Path := { root, names := (name :: above).reverse }
    match tree.makeDirectory path with
    | .ok made => .ok () made
    | .error e =>
      if e.flaw = .missing then
        (do
          ensureNames root above
          ensureDirectory path : Change Unit) tree
      else if tree.isDirectory path then .ok () tree
      else .error e tree

/-- Makes a directory and those above it, as far as they are not there. -/
def ensureDirectories (path : Path) : Change Unit := ensureNames path.root path.names.reverse

/-- The tree with an item under the names, seen from `here`, and directories above it where nothing
is. -/
def plant (tree : Tree) (names : List String) (item : Item) : Tree :=
  plantFrom tree tree.here names
where
  plantFrom (tree : Tree) (place : Place) : List String → Tree
    | [] => tree.put place item
    | name :: rest =>
      let above := if (tree.item? place).isNone then tree.put place .directory else tree
      plantFrom above (place ++ [name]) rest

/-- The items that are new or other than before. -/
def changes (before after : Tree) : List (Place × Item) :=
  after.items.filter fun entry => before.item? entry.1 != some entry.2

/-- The names that lead to a place from `here`, if it lies below. -/
def below? (tree : Tree) (place : Place) : Option (List String) :=
  if tree.here.isPrefixOf place then some (place.drop tree.here.length) else none

end Tree

end HtmlTemplate.Files
