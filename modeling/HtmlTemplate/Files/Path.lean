import HtmlTemplate.Text.Pieces

/-!
Paths: names divided by slashes, from the root or from where one is. Empty names and single dots
mean nothing and are dropped; a double dot is kept, because what it means depends on the files.
-/

namespace HtmlTemplate

structure Path where
  /-- The slashes in front: none, one, or exactly two. -/
  root : String := ""
  names : List String
  deriving DecidableEq, Repr

namespace Path

def rootOf (s : List Char) : String :=
  match s with
  | '/' :: '/' :: '/' :: _ => "/"
  | '/' :: '/' :: _ => "//"
  | '/' :: _ => "/"
  | _ => ""

def read (s : String) : Path :=
  { root := rootOf s.toList
    names :=
      ((Text.pieces ['/'] s.toList).map String.ofList).filter fun name =>
        name != "" && name != "." }

/-- The written form; the path of no names is a single dot. -/
def write (p : Path) : String :=
  if p.root.isEmpty && p.names.isEmpty then "." else p.root ++ "/".intercalate p.names

/-- A path seen from another; one that starts at the root stays itself. -/
def join (p q : Path) : Path :=
  if q.root.isEmpty then { p with names := p.names ++ q.names } else q

/-- The last name. -/
def name (p : Path) : String := p.names.getLast?.getD ""

end Path

end HtmlTemplate
