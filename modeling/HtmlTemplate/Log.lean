/-!
Log entries. An entry has a level and is shown where the verbosity reaches it; its stage tells which
part of the work it comes from.
-/

namespace HtmlTemplate

/-- A message that is shown, with its stage. -/
structure Entry where
  stage : String
  message : String
  deriving DecidableEq, Repr

namespace Log

def defaultStage : String := "cowlick"

/-- The entries of a message: one if the verbosity reaches the level, else none. The message is only
built where it is shown. -/
def note (verbosity level : Int) (stage : String) (message : Unit → String) : List Entry :=
  if level ≤ verbosity then [{ stage, message := message () }] else []

end Log

end HtmlTemplate
