import HtmlTemplate.Settings
import HtmlTemplate.Text.Lowercase
import HtmlTemplate.Value

/-!
Reading the settings from arguments and from the environment. A setting is given by the argument of
its name, or else by the variable of its name after `COWLICK_`, in letters of either case. Every
refused value is reported: the settings in their order first, then the arguments that name none.
-/

namespace HtmlTemplate.Settings

/-- Where settings come from. -/
structure Sources where
  environment : List (String × String) := []
  arguments : List (String × Value) := []

/-- Why a value is refused. -/
inductive Flaw where
  | notText
  | tooShort
  | tooLong
  /-- A value that cannot be taken for a truth value at all. -/
  | notFlag
  /-- A text or a number that stands for neither truth value. -/
  | unclearFlag
  | unknownName
  deriving DecidableEq, Repr

def Flaw.message : Flaw → String
  | .notText => "Input should be a valid string"
  | .tooShort => "String should have at least 1 character"
  | .tooLong => "String should have at most 1 character"
  | .notFlag => "Input should be a valid boolean"
  | .unclearFlag => "Input should be a valid boolean, unable to interpret input"
  | .unknownName => "Extra inputs are not permitted"

structure Refusal where
  name : String
  flaw : Flaw
  deriving DecidableEq, Repr

def readText : Value → Except Flaw String
  | .str s => .ok s
  | _ => .error .notText

/-- A text of exactly one character. -/
def readCharacter (v : Value) : Except Flaw String := do
  let s ← readText v
  match s.toList with
  | [] => .error .tooShort
  | [_] => .ok s
  | _ => .error .tooLong

/-- The truth value of a word, in letters of either case. -/
def wordFlag? (word : String) : Option Bool :=
  let plain := word.map Char.toLower
  if ["1", "t", "true", "on", "y", "yes"].contains plain then some true
  else if ["0", "f", "false", "off", "n", "no"].contains plain then some false
  else none

def numberFlag? (n : Int) : Option Bool :=
  if n = 1 then some true else if n = 0 then some false else none

/-- A flag: a truth value, a word or a number for one. A number with a fraction, and a
floating-point number that a word of 64 bits cannot hold, is none. -/
def readFlag : Value → Except Flaw Bool
  | .bool b => .ok b
  | .str word => clear (wordFlag? word)
  | .int n => clear (numberFlag? n)
  | .float x =>
    match (Decimal.Binary.ofFloat x).toInt? with
    | some n => if n.natAbs < Nat.pow 2 63 then clear (numberFlag? n) else .error .notFlag
    | none => .error .notFlag
  | _ => .error .notFlag
where
  clear : Option Bool → Except Flaw Bool
    | some b => .ok b
    | none => .error .unclearFlag

/-- The names of the settings, in their order. -/
def names : List String :=
  ["placeholder", "fragment_container", "namespace_html_elements", "fragment_tag", "debug_mode"]

/-- The value of the variable for a setting; the last of several that differ in case only. -/
def Sources.fromEnvironment? (sources : Sources) (name : String) : Option String :=
  let entry? := sources.environment.reverse.find? fun entry =>
    Text.lower entry.1 == "cowlick_" ++ name
  entry?.map (·.2)

/-- The value given for a setting; an argument wins over the environment. -/
def Sources.given? (sources : Sources) (name : String) : Option Value :=
  match Value.lookup? name sources.arguments with
  | some v => some v
  | none => (sources.fromEnvironment? name).map .str

/-- A setting as it is given, or `default` where it is not given or refused. -/
def Sources.setting {α : Type} (sources : Sources) (name : String) (read : Value → Except Flaw α)
    (default : α) : α × List Refusal :=
  match sources.given? name with
  | none => (default, [])
  | some v =>
    match read v with
    | .ok a => (a, [])
    | .error flaw => (default, [{ name, flaw }])

/-- The arguments that name no setting. -/
def Sources.strangers (sources : Sources) : List Refusal :=
  (sources.arguments.filter fun entry => !names.contains entry.1).map fun entry =>
    { name := entry.1, flaw := .unknownName }

/-- Reads the settings. -/
def read (sources : Sources) : Except (List Refusal) Settings :=
  let standard : Settings := {}
  let placeholder := sources.setting "placeholder" readCharacter standard.placeholder
  let container := sources.setting "fragment_container" readText standard.fragmentContainer
  let namespaced :=
    sources.setting "namespace_html_elements" readFlag standard.namespaceHtmlElements
  let tag := sources.setting "fragment_tag" readText standard.fragmentTag
  let debug := sources.setting "debug_mode" readFlag standard.debugMode
  match placeholder.2 ++ container.2 ++ namespaced.2 ++ tag.2 ++ debug.2 ++ sources.strangers with
  | [] =>
    .ok
      { placeholder := placeholder.1
        fragmentContainer := container.1
        namespaceHtmlElements := namespaced.1
        fragmentTag := tag.1
        debugMode := debug.1 }
  | refusals => .error refusals

end HtmlTemplate.Settings
