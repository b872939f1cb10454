import HtmlTemplate.Log.Fields
import HtmlTemplate.Template

/-!
A session of logging. A verbosity may be bound; entries are shown as far as it reaches, and none
while nothing is bound. Connecting binds and disconnecting goes back to what was bound before the
latest connection; a scope binds for the steps inside it only. Compiling a template has a verbosity
of its own and leaves the binding alone.
-/

namespace HtmlTemplate.Log

/-- The verbosity that is bound, if any. -/
abbrev Binding := Option Int

/-- A message to log. -/
structure Message where
  text : String
  level : Int := 1
  stage : Option String := none
  /-- The values of the fields of the message; without any it is taken as it stands. -/
  values : List (String × Value) := []

inductive Step where
  | log (message : Message)
  | connect (binding : Binding)
  | disconnect
  | scope (binding : Binding) (steps : List Step)
  /-- Compiles a template, with the verbosity of its settings unless one is given. -/
  | template (source : String) (verbosity : Option Int) (settings : Settings)

instance : Inhabited Step := ⟨.disconnect⟩

/-- Why a step fails. -/
inductive StepError where
  | field (error : FieldError)
  /-- There is no connection to go back from. -/
  | notConnected
  | template (error : TemplateError)

/-- What a step logs, what the steps inside it do, and why it fails if it does. -/
inductive Reply where
  | mk (entries : List Entry) (inner : Option (List Reply)) (error : Option StepError)

def Reply.quiet : Reply := .mk [] none none

structure Session where
  binding : Binding := none
  /-- What was bound before each connection, the latest first. -/
  earlier : List Binding := []
  deriving DecidableEq, Repr

namespace Session

/-- The stage of a message; an empty one stands for the default. -/
def stageOf (message : Message) : String :=
  match message.stage with
  | some stage => if stage.isEmpty then defaultStage else stage
  | none => defaultStage

/-- Shows a message if the binding reaches its level. -/
def logged (session : Session) (message : Message) : Reply :=
  match session.binding with
  | none => .quiet
  | some verbosity =>
    if verbosity < message.level then .quiet
    else
      let text :=
        if message.values.isEmpty then .ok message.text else fill message.values message.text
      match text with
      | .ok text => .mk [{ stage := stageOf message, message := text }] none none
      | .error e => .mk [] none (some (.field e))

mutual

def step (session : Session) : Step → Session × Reply
  | .log message => (session, session.logged message)
  | .connect binding => ({ binding, earlier := session.binding :: session.earlier }, .quiet)
  | .disconnect =>
    match session.earlier with
    | binding :: earlier => ({ binding, earlier }, .quiet)
    | [] => (session, .mk [] none (some .notConnected))
  | .scope binding steps =>
    let (inside, replies) := run { session with binding } steps
    ({ inside with binding := session.binding }, .mk [] (some replies) none)
  | .template source verbosity settings =>
    let verbosity := verbosity.getD (Template.defaultVerbosity settings)
    let traced := Template.compileTraced verbosity settings booleanAttributes source
    match traced.outcome with
    | .ok _ => (session, .mk traced.entries none none)
    | .error e => (session, .mk traced.entries none (some (.template e)))
termination_by structural s => s

/-- Runs steps one after the other; one that fails does not stop the others. -/
def run (session : Session) : List Step → Session × List Reply
  | [] => (session, [])
  | first :: rest =>
    let (session, reply) := step session first
    let (session, replies) := run session rest
    (session, reply :: replies)
termination_by structural steps => steps

end

end Session

end HtmlTemplate.Log
