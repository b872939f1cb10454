import HtmlTemplate.Dom.Export

/-!
The steps in which a tree is built, as values, so that one can speak of any run of them. Only
elements and fragments can hold children and be cloned; a step that asks another node for that is
refused before anything is done.
-/

namespace HtmlTemplate.Dom

inductive Step where
  | fragment
  | element (name : String) (ns : Option String)
  /-- An HTML element with attributes. -/
  | create (name : String) (attrs : List (AttrName × AttrValue))
  | attributes (id : NodeId) (attrs : List (AttrName × AttrValue))
  | comment (data : List Char)
  | doctype
  | clone (source : NodeId)
  | append (parent child : NodeId)
  | insert (parent child ref : NodeId)
  | remove (parent child : NodeId)
  | text (parent : NodeId) (data : List Char) (ref : Option NodeId)
  | reparent (source target : NodeId)
  | exportTree (id : NodeId)

inductive Reply where
  | nothing
  | node (id : NodeId)
  | tree (node : Node)

/-- What is wrong when a node is asked for an operation of elements and fragments. -/
def Store.incapable? (s : Store) (operation : String) (id : NodeId) : Option Failure :=
  match s.content id with
  | .leaf part => some (.noOperation part.kind operation)
  | .ignored => some .notImplemented
  | _ => none

/-- Why a step cannot be begun. -/
def Step.obstacle? (s : Store) : Step → Option Failure
  | .clone source => s.incapable? "cloneNode" source
  | .append parent _ => s.incapable? "appendChild" parent
  | .insert parent _ _ => s.incapable? "insertBefore" parent
  | .remove parent _ => s.incapable? "removeChild" parent
  | .text parent _ _ => s.incapable? "insertText" parent
  | .reparent source target =>
    match s.content source with
    | .leaf part => some (.noOperation part.kind "reparentChildren")
    | _ =>
      -- The target is asked only when there is a child to move.
      if (s.children source).isEmpty then none
      else if source = target then some .unending
      else s.incapable? "appendChild" target
  | _ => none

/-- Does what a step says, whatever the nodes. -/
def carryOut : Step → Build Reply
  | .fragment => .node <$> newNode .fragment
  | .element name ns => .node <$> newElement name ns
  | .create name attrs => do
    let ns := (← get).setup.ns
    .node <$> createElement name ns attrs
  | .attributes id attrs => do
    setAttributes id attrs
    return .nothing
  | .comment data => .node <$> newComment data
  | .doctype => .node <$> newNode .ignored
  | .clone source => .node <$> cloneNode source
  | .append parent child => do
    append parent child
    return .nothing
  | .insert parent child ref => do
    insertBefore parent child ref
    return .nothing
  | .remove parent child => do
    remove parent child
    return .nothing
  | .text parent data ref => do
    insertText parent data ref
    return .nothing
  | .reparent source target => do
    reparentChildren source target
    return .nothing
  | .exportTree id => .tree <$> Dom.exportTree id

def perform (step : Step) : Build Reply := do
  match step.obstacle? (← get) with
  | some failure => throw failure
  | none => carryOut step

/-- The store after a step, whether or not it succeeds. -/
def Step.after (step : Step) (s : Store) : Store :=
  match perform step s with
  | .ok _ s => s
  | .error _ s => s

/-- The store after a run of steps. -/
def runSteps (steps : List Step) (s : Store) : Store := steps.foldl (fun s step => step.after s) s

end HtmlTemplate.Dom
