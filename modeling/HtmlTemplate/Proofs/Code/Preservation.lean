import HtmlTemplate.Proofs.Code.Emission

/-!
The code of an outline does what the outline means. One set of registers serves every element under
construction. A run of the blocks of an outline still only adds values to the nodes, with the stack
as before; what it leaves in the other registers is not used again. In the value of an attribute no
element is built, and these registers stay as they are.
-/

namespace HtmlTemplate.Code

variable {context : Option Context}

/-- Goes on with the registers, unless the routine is done or has failed. -/
def andThen (outcome : Except RunError Flow) (next : Registers → Except RunError Flow) :
    Except RunError Flow :=
  match outcome with
  | .ok (.next r) => next r
  | other => other

theorem runBlocks_append (front back : List Block) (r : Registers) :
    runBlocks context (front ++ back) r =
      andThen (runBlocks context front r) (runBlocks context back) := by
  induction front generalizing r with
  | nil => rfl
  | cons block rest ih =>
    show andThen (runBlock context block r) (runBlocks context (rest ++ back)) =
      andThen (andThen (runBlock context block r) (runBlocks context rest)) (runBlocks context back)
    cases runBlock context block r with
    | error e => rfl
    | ok flow =>
      cases flow with
      | next r => exact ih r
      | done value => rfl

/-- The last branch of a block, or nothing. -/
def runLast (context : Option Context) (otherwise : Option (List Block)) (r : Registers) :
    Except RunError Flow :=
  match otherwise with
  | some body => runBlocks context body r
  | none => .ok (.next r)

theorem runBlock_branches (arms : List (Test × List Block)) (otherwise : Option (List Block))
    (r : Registers) :
    runBlock context (.branches arms otherwise) r =
      runArms context arms (runLast context otherwise) r := by
  cases otherwise <;> rfl

/-- How a run answers to a list of values: it fails with it, or adds the values to the nodes. -/
inductive Answers (place : Place) (r : Registers) :
    Except RunError (List Value) → Except RunError Flow → Prop where
  | fails (e : RunError) : Answers place r (.error e) (.error e)
  | adds {values : List Value} {r' : Registers} (nodes : r'.nodes = r.nodes ++ values)
      (stack : r'.stack = r.stack)
      (kept : place = .attribute → r'.children = r.children ∧ r'.attrs = r.attrs) :
      Answers place r (.ok values) (.ok (.next r'))

namespace Answers

variable {place : Place} {r : Registers}

theorem nothing : Answers place r (.ok []) (.ok (.next r)) :=
  .adds (List.append_nil _).symm rfl fun _ => ⟨rfl, rfl⟩

theorem append (value : Value) : Answers place r (.ok [value]) (.ok (.next (r.append value))) :=
  .adds rfl rfl fun _ => ⟨rfl, rfl⟩

/-- Blocks that stand one after the other add their values in this order. -/
theorem seq {first second : Except RunError (List Value)} {front back : List Block}
    (answer : Answers place r first (runBlocks context front r))
    (later : ∀ r, Answers place r second (runBlocks context back r)) :
    Answers place r
      (first >>= fun values => second >>= fun more => .ok (values ++ more))
      (runBlocks context (front ++ back) r) := by
  rw [runBlocks_append]
  generalize runBlocks context front r = outcome at answer
  cases answer with
  | fails e => exact .fails e
  | @adds values r' nodes stack kept =>
    have answer := later r'
    show Answers place r (second >>= fun more => .ok (values ++ more)) (runBlocks context back r')
    generalize runBlocks context back r' = outcome at answer ⊢
    cases answer with
    | fails e => exact .fails e
    | adds nodes' stack' kept' =>
      refine .adds ?_ (stack'.trans stack) fun inside => ?_
      · rw [nodes', nodes, List.append_assoc]
      · exact ⟨(kept' inside).1.trans (kept inside).1, (kept' inside).2.trans (kept inside).2⟩

end Answers

theorem andThen_next (outcome : Except RunError Flow) :
    andThen outcome (fun r => .ok (.next r)) = outcome := by
  cases outcome with
  | error e => rfl
  | ok flow => cases flow <;> rfl

/-- Blocks with nodes of their own start from none, and leave the nodes before as they were. -/
theorem run_inScope (inner : List Block) (use : Statement) (r : Registers) :
    runBlocks context (inScope inner use) r =
      andThen (runBlocks context inner { r with nodes := [], stack := r.nodes :: r.stack })
        fun r => andThen (runStatement context r use) fun r =>
          runStatement context r .restoreNodes := by
  have uses : runBlocks context [.statement use, .statement .restoreNodes] = fun r =>
      andThen (runStatement context r use) fun r => runStatement context r .restoreNodes :=
    funext fun r => congrArg (andThen (runStatement context r use))
      (funext fun r => andThen_next (runStatement context r .restoreNodes))
  rw [← uses, ← runBlocks_append]
  rfl

end HtmlTemplate.Code

namespace HtmlTemplate

open Code

variable {context : Option Context}

theorem Term.eval_operand (term : Term) : term.operand.eval context = term.value context := by
  cases term with
  | lookup name =>
    cases context with
    | none => rfl
    | some entries =>
      simp only [Term.operand, Operand.eval, Value.lookup?, Term.value]
      cases entries.find? fun entry => entry.1 == name <;> rfl
  | _ => rfl

theorem Outline.eq_done_of_nodes {place : Place} {outline : Outline place}
    (empty : outline.nodes = []) : outline = .done := by
  cases outline with
  | done => rfl
  | _ => cases empty

/-- The children of an element are in place once their blocks have run. -/
theorem run_childBlocks {children : Outline .content}
    (inner : ∀ r, Answers .content r (children.meaning context true 0)
      (runBlocks context (children.blocks true 0) r)) (r : Registers) :
    match children.meaning context true 0 with
    | .error e =>
      runBlocks context (childBlocks children.nodes (children.blocks true 0)) r = .error e
    | .ok values => ∃ attrs,
      runBlocks context (childBlocks children.nodes (children.blocks true 0)) r =
        .ok (.next { r with children := some (childrenValue values), attrs }) := by
  by_cases empty : children.nodes.isEmpty
  · rw [Outline.eq_done_of_nodes (List.isEmpty_iff.mp empty)]
    exact ⟨r.attrs, rfl⟩
  · rw [childBlocks, if_neg empty, run_inScope]
    have answer := inner { r with nodes := [], stack := r.nodes :: r.stack }
    generalize runBlocks context (children.blocks true 0) _ = outcome at answer ⊢
    generalize children.meaning context true 0 = meaning at answer ⊢
    cases answer with
    | fails e => rfl
    | @adds values r' nodes stack kept =>
      obtain ⟨nodes', stack', children', attrs'⟩ := r'
      cases nodes
      cases stack
      exact ⟨attrs', rfl⟩

/-- An attribute is set once the blocks of its value have run, and nothing else has changed. -/
theorem run_parts {value : Outline .attribute} {name : String} {r : Registers}
    {props : List (String × Value)}
    (inner : ∀ r, Answers .attribute r (value.meaning context false 0)
      (runBlocks context (value.blocks false 0) r)) (set : r.attrs = some props) :
    runBlocks context (inScope (value.blocks false 0) (.joinAttr name)) r =
      (value.meaning context false 0).map fun values => .next
        { r with
          attrs := some (assign name (.str (String.join (values.map Value.text))) props) } := by
  rw [run_inScope]
  have answer := inner { r with nodes := [], stack := r.nodes :: r.stack }
  generalize runBlocks context (value.blocks false 0) _ = outcome at answer ⊢
  generalize value.meaning context false 0 = meaning at answer ⊢
  cases answer with
  | fails e => rfl
  | @adds values r' nodes stack kept =>
    -- The attributes set before are still there, since no element was built on the way.
    obtain ⟨children, attrs⟩ := kept rfl
    obtain ⟨nodes', stack', children', attrs'⟩ := r'
    cases nodes
    cases stack
    cases children
    cases attrs
    simp only [andThen, runStatement, Registers.assignAttr, set]
    rfl

/-- An element is one value, whatever its registers were used for before. -/
theorem run_element (tag : String) (keyed : Bool) (index : Nat) {attrs : AttrOutline}
    {children : Outline .content}
    (inner : ∀ r, Answers .content r (children.meaning context true 0)
      (runBlocks context (children.blocks true 0) r))
    (named : ∀ r props, r.attrs = some props → runBlocks context attrs.blocks r =
      (attrs.meaning context props).map fun props => .next { r with attrs := some props })
    (r : Registers) :
    Answers .content r
      (do
        let inner ← children.meaning context true 0
        let props ← attrs.meaning context []
        return [.vnode tag (keyedProps keyed index props) (childrenValue inner)])
      (runBlocks context (childBlocks children.nodes (children.blocks true 0) ++
        ([.statement .newAttrs] ++ (attrs.blocks ++
          (keyBlocks keyed index ++ [.statement (.appendElement tag)])))) r) := by
  rw [runBlocks_append]
  have placed := run_childBlocks inner r
  cases meaning : children.meaning context true 0 with
  | error e =>
    rw [meaning] at placed
    rw [placed]
    exact .fails e
  | ok values =>
    rw [meaning] at placed
    obtain ⟨attrs', placed⟩ := placed
    rw [placed]
    -- What the children left in the attributes is gone before the element's own are set.
    show Answers .content r (attrs.meaning context [] >>= _)
      (runBlocks context (attrs.blocks ++ _)
        { r with children := some (childrenValue values), attrs := some [] })
    rw [runBlocks_append, named _ [] rfl]
    cases attrs.meaning context [] with
    | error e => exact .fails e
    | ok props =>
      cases keyed with
      | false => exact .adds rfl rfl (fun inside => nomatch inside)
      | true => exact .adds rfl rfl (fun inside => nomatch inside)

theorem run_shown {place : Place} (term : Term) (r : Registers) :
    Answers place r (term.value context >>= fun value => .ok [.str value.text])
      (runBlocks context [.statement (.appendOperand term.operand)] r) := by
  show Answers place r _ (andThen (term.operand.eval context >>= fun value =>
    .ok (.next (r.append (.str value.text)))) fun r => .ok (.next r))
  rw [term.eval_operand]
  cases term.value context with
  | error e => exact .fails e
  | ok value => exact .append (.str value.text)

/-- The first of several branches is taken if its condition is true, and else the others decide. -/
theorem run_arm {place : Place} (condition : Term) {r : Registers} {body : List Block}
    {arms : List (Test × List Block)} {last : Registers → Except RunError Flow}
    {taken left : Except RunError (List Value)}
    (first : Answers place r taken (runBlocks context body r))
    (second : Answers place r left (runArms context arms last r)) :
    Answers place r (condition.value context >>= fun value => if value.truth then taken else left)
      (runArms context ((.operand condition.operand, .statement .pass :: body) :: arms) last
        r) := by
  rw [runArms, Test.holds, condition.eval_operand]
  cases condition.value context with
  | error e => exact .fails e
  | ok value =>
    simp only [Except.map, ok_bind]
    cases value.truth with
    | true => exact first
    | false => exact second

theorem run_branches {place : Place} {r : Registers} {arms : List (Test × List Block)}
    {otherwise : Option (List Block)} {values : Except RunError (List Value)}
    (answer : Answers place r values (runArms context arms (runLast context otherwise) r)) :
    Answers place r values (runBlocks context [.branches arms otherwise] r) := by
  show Answers place r values
    (andThen (runBlock context (.branches arms otherwise) r) fun r => .ok (.next r))
  rwa [andThen_next, runBlock_branches]

mutual

/-- A run of the blocks of an outline answers to its meaning. -/
theorem Outline.answers {place : Place} (outline : Outline place) (keyed : Bool) (index : Nat)
    (r : Registers) :
    Answers place r (outline.meaning context keyed index)
      (runBlocks context (outline.blocks keyed index) r) := by
  match outline with
  | .done => exact .nothing
  | .text value rest =>
    have first : Answers place r (.ok [.str value])
        (runBlocks context [.statement (.appendText value)] r) := .append (.str value)
    exact first.seq (rest.answers keyed (index + 1))
  | .shown term rest =>
    have whole := (run_shown term r).seq (rest.answers keyed (index + 1))
    rw [bind_assoc] at whole
    exact whole
  | .comment text rest => exact rest.answers keyed (index + 1) r
  | .element tag ns attrs children rest =>
    have whole := (run_element tag keyed index (children.answers true 0) attrs.answers r).seq
      (rest.answers keyed (index + 1))
    simp only [bind_assoc] at whole
    exact whole
  | .choice condition body others rest =>
    -- Only the branch that is taken runs, but the others count for the places behind them.
    have arm := run_arm condition (body.answers keyed (index + 1) r)
      (others.answers keyed (index + 1 + body.nodes.length) r)
    have whole := (run_branches arm).seq
      (rest.answers keyed (index + 1 + body.nodes.length + others.nodes.length + 1))
    rw [bind_assoc] at whole
    exact whole

theorem Branches.answers {place : Place} (branches : Branches place) (keyed : Bool) (index : Nat)
    (r : Registers) :
    Answers place r (branches.meaning context keyed index)
      (runArms context (branches.blocks keyed index).1
        (runLast context (branches.blocks keyed index).2) r) := by
  match branches with
  | .done => exact .nothing
  | .otherwise body => exact body.answers keyed (index + 1) r
  | .further condition body others =>
    exact run_arm condition (body.answers keyed (index + 1) r)
      (others.answers keyed (index + 1 + body.nodes.length) r)

/-- A run of the blocks of attributes adds their properties to the element. -/
theorem AttrOutline.answers (attrs : AttrOutline) (r : Registers) (props : List (String × Value))
    (set : r.attrs = some props) :
    runBlocks context attrs.blocks r =
      (attrs.meaning context props).map fun props => .next { r with attrs := some props } := by
  match attrs with
  | .done =>
    obtain ⟨nodes, stack, children, attrs⟩ := r
    cases set
    rfl
  | .plain name value rest =>
    have sets : runBlocks context [.statement (.setAttr (propName name) value)] r =
        .ok (.next { r with attrs := some (assign (propName name) (.str value) props) }) := by
      simp only [runBlocks, runBlock, runStatement, Registers.assignAttr, set, Except.map]
    rw [AttrOutline.blocks, runBlocks_append, sets]
    exact rest.answers { r with attrs := some (assign (propName name) (.str value) props) } _ rfl
  | .parts name value rest =>
    rw [AttrOutline.blocks, runBlocks_append, run_parts (value.answers false 0) set,
      AttrOutline.meaning]
    cases value.meaning context false 0 with
    | error e => rfl
    | ok values =>
      exact rest.answers { r with attrs := some (assign (propName name)
        (.str (String.join (values.map Value.text))) props) } _ rfl

end

/-- What a routine ends with. -/
def lastBlocks (fragmentTag : String) : List Block :=
  [.branches [(.oneNode, [.statement .returnFirst])] none,
    .branches [(.noNodes, [.statement .returnNone])] none,
    .statement (.returnWrapped fragmentTag)]

/-- The blocks of a routine around those of its outline. -/
def routineBlocks (fragmentTag : String) (body : List Block) : List Block :=
  .statement .newNodes :: .statement .newStack :: (body ++ lastBlocks fragmentTag)

theorem laid_epilogue (fragmentTag : String) :
    Laid 1 4
      [(4, .ifHeader .oneNode), (8, .returnFirst), (4, .ifHeader .noNodes), (8, .returnNone),
        (4, .returnWrapped fragmentTag)]
      (lastBlocks fragmentTag) :=
  have returnsFirst : Laid 2 8 [(8, .returnFirst)] [.statement .returnFirst] :=
    .statement (Statement.legible_of_fixed (by simp [fixedStatements])) rfl .nil
  have returnsNone : Laid 2 8 [(8, .returnNone)] [.statement .returnNone] :=
    .statement (Statement.legible_of_fixed (by simp [fixedStatements])) rfl .nil
  .branches Statement.legible_ifOneNode (by decide) (by decide) returnsFirst .nil
    (.branches Statement.legible_ifNoNodes (by decide) (by decide) returnsNone .nil
      (.statement (Statement.legible_returnWrapped fragmentTag) rfl .nil))

/-- The last blocks of a routine return the page. -/
theorem run_lastBlocks (fragmentTag : String) (r : Registers) :
    runBlocks context (lastBlocks fragmentTag) r = .ok (.done (pageOf fragmentTag r.nodes)) := by
  obtain ⟨nodes, stack, children, attrs⟩ := r
  match nodes with
  | [] => rfl
  | [value] => rfl
  | first :: second :: rest => rfl

theorem run_routineBlocks (fragmentTag : String) (outline : Outline .content) :
    Routine.run ⟨routineBlocks fragmentTag (outline.blocks (1 < outline.nodes.length) 0)⟩ context =
      outline.page fragmentTag context := by
  have answer : Answers .content {} (outline.meaning context (1 < outline.nodes.length) 0) _ :=
    outline.answers (1 < outline.nodes.length) 0 {}
  have body : runBlocks context
      (routineBlocks fragmentTag (outline.blocks (1 < outline.nodes.length) 0)) {} =
        andThen (runBlocks context (outline.blocks (1 < outline.nodes.length) 0) {})
          (runBlocks context (lastBlocks fragmentTag)) := runBlocks_append _ _ _
  rw [Routine.run, body, Outline.page]
  generalize runBlocks context (outline.blocks (1 < outline.nodes.length) 0) {} = outcome
    at answer ⊢
  generalize outline.meaning context (1 < outline.nodes.length) 0 = meaning at answer ⊢
  cases answer with
  | fails e => rfl
  | @adds values r nodes stack kept =>
    simp only [andThen, run_lastBlocks, nodes, List.nil_append, Except.map]

/-- The lines of the routine of an outline, from the second on, and their blocks. -/
theorem compileLines_outline (fragmentTag : String) (outline : Outline .content)
    (shallow : outline.depth ≤ 98) :
    ∃ w lines, compileLines fragmentTag outline.root = .ok w ∧
      w.lines.toList = heldLines ((0, .define) :: (4, .newNodes) :: lines) ∧
      Laid 1 4 ((4, .newNodes) :: lines)
        (routineBlocks fragmentTag (outline.blocks (1 < outline.nodes.length) 0)) := by
  have room : 1 + outline.depth ≤ mostLevels := by
    rw [mostLevels]
    omega
  obtain ⟨lines, laid, write⟩ := outline.emits (1 < outline.nodes.length) 0 1 room 4
  have newNodes : Statement.newNodes.Legible :=
    Statement.legible_of_fixed (by simp [fixedStatements])
  have newStack : Statement.newStack.Legible :=
    Statement.legible_of_fixed (by simp [fixedStatements])
  refine ⟨epilogue fragmentTag (prologue.addAll lines), _, ?_, ?_,
    .statement newNodes rfl (.statement newStack rfl (laid.append (laid_epilogue fragmentTag)))⟩
  · have body : compileNode outline.root none prologue = .ok (prologue.addAll lines) :=
      write prologue rfl
    rw [compileLines, body]
    rfl
  · simp [epilogue, prologue, Writer.addAll, Writer.add, Writer.deeper, Writer.shallower,
      Writer.indentStep, heldLines]

/-- The code of an outline can be compiled and loaded, and running it under any context gives the
page that the outline means, or the first failure on the way to it. -/
theorem compile_preserves_meaning (fragmentTag : String) (outline : Outline .content)
    (shallow : outline.depth ≤ 98) :
    ∃ code routine, compile fragmentTag outline.root = .ok code ∧ load code = .ok routine ∧
      ∀ context, routine.run context = outline.page fragmentTag context := by
  obtain ⟨w, lines, compiled, held, laid⟩ :=
    compileLines_outline fragmentTag outline shallow
  refine ⟨w.text, _, ?_, load_of_laid held (by decide) laid, fun context => run_routineBlocks ..⟩
  rw [compile, compiled]
  rfl

def tenth : Float := Decimal.nearest 1 10

/-- Two paragraphs, one of them empty, with branches in a list of children, in another branch and in
the value of an attribute. -/
def notice : Outline .content :=
  .element "p" none
    (.plain "class" "notice" (.parts "title"
      (.text "at " (.choice (.lookup "late") (.text "night" .done)
        (.otherwise (.shown (.float tenth) .done)) .done)) .done))
    (.comment "body" (.choice (.lookup "late") (.text "closed" .done)
      (.further (.float tenth)
        (.choice (.bool true) (.element "b" none .done .done .done) .done .done)
        (.otherwise (.shown (.str "open") .done))) .done))
    (.element "p" none .done .done .done)

theorem compile_preserves_notice :
    notice.depth ≤ 98 ∧
      ∃ code routine, compile "div" notice.root = .ok code ∧ load code = .ok routine ∧
        ∀ context, routine.run context = notice.page "div" context :=
  ⟨by decide, compile_preserves_meaning "div" notice (by decide)⟩

end HtmlTemplate
