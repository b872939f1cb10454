import HtmlTemplate.Proofs.Dom.Conservation
import HtmlTemplate.Proofs.Dom.Price

/-!
Steps that fail. A step that can be begun first pays for the placeholders in what it is given, then
looks for the child that it refers to, and only then changes the tree. So a step that fails leaves
the tree as it was, and the queue without the directives that were paid. Whether a step fails, with
what and at what price, can be told from the step and the store.
-/

namespace HtmlTemplate.Dom

/-- What is wrong with a reference to a child, if anything. -/
def Store.notAChild? (s : Store) (parent child : NodeId) : Option Failure :=
  if child ∈ s.children parent then none
  else some (.notAChild (s.describe child) (s.nameOf parent))

/-! References -/

/-- How building ends that is refused for a cause, before anything is done, or not at all. -/
inductive Asks {α : Type} (wrong : Option Failure) (s : Store) :
    EStateM.Result Failure Store α → Prop where
  | granted {a : α} {after : Store} (fine : wrong = none) : Asks wrong s (.ok a after)
  | denied {e : Failure} (cause : wrong = some e) : Asks wrong s (.error e s)

section Asks

variable {α β : Type} {s : Store} {wrong : Option Failure}

/-- What never fails may follow. -/
theorem Asks.bind {first : Build α} {next : α → Build β} (front : Asks wrong s (first s))
    (back : ∀ a after, ∃ b last, next a after = .ok b last) :
    Asks wrong s ((first >>= next) s) := by
  show Asks wrong s (EStateM.bind first next s)
  unfold EStateM.bind
  generalize first s = outcome at front
  cases front with
  | @granted a after fine =>
    obtain ⟨b, last, run⟩ := back a after
    simp only [run]
    exact .granted fine
  | denied cause => exact .denied cause

theorem childIndex_asks (s : Store) (parent child : NodeId) :
    Asks (s.notAChild? parent child) s (childIndex parent child s) := by
  unfold childIndex Store.notAChild?
  cases found : (s.children parent).idxOf? child with
  | some index =>
    have member : child ∈ s.children parent := by
      by_contra absent
      simp [List.idxOf?_eq_none_iff.mpr absent] at found
    exact .granted (if_pos member)
  | none => exact .denied (if_neg (List.idxOf?_eq_none_iff.mp found))

theorem Asks.error_iff {outcome : EStateM.Result Failure Store α} (asks : Asks wrong s outcome)
    (e : Failure) (after : Store) : outcome = .error e after ↔ wrong = some e ∧ after = s := by
  cases asks with
  | granted fine => simp [fine]
  | denied cause => simp [cause, eq_comm]

theorem Store.notAChild?_eq_some_iff {parent child : NodeId} {e : Failure} :
    s.notAChild? parent child = some e ↔
      child ∉ s.children parent ∧ e = .notAChild (s.describe child) (s.nameOf parent) := by
  by_cases member : child ∈ s.children parent <;> simp [notAChild?, member, eq_comm]

end Asks

/-! Steps -/

/-- How a step ends that has a price and may be refused once it is paid. -/
inductive Settles {α : Type} (price : Nat) (wrong : Option Failure) (s : Store) :
    EStateM.Result Failure Store α → Prop where
  | done {a : α} {after : Store} (enough : price ≤ s.queue.size) (fine : wrong = none) :
      Settles price wrong s (.ok a after)
  | refused {e : Failure} (enough : price ≤ s.queue.size) (cause : wrong = some e) :
      Settles price wrong s (.error e { s with queue := s.queue.skip price })
  | broke (few : s.queue.size < price) :
      Settles price wrong s (.error (runsOut s.queue) { s with queue := s.queue.skip price })
  | unmarked (empty : s.setup.sentinel = []) (count : Nat) :
      Settles price wrong s (.error .emptySentinel { s with queue := s.queue.skip count })

section Settles

variable {α β : Type} {s : Store} {price : Nat} {wrong : Option Failure}

/-- First the price, then the reference. -/
theorem Pays.bind_asks {first : Build α} {next : α → Build β} {mid : α → Prop}
    (front : Pays price s mid (first s))
    (back : ∀ a queue, mid a → Asks wrong { s with queue } (next a { s with queue })) :
    Settles price wrong s ((first >>= next) s) := by
  show Settles price wrong s (EStateM.bind first next s)
  unfold EStateM.bind
  generalize first s = outcome at front
  cases front with
  | @paid a enough holds =>
    have later := back a (s.queue.skip price) holds
    simp only
    generalize next a { s with queue := s.queue.skip price } = last at later
    cases later with
    | granted fine => exact .done enough fine
    | denied cause => exact .refused enough cause
  | broke few => exact .broke few
  | unmarked empty count => exact .unmarked empty count

theorem Pays.settles {post : α → Prop} {outcome : EStateM.Result Failure Store α}
    (pays : Pays price s post outcome) : Settles price none s outcome := by
  cases pays with
  | paid enough => exact .done enough rfl
  | broke few => exact .broke few
  | unmarked empty count => exact .unmarked empty count

theorem Asks.settles {outcome : EStateM.Result Failure Store α} (asks : Asks wrong s outcome) :
    Settles 0 wrong s outcome := by
  cases asks with
  | granted fine => exact .done (Nat.zero_le _) fine
  | denied cause =>
    have refused := Settles.refused (α := α) (Nat.zero_le s.queue.size) cause
    rwa [Queue.skip_zero] at refused

theorem Settles.map {act : Build α} (f : α → β) (settles : Settles price wrong s (act s)) :
    Settles price wrong s ((f <$> act) s) := by
  show Settles price wrong s (EStateM.map f act s)
  unfold EStateM.map
  generalize act s = outcome at settles
  cases settles with
  | done enough fine => exact .done enough fine
  | refused enough cause => exact .refused enough cause
  | broke few => exact .broke few
  | unmarked empty count => exact .unmarked empty count

/-- What has failed has touched nothing but the queue. -/
theorem Settles.intact {e : Failure} {after : Store}
    (settles : Settles (α := α) price wrong s (.error e after)) :
    ∃ count, after = { s with queue := s.queue.skip count } := by
  cases settles with
  | refused => exact ⟨_, rfl⟩
  | broke => exact ⟨_, rfl⟩
  | unmarked empty count => exact ⟨count, rfl⟩

/-- What is wrong with a price or, if it can be paid, with a reference. -/
def failureOf (s : Store) (price : Nat) (wrong : Option Failure) : Option Failure :=
  if s.queue.size < price then some (runsOut s.queue) else wrong

theorem Settles.error_iff {outcome : EStateM.Result Failure Store α}
    (settles : Settles price wrong s outcome) (marked : s.setup.sentinel ≠ []) (e : Failure)
    (after : Store) :
    outcome = .error e after ↔
      failureOf s price wrong = some e ∧ after = { s with queue := s.queue.skip price } := by
  unfold failureOf
  cases settles with
  | done enough fine => simp [Nat.not_lt.mpr enough, fine]
  | refused enough cause => simp [Nat.not_lt.mpr enough, cause, eq_comm]
  | broke few => simp [few, eq_comm]
  | unmarked empty => exact absurd empty marked

end Settles

/-- The number of placeholders in what a step is given. Attributes and text are given to elements and
fragments only. -/
def Step.placeholders (s : Store) : Step → Nat
  | .create _ attrs => placeholdersIn s.setup.sentinel attrs
  | .attributes id attrs =>
    match s.content id with
    | .element .. => placeholdersIn s.setup.sentinel attrs
    | .fragment => placeholdersIn s.setup.sentinel attrs
    | _ => 0
  | .comment data => Text.countOf s.setup.sentinel data
  | .text parent data _ =>
    if s.isContainer parent then Text.countOf s.setup.sentinel data else 0
  | _ => 0

/-- What is wrong with the child that a step refers to. The child is not looked for if there is no text
to be put in front of it. -/
def Step.missingChild? (s : Store) : Step → Option Failure
  | .insert parent _ ref => s.notAChild? parent ref
  | .remove parent child => s.notAChild? parent child
  | .text parent data (some ref) => if data = [] then none else s.notAChild? parent ref
  | _ => none

/-- What is wrong with the nodes that a step is about. -/
def Step.refusal? (s : Store) (step : Step) : Option Failure :=
  (step.obstacle? s).or (step.missingChild? s)

/-- What a step fails with. -/
def Step.failure? (s : Store) (step : Step) : Option Failure :=
  failureOf s (step.placeholders s) (step.refusal? s)

section Steps

variable {s : Store}

theorem createElement_settles (name : String) (ns : Option String)
    (attrs : List (AttrName × AttrValue)) :
    Settles (placeholdersIn s.setup.sentinel attrs) none s (createElement name ns attrs s) := by
  apply Pays.bind_asks (adaptAttributes_pays s attrs)
  intro adapted queue _
  exact .granted rfl

theorem setAttributes_settles (id : NodeId) (attrs : List (AttrName × AttrValue)) :
    Settles ((Step.attributes id attrs).placeholders s) none s (setAttributes id attrs s) := by
  rw [setAttributes, get_bind]
  cases content : s.content id with
  | element name ns old =>
    simp only [Step.placeholders, content]
    apply Pays.bind_asks (adaptAttributes_pays s attrs)
    intro adapted queue _
    exact .granted rfl
  | fragment =>
    simp only [Step.placeholders, content]
    exact .map _ (adaptAttributes_pays s attrs).settles
  | leaf part =>
    simp only [Step.placeholders, content]
    exact .done (Nat.zero_le _) rfl
  | ignored =>
    simp only [Step.placeholders, content]
    exact .done (Nat.zero_le _) rfl

theorem newComment_settles (data : List Char) :
    Settles (Text.countOf s.setup.sentinel data) none s (newComment data s) := by
  have dropped : Pays (Text.countOf s.setup.sentinel data) s (fun _ => True)
      (discard (expand data) s) := (expand_pays s data).map fun _ _ => trivial
  apply Pays.bind_asks dropped
  intro _ queue _
  exact .granted rfl

theorem insertText_settles (parent : NodeId) (data : List Char) (ref : Option NodeId) :
    Settles (Text.countOf s.setup.sentinel data) ((Step.text parent data ref).missingChild? s) s
      (insertText parent data ref s) := by
  apply Pays.bind_asks (expand_pays s data)
  intro parts queue nothing
  cases ref with
  | none =>
    obtain ⟨after, run, -⟩ := forM_appendPart parts parent { s with queue }
    simp only [run]
    exact .granted rfl
  | some ref =>
    -- parts come from text, so the child is looked for just when there is text
    by_cases empty : data = []
    · have none : parts = [] := nothing.mpr empty
      subst none
      exact .granted (by simp [Step.missingChild?, empty])
    · have filled : parts ≠ [] := fun none => empty (nothing.mp none)
      have wrong : (Step.text parent data (some ref)).missingChild? s =
          Store.notAChild? { s with queue } parent ref := if_neg empty
      show Asks _ _ (insertParts parent ref parts { s with queue })
      rw [wrong, insertParts_of_ne_nil filled]
      apply Asks.bind (childIndex_asks { s with queue } parent ref)
      intro index mid
      obtain ⟨ids, last, made, -⟩ := mapM_newNode parts mid
      exact ⟨_, _, bind_ok made _⟩

/-- A step that can be begun pays for its placeholders, then looks for the child that it refers to,
and then does not fail. -/
theorem carryOut_settles {step : Step} (free : step.obstacle? s = none) :
    Settles (step.placeholders s) (step.missingChild? s) s (carryOut step s) := by
  cases step with
  | fragment => exact .done (Nat.zero_le _) rfl
  | element name ns => exact .done (Nat.zero_le _) rfl
  | create name attrs => exact .map _ (createElement_settles name s.setup.ns attrs)
  | attributes id attrs =>
    rw [carryOut, bind_pure_comp]
    exact .map _ (setAttributes_settles id attrs)
  | comment data => exact .map _ (newComment_settles data)
  | doctype => exact .done (Nat.zero_le _) rfl
  | clone source =>
    apply Settles.map
    rw [cloneNode_eq]
    exact .done (Nat.zero_le _) rfl
  | append parent child => exact .done (Nat.zero_le _) rfl
  | insert parent child ref =>
    rw [carryOut, bind_pure_comp]
    apply Settles.map
    apply Asks.settles
    apply Asks.bind (childIndex_asks s parent ref)
    intro index after
    exact ⟨_, _, rfl⟩
  | remove parent child =>
    rw [carryOut, bind_pure_comp]
    apply Settles.map
    apply Asks.settles
    apply Asks.bind (childIndex_asks s parent child)
    intro index after
    exact ⟨_, _, rfl⟩
  | text parent data ref =>
    rw [carryOut, bind_pure_comp, Step.placeholders, if_pos (incapable?_eq_none_iff.mp free)]
    exact .map _ (insertText_settles parent data ref)
  | reparent source target =>
    obtain ⟨after, moved, -⟩ := forM_append (s.children source) target s
    rw [carryOut, bind_pure_comp]
    apply Settles.map
    rw [reparentChildren_eq moved]
    exact .done (Nat.zero_le _) rfl
  | exportTree id => exact .done (Nat.zero_le _) rfl

/-- A step that cannot be begun pays nothing. -/
theorem placeholders_of_obstacle {step : Step} {e : Failure}
    (obstacle : step.obstacle? s = some e) : step.placeholders s = 0 := by
  cases step with
  | text parent data ref => simp [Step.placeholders, isContainer_of_incapable? obstacle]
  | create name attrs => cases obstacle
  | attributes id attrs => cases obstacle
  | comment data => cases obstacle
  | _ => rfl

theorem perform_settles (s : Store) (step : Step) :
    Settles (step.placeholders s) (step.refusal? s) s (perform step s) := by
  unfold Step.refusal?
  cases obstacle : step.obstacle? s with
  | some e =>
    rw [placeholders_of_obstacle obstacle, perform_of_obstacle obstacle]
    exact Asks.settles (.denied rfl)
  | none =>
    rw [perform_of_free obstacle]
    exact carryOut_settles obstacle

/-- A step that fails leaves nothing but a shorter queue. -/
theorem perform_intact {step : Step} {e : Failure} {after : Store}
    (fails : perform step s = .error e after) :
    ∃ count, after = { s with queue := s.queue.skip count } := by
  have settles := perform_settles s step
  rw [fails] at settles
  exact settles.intact

/-- So do any number of failing steps in a row. -/
theorem runSteps_intact {steps : List Step}
    (fail : ∀ before step behind, steps = before ++ step :: behind →
      ∃ e after, perform step (runSteps before s) = .error e after) :
    ∃ count, runSteps steps s = { s with queue := s.queue.skip count } := by
  induction steps generalizing s with
  | nil =>
    refine ⟨0, ?_⟩
    rw [Queue.skip_zero]
    rfl
  | cons step rest ih =>
    obtain ⟨e, after, first⟩ := fail [] step rest rfl
    obtain ⟨count, rfl⟩ := perform_intact first
    -- the others fail in turn, with what the first has left of the queue
    have next : step.after s = { s with queue := s.queue.skip count } := by
      rw [Step.after]
      simp only [runSteps, List.foldl_nil] at first
      rw [first]
    have later := fun before other behind (split : rest = before ++ other :: behind) =>
      fail (step :: before) other behind (by rw [split, List.cons_append])
    simp only [runSteps, List.foldl_cons, next] at later ⊢
    obtain ⟨more, run⟩ := ih later
    refine ⟨count + more, run.trans ?_⟩
    simp only [Queue.skip_skip]

/-- Text in front of a node that is not there. -/
theorem insertText_stray (marked : s.setup.sentinel ≠ []) {parent ref : NodeId}
    (stray : ref ∉ s.children parent) (data : List Char) :
    insertText parent data (some ref) s =
      if s.queue.size < Text.countOf s.setup.sentinel data then
        .error (runsOut s.queue) { s with queue := s.queue.skip s.queue.size }
      else if data ≠ [] then
        .error (.notAChild (s.describe ref) (s.nameOf parent))
          { s with queue := s.queue.skip (Text.countOf s.setup.sentinel data) }
      else .ok () s := by
  have outcome := (insertText_settles (s := s) parent data (some ref)).error_iff marked
  -- Whether the price can be paid comes first, then whether there is text at all.
  split
  · rename_i few
    rw [outcome, Queue.skip_of_size_le (Nat.le_refl _) (Nat.le_of_lt few)]
    exact ⟨if_pos few, rfl⟩
  · rename_i enough
    split
    · rename_i filled
      rw [outcome]
      refine ⟨?_, rfl⟩
      rw [failureOf, if_neg enough, Step.missingChild?, if_neg filled]
      exact Store.notAChild?_eq_some_iff.mpr ⟨stray, rfl⟩
    · rename_i empty
      obtain rfl : data = [] := not_not.mp empty
      exact bind_ok (expand_nil marked) _

end Steps

/-- A step that fails leaves the tree as it was: the store differs in the queue alone, which has lost
the tags that were popped, and so it is after any number of failing steps. If the placeholder is not
empty, what a step fails with is told by `Step.failure?`, and each placeholder in it has then cost a
tag, or all tags are gone. The place of a child fails if there is no such child, and text in front of
no child fails for want of tags, else for want of the child, else, without any text, not at all. With
an empty placeholder all text is refused. -/
theorem failed_steps_keep_tree (s : Store) :
    (∀ step e after, perform step s = .error e after →
      ∃ taken, s.queue.Pops taken after.queue ∧ after = { s with queue := after.queue }) ∧
    (∀ steps : List Step,
      (∀ before step behind, steps = before ++ step :: behind →
        ∃ e after, perform step (runSteps before s) = .error e after) →
      ∃ taken, s.queue.Pops taken (runSteps steps s).queue ∧
        runSteps steps s = { s with queue := (runSteps steps s).queue }) ∧
    (∀ parent child e after, childIndex parent child s = .error e after ↔
      child ∉ s.children parent ∧ e = .notAChild (s.describe child) (s.nameOf parent) ∧
        after = s) ∧
    (s.setup.sentinel ≠ [] → ∀ step e after, perform step s = .error e after ↔
      step.failure? s = some e ∧
        after = { s with queue := s.queue.skip (step.placeholders s) }) ∧
    (s.setup.sentinel ≠ [] → ∀ parent data ref, ref ∉ s.children parent →
      insertText parent data (some ref) s =
        if s.queue.size < Text.countOf s.setup.sentinel data then
          .error (.placeholder (.underflow (s.queue.popped + s.queue.size + 1)))
            { s with queue := s.queue.skip s.queue.size }
        else if data ≠ [] then
          .error (.notAChild (s.describe ref) (s.nameOf parent))
            { s with queue := s.queue.skip (Text.countOf s.setup.sentinel data) }
        else .ok () s) ∧
    (s.setup.sentinel = [] → ∀ parent data ref,
      insertText parent data ref s = .error .emptySentinel s) := by
  refine ⟨?_, ?_, ?_, ?_, ?_, ?_⟩
  · intro step e after fails
    obtain ⟨count, rfl⟩ := perform_intact fails
    exact ⟨_, s.queue.pops_skip count, rfl⟩
  · intro steps fail
    obtain ⟨count, run⟩ := runSteps_intact fail
    rw [run]
    exact ⟨_, s.queue.pops_skip count, rfl⟩
  · intro parent child e after
    rw [(childIndex_asks s parent child).error_iff, Store.notAChild?_eq_some_iff, and_assoc]
  · intro marked step e after
    exact (perform_settles s step).error_iff marked e after
  · intro marked parent data ref stray
    exact insertText_stray marked stray data
  · intro empty parent data ref
    exact bind_error (expand_unmarked empty) _

/-- A paragraph with a text and a table, and one directive, marked by two number signs. -/
def oneDirective : Store :=
  { setup := { sentinel := ['#', '#'], booleans := [], ns := none }
    queue := .ofList [.expression (.variable "title")]
    cells := #[{ content := .element "p" none [], children := [1, 2] },
      { content := .leaf (.text "a"), owner := some (.node 0) },
      { content := .element "table" none [], owner := some (.node 0) }] }

/-- A text with a placeholder too many takes the directive that there is, and a text in front of a node
that is elsewhere takes none. One after the other they leave the tree as it was. -/
theorem failed_steps_keep_tree_oneDirective :
    oneDirective.setup.sentinel ≠ [] ∧ 1 ∉ oneDirective.children 2 ∧
      perform (.text 0 ['b', '#', '#', '#', '#', 'c'] none) oneDirective =
        .error (.placeholder (.underflow 2)) { oneDirective with queue := { popped := 1 } } ∧
      insertText 2 ['d'] (some 1) oneDirective =
        .error (.notAChild "TextLiteral(value='a')" "table") oneDirective ∧
      ∃ taken, oneDirective.queue.Pops taken { popped := 1 } ∧
        runSteps [.text 0 ['b', '#', '#', '#', '#', 'c'] none, .remove 2 1] oneDirective =
          { oneDirective with queue := { popped := 1 } } := by
  obtain ⟨-, run, -, outcome, stray, -⟩ := failed_steps_keep_tree oneDirective
  have marked : oneDirective.setup.sentinel ≠ [] := by decide
  have elsewhere : 1 ∉ oneDirective.children 2 := by decide +kernel
  have first := (outcome marked (.text 0 ['b', '#', '#', '#', '#', 'c'] none)
    (.placeholder (.underflow 2)) _).mpr ⟨by decide +kernel, rfl⟩
  refine ⟨marked, elsewhere, first, stray marked 2 ['d'] 1 elsewhere, ?_⟩
  apply run [.text 0 ['b', '#', '#', '#', '#', 'c'] none, .remove 2 1]
  intro before step behind split
  rcases before with _ | ⟨_, _ | ⟨_, others⟩⟩
  · cases split
    exact ⟨_, _, first⟩
  · cases split
    exact ⟨_, _, rfl⟩
  · simp at split

end HtmlTemplate.Dom
