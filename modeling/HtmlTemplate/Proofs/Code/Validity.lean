import HtmlTemplate.Proofs.Code.Balance
import HtmlTemplate.Proofs.Code.Nesting
import HtmlTemplate.Proofs.Code.Preservation

/-!
Which compiled sources can be loaded. The writer counts open blocks and nothing else, so it lets
branches through that stand behind the last branch of their block; the loader does not. Whether this
happens can be told from the control tags of the tree alone, and where it does, loading fails with a
syntax error. Everything else that a source needs is provided by the compiler: each line can be read,
and blocks are indented as they nest.
-/

namespace HtmlTemplate

/-- The values that a literal of a template has. -/
def Value.isScalar : Value → Bool
  | .bool _ => true
  | .str _ => true
  | .float _ => true
  | _ => false

def Expr.isPlain : Expr → Bool
  | .literal value => value.isScalar
  | .variable _ => true
  | .foreign _ => true

/-- Whether the literals of a tag are such as a template has. -/
def Tag.isPlain : Tag → Bool
  | .ifTag condition => condition.isPlain
  | .elifTag condition => condition.isPlain
  | .expression body => body.isPlain
  | _ => true

/-- Whether no branch stands behind the last branch of its block. Of each open block, the innermost
first, it is known whether its last branch has been started. -/
def orderly : (ended : List Bool) → List Control → Bool
  | _, [] => true
  | ended, .opens :: rest => orderly (false :: ended) rest
  | [], _ :: _ => false
  | _ :: ended, .closes :: rest => orderly ended rest
  | last :: ended, .further :: rest => !last && orderly (false :: ended) rest
  | last :: ended, .otherwise :: rest => !last && orderly (true :: ended) rest

/-- Whether blocks nest at most `room` deep. -/
def nestsWithin : (room : Nat) → List Control → Bool
  | _, [] => true
  | 0, .opens :: _ => false
  | room + 1, .opens :: rest => nestsWithin room rest
  | room, .closes :: rest => nestsWithin (room + 1) rest
  | room, .further :: rest => nestsWithin room rest
  | room, .otherwise :: rest => nestsWithin room rest

end HtmlTemplate

namespace HtmlTemplate.Code

theorem controlsOf_opens (header : Header) (rest : List Event) :
    controlsOf (.opens header :: rest) = .opens :: controlsOf rest := rfl

theorem controlsOf_closes (rest : List Event) :
    controlsOf (.closes :: rest) = .closes :: controlsOf rest := rfl

/-- The branch that a header starts is the last one of its block, or it is not. -/
theorem controlsOf_continues (header : Header) :
    (header.val = .elseHeader ∧
        ∀ rest, controlsOf (.continues header :: rest) = .otherwise :: controlsOf rest) ∨
      (header.val ≠ .elseHeader ∧
        ∀ rest, controlsOf (.continues header :: rest) = .further :: controlsOf rest) := by
  obtain ⟨header, opens⟩ := header
  cases header with
  | elseHeader => exact .inl ⟨rfl, fun _ => rfl⟩
  | _ => exact .inr ⟨by simp, fun _ => rfl⟩

/-- Whether branches of one block are in order, up to the end of the block. -/
def armsOrderly (last : Bool) (controls : List Control) : Bool :=
  orderly [last] (controls ++ [.closes])

theorem armsOrderly_continues (header : Header) (rest : List Event) :
    armsOrderly true (controlsOf (.continues header :: rest)) = false := by
  rcases controlsOf_continues header with ⟨-, control⟩ | ⟨-, control⟩
  · rw [control]
    rfl
  · rw [control]
    rfl

mutual

/-- Blocks that are closed leave the order of what follows to the blocks around them. -/
theorem Nested.orderly_append {events : List Event} {forest : Forest Statement}
    (nested : Nested events forest) (ended : List Bool) (rest : List Control) :
    orderly ended (controlsOf events ++ rest) =
      (orderly [] (controlsOf events) && orderly ended rest) := by
  match nested with
  | .nil => rfl
  | .line statement later => exact later.orderly_append ended rest
  | .block header inside others later =>
    simp only [controlsOf_opens, controlsOf_append, controlsOf_closes, List.cons_append,
      List.append_assoc, orderly, inside.orderly_append, others.orderly_append,
      later.orderly_append, Bool.and_assoc]

/-- The same for the branches of a block, up to its end. -/
theorem NestedArms.orderly_append {events : List Event} {forest : Forest Statement}
    (nested : NestedArms events forest) (last : Bool) (ended : List Bool) (rest : List Control) :
    orderly (last :: ended) (controlsOf events ++ .closes :: rest) =
      (armsOrderly last (controlsOf events) && orderly ended rest) := by
  match nested with
  | .nil => rfl
  | .cons header inside others =>
    rcases controlsOf_continues header with ⟨-, control⟩ | ⟨-, control⟩
    all_goals
      have here := others.orderly_append
      rw [control, controlsOf_append, armsOrderly]
      simp only [List.cons_append, List.append_assoc, orderly, inside.orderly_append, here,
        Bool.and_assoc, Bool.and_true]

end

mutual

theorem Nested.nestsWithin_append {events : List Event} {forest : Forest Statement}
    (nested : Nested events forest) (room : Nat) (rest : List Control) :
    nestsWithin room (controlsOf events ++ rest) =
      (nestsWithin room (controlsOf events) && nestsWithin room rest) := by
  match nested with
  | .nil => simp [controlsOf, nestsWithin]
  | .line statement later => exact later.nestsWithin_append room rest
  | .block header inside others later =>
    cases room with
    | zero => simp [controlsOf_opens, nestsWithin]
    | succ room =>
      simp only [controlsOf_opens, controlsOf_append, controlsOf_closes, List.cons_append,
        List.append_assoc, nestsWithin, inside.nestsWithin_append, others.nestsWithin_append,
        later.nestsWithin_append, Bool.and_assoc]

theorem NestedArms.nestsWithin_append {events : List Event} {forest : Forest Statement}
    (nested : NestedArms events forest) (room : Nat) (rest : List Control) :
    nestsWithin room (controlsOf events ++ rest) =
      (nestsWithin room (controlsOf events) && nestsWithin room rest) := by
  match nested with
  | .nil => simp [controlsOf, nestsWithin]
  | .cons header inside others =>
    rcases controlsOf_continues header with ⟨-, control⟩ | ⟨-, control⟩
    · simp only [control, controlsOf_append, List.cons_append, List.append_assoc, nestsWithin,
        inside.nestsWithin_append, others.nestsWithin_append, Bool.and_assoc]
    · simp only [control, controlsOf_append, List.cons_append, List.append_assoc, nestsWithin,
        inside.nestsWithin_append, others.nestsWithin_append, Bool.and_assoc]

end

section

variable {inner more events : List Event} {body arms later : Forest Statement}

theorem orderly_block (header : Header) (inside : Nested inner body)
    (others : NestedArms more arms) :
    orderly [] (controlsOf (.opens header :: (inner ++ (more ++ .closes :: events)))) =
      (orderly [] (controlsOf inner) &&
        (armsOrderly false (controlsOf more) && orderly [] (controlsOf events))) := by
  rw [controlsOf_opens, controlsOf_append, controlsOf_append, controlsOf_closes, orderly,
    inside.orderly_append, others.orderly_append]

theorem nestsWithin_block {room : Nat} {header : Header} (inside : Nested inner body)
    (others : NestedArms more arms)
    (fits : nestsWithin room
      (controlsOf (.opens header :: (inner ++ (more ++ .closes :: events)))) = true) :
    ∃ less, room = less + 1 ∧ nestsWithin less (controlsOf inner) = true ∧
      nestsWithin less (controlsOf more) = true ∧ nestsWithin room (controlsOf events) = true := by
  rw [controlsOf_opens, controlsOf_append, controlsOf_append, controlsOf_closes] at fits
  cases room with
  | zero => cases fits
  | succ less =>
    rw [nestsWithin, inside.nestsWithin_append, others.nestsWithin_append, nestsWithin] at fits
    simp only [Bool.and_eq_true] at fits
    exact ⟨less, rfl, fits⟩

theorem nestsWithin_arm {room : Nat} {header : Header} (inside : Nested inner body)
    (fits : nestsWithin room (controlsOf (.continues header :: (inner ++ more))) = true) :
    nestsWithin room (controlsOf inner) = true ∧ nestsWithin room (controlsOf more) = true := by
  rw [← Bool.and_eq_true, ← inside.nestsWithin_append, ← controlsOf_append, ← fits]
  rcases controlsOf_continues header with ⟨-, control⟩ | ⟨-, control⟩
  · rw [control, nestsWithin]
  · rw [control, nestsWithin]

theorem armsOrderly_arm {header : Header} {last : Bool} {control : Control}
    (starts : controlsOf (.continues header :: (inner ++ more)) =
      control :: controlsOf (inner ++ more))
    (kind : (control = .otherwise ∧ last = true) ∨ (control = .further ∧ last = false))
    (inside : Nested inner body) :
    armsOrderly false (controlsOf (.continues header :: (inner ++ more))) =
      (orderly [] (controlsOf inner) && armsOrderly last (controlsOf more)) := by
  rw [starts, controlsOf_append, armsOrderly, armsOrderly, List.cons_append, List.append_assoc,
    ← inside.orderly_append]
  rcases kind with ⟨rfl, rfl⟩ | ⟨rfl, rfl⟩ <;> rfl

end

/-- Events whose line can be read: a plain line as a plain one, a header as a header of its kind. -/
def Event.Readable : Event → Prop
  | .line statement =>
    ∃ read, readStatement? statement.val.text.toList = some read ∧ read.isHeader = false
  | .opens header => ∃ test, readStatement? header.val.text.toList = some (.ifHeader test)
  | .continues header =>
    header.val = .elseHeader ∨
      header.val ≠ .elseHeader ∧
        ∃ operand, readStatement? header.val.text.toList = some (.elifHeader operand)
  | .closes => True
  | .unknown _ => True

/-- How a block is read, with the lines behind it left: not at all unless it is valid. -/
inductive Loads (left : List SourceLine) :
    (valid : Bool) → Except LoadError (List Block × List SourceLine) → Prop where
  | read (blocks : List Block) : Loads left true (.ok (blocks, left))
  | refused (line : Nat) : Loads left false (.error (.invalidSyntax line))

/-- How further branches are read. Of branches that are not valid, some may be read first; but then
no block can go on where they end. -/
inductive LoadsArms (level indent : Nat) (left : List SourceLine) :
    (valid : Bool) →
      Except LoadError (List (Test × List Block) × Option (List Block) × List SourceLine) →
      Prop where
  | read (arms : List (Test × List Block)) (otherwise : Option (List Block)) :
      LoadsArms level indent left true (.ok (arms, otherwise, left))
  | refused (line : Nat) : LoadsArms level indent left false (.error (.invalidSyntax line))
  | stuck (arms : List (Test × List Block)) (otherwise : Option (List Block))
      (rest : List SourceLine)
      (refuses : ∀ fuel, ∃ line,
        readBlock level indent rest (fuel + 1) = .error (.invalidSyntax line)) :
      LoadsArms level indent left false (.ok (arms, otherwise, rest))

section

variable {level indent inner number fuel : Nat} {text : List Char} {test : Test}
  {rest afterBody afterArms left : List SourceLine} {valid validArms validRest : Bool}

theorem Loads.statement {statement : Statement} (reads : readStatement? text = some statement)
    (plain : statement.isHeader = false)
    (later : Loads left valid (readBlock level indent rest fuel)) :
    Loads left valid (readBlock level indent ({ number, indent, text } :: rest) (fuel + 1)) := by
  rw [readBlock_statement reads plain]
  generalize readBlock level indent rest fuel = outcome at later
  cases later with
  | read blocks => exact .read _
  | refused line => exact .refused line

/-- A block is valid if its first branch, its further branches and what follows it are. -/
theorem Loads.branches (reads : readStatement? text = some (.ifHeader test))
    (opens : blockIndent number level indent rest = .ok inner)
    (inside : Loads afterBody valid (readBlock (level + 1) inner rest (fuel + 1)))
    (others : LoadsArms level indent afterArms validArms
      (readArms level indent afterBody (fuel + 1)))
    (later : Loads left validRest (readBlock level indent afterArms (fuel + 1))) :
    Loads left (valid && (validArms && validRest))
      (readBlock level indent ({ number, indent, text } :: rest) (fuel + 1 + 1)) := by
  rw [readBlock]
  simp only [Nat.lt_irrefl, if_false, reads, gt_iff_lt, opens, bind, Except.bind]
  generalize readBlock (level + 1) inner rest (fuel + 1) = body at inside
  cases inside with
  | refused line => exact .refused line
  | read body =>
    simp only
    generalize readArms level indent afterBody (fuel + 1) = arms at others
    cases others with
    | refused line => exact .refused line
    | read arms otherwise =>
      simp only
      generalize readBlock level indent afterArms (fuel + 1) = blocks at later
      cases later with
      | refused line => exact .refused line
      | read blocks => exact .read _
    | stuck arms otherwise rest refuses =>
      obtain ⟨line, refused⟩ := refuses fuel
      simp only [refused]
      exact .refused line

theorem LoadsArms.further {operand : Operand}
    (reads : readStatement? text = some (.elifHeader operand))
    (opens : blockIndent number level indent rest = .ok inner)
    (inside : Loads afterBody valid (readBlock (level + 1) inner rest fuel))
    (others : LoadsArms level indent left validArms (readArms level indent afterBody fuel)) :
    LoadsArms level indent left (valid && validArms)
      (readArms level indent ({ number, indent, text } :: rest) (fuel + 1)) := by
  rw [readArms]
  simp only [ne_eq, not_true, if_false, reads, opens, bind, Except.bind]
  generalize readBlock (level + 1) inner rest fuel = body at inside
  cases inside with
  | refused line => exact .refused line
  | read body =>
    simp only
    generalize readArms level indent afterBody fuel = arms at others
    cases others with
    | refused line => exact .refused line
    | read arms otherwise => exact .read _ _
    | stuck arms otherwise rest refuses => exact .stuck _ _ rest refuses

/-- A line that starts a further branch does not go on with a block. -/
theorem readBlock_refuses {statement : Statement} (reads : readStatement? text = some statement)
    (further : statement = .elseHeader ∨ ∃ operand, statement = .elifHeader operand) (fuel : Nat) :
    readBlock level indent ({ number, indent, text } :: rest) (fuel + 1) =
      .error (.invalidSyntax number) := by
  rw [readBlock]
  simp only [Nat.lt_irrefl, if_false, reads, gt_iff_lt]
  rcases further with rfl | ⟨operand, rfl⟩ <;> rfl

/-- The last branch is the end of the branches: if another follows, they are stuck there. -/
theorem LoadsArms.otherwise {events : List Event} {arms : Forest Statement} {after : Nat}
    (nested : NestedArms events arms) (readable : ∀ event ∈ events, event.Readable)
    (reads : readStatement? text = some .elseHeader)
    (opens : blockIndent number level indent rest = .ok inner)
    (inside : Loads (numbered after (arms.lines indent) ++ left) valid
      (readBlock (level + 1) inner rest fuel)) :
    LoadsArms level indent left (valid && armsOrderly true (controlsOf events))
      (readArms level indent ({ number, indent, text } :: rest) (fuel + 1)) := by
  rw [readArms]
  simp only [ne_eq, not_true, if_false, reads, opens, bind, Except.bind]
  generalize readBlock (level + 1) inner rest fuel = body at inside
  cases inside with
  | refused line => exact .refused line
  | read body =>
    cases nested with
    | nil => exact .read [] (some body)
    | cons header within others =>
      rw [armsOrderly_continues]
      refine .stuck _ _ _ fun fuel => ⟨after, ?_⟩
      rcases readable _ List.mem_cons_self with last | ⟨-, operand, reads⟩
      · exact readBlock_refuses (by rw [last]; exact legible_else.reads) (.inl rfl) fuel
      · exact readBlock_refuses reads (.inr ⟨operand, rfl⟩) fuel

end

theorem Nested.outdented {events : List Event} {forest : Forest Statement}
    (nested : Nested events forest) (indent number : Nat) :
    Outdented (indent + 1) (numbered number (forest.lines indent)) := by
  intro line member
  cases nested <;> cases member <;> exact Nat.lt_succ_self indent

theorem NestedArms.outdented {events : List Event} {forest : Forest Statement}
    (nested : NestedArms events forest) (indent number : Nat) :
    Outdented (indent + 1) (numbered number (forest.lines indent)) := by
  intro line member
  cases nested with
  | nil => cases member
  | cons header inside others =>
    cases member
    exact Nat.lt_succ_self indent

theorem Nested.unbranched {events : List Event} {forest : Forest Statement}
    (nested : Nested events forest) (readable : ∀ event ∈ events, event.Readable)
    (indent number : Nat) : Unbranched indent (numbered number (forest.lines indent)) := by
  intro line member same
  cases nested with
  | nil => cases member
  | line statement rest =>
    cases member
    obtain ⟨read, reads, plain⟩ := readable _ List.mem_cons_self
    refine ⟨read, reads, ?_, ?_⟩
    · rintro rfl
      cases plain
    · rintro operand rfl
      cases plain
  | block header inside others rest =>
    cases member
    obtain ⟨test, reads⟩ := readable _ List.mem_cons_self
    exact ⟨_, reads, by simp, by simp⟩

/-- What stands behind a body is less deep, so the body ends there. -/
theorem loads_outdented {level indent fuel : Nat} {rest : List SourceLine}
    (ends : Outdented indent rest) : Loads rest true (readBlock level indent rest fuel) := by
  rw [readBlock_outdented ends]
  exact .read []

theorem length_body (body : Forest Statement) (indent : Nat) :
    ((Forest.cons .pass .nil body).lines indent).length = (body.lines indent).length + 1 := rfl

/-- The body of a branch starts with a line that does nothing. -/
theorem loads_body {level indent : Nat} {body : Forest Statement} {after : List SourceLine}
    {valid : Bool}
    (inside : ∀ number fuel, (body.lines indent).length ≤ fuel →
      Loads after valid (readBlock level indent (numbered number (body.lines indent) ++ after) fuel))
    (number fuel : Nat)
    (enough : ((Forest.cons .pass .nil body).lines indent).length ≤ fuel) :
    Loads after valid (readBlock level indent
      (numbered number ((Forest.cons .pass .nil body).lines indent) ++ after) fuel) := by
  simp only [Forest.lines, List.nil_append, List.length_cons] at enough
  obtain ⟨less, rfl⟩ := Nat.exists_eq_add_of_lt enough
  exact .statement legible_pass.reads rfl (inside (number + 1) _ (by omega))

-- As in the reading of laid out lines, fuel for each line is enough; what follows on the same level
-- needs some of its own.
mutual

/-- Events that nest within the levels there are, are read if they are in order, and are refused if
they are not. -/
theorem Nested.loads {events : List Event} {forest : Forest Statement}
    (nested : Nested events forest) (readable : ∀ event ∈ events, event.Readable)
    {level indent room : Nat} (levels : level + room = mostLevels)
    (fits : nestsWithin room (controlsOf events) = true) (number fuel more : Nat)
    {after left : List SourceLine} (flat : Outdented (indent + 1) after)
    (ends : Unbranched indent after)
    (next : ∀ fuel, more ≤ fuel → Loads left true (readBlock level indent after fuel))
    (enough : (forest.lines indent).length + more ≤ fuel) :
    Loads left (orderly [] (controlsOf events))
      (readBlock level indent (numbered number (forest.lines indent) ++ after) fuel) := by
  match nested with
  | .nil => exact next fuel (by simpa [Forest.lines] using enough)
  | .line statement rest =>
    obtain ⟨⟨read, reads, plain⟩, others⟩ := List.forall_mem_cons.mp readable
    simp only [Forest.lines, List.nil_append, List.length_cons] at enough
    obtain ⟨fuel, rfl⟩ := Nat.exists_eq_succ_of_ne_zero (show fuel ≠ 0 by omega)
    exact .statement reads plain
      (rest.loads others levels fits (number + 1) fuel more flat ends next (by omega))
  | @Nested.block header _ _ _ body _ _ inside arms rest =>
    obtain ⟨⟨test, reads⟩, others⟩ := List.forall_mem_cons.mp readable
    obtain ⟨readableBody, others⟩ := List.forall_mem_append.mp others
    obtain ⟨readableArms, others⟩ := List.forall_mem_append.mp others
    obtain ⟨-, readableRest⟩ := List.forall_mem_cons.mp others
    obtain ⟨less, rfl, fitsBody, fitsArms, fitsRest⟩ := nestsWithin_block inside arms fits
    rw [orderly_block header inside arms]
    rw [Forest.lines, Forest.lines_append] at enough ⊢
    simp only [List.length_cons, List.length_append] at enough
    have filled := length_body body (indent + 4)
    obtain ⟨fuel, rfl⟩ : ∃ n, fuel = n + 1 + 1 := ⟨fuel - 2, by omega⟩
    rw [numbered, List.cons_append, numbered_append, numbered_append, List.append_assoc,
      List.append_assoc]
    -- Every line behind the body is at most as deep as the header, so the body ends there.
    have flatRest (n : Nat) := (rest.outdented indent n).append flat
    have outside (n m : Nat) := ((arms.outdented indent n).append (flatRest m)).mono
      (show indent + 1 ≤ indent + 4 by omega)
    refine .branches reads (blockIndent_of_deeper (by omega) (by omega))
      (loads_body (fun n fuel enough => ?_) _ _ (by omega))
      (arms.loads readableArms levels fitsArms _ _ (flatRest _) ?_ (by omega))
      (rest.loads readableRest levels fitsRest _ _ more flat ends next (by omega))
    · exact inside.loads readableBody (by omega) fitsBody n fuel 0
        ((outside _ _).mono (Nat.le_succ _)) (outside _ _).unbranched
        (fun _ _ => loads_outdented (outside _ _)) enough
    · exact (rest.unbranched readableRest indent _).append ends

theorem NestedArms.loads {events : List Event} {forest : Forest Statement}
    (nested : NestedArms events forest) (readable : ∀ event ∈ events, event.Readable)
    {level indent room : Nat} (levels : level + (room + 1) = mostLevels)
    (fits : nestsWithin room (controlsOf events) = true) (number fuel : Nat)
    {after : List SourceLine} (flat : Outdented (indent + 1) after)
    (ends : Unbranched indent after) (enough : (forest.lines indent).length ≤ fuel) :
    LoadsArms level indent after (armsOrderly false (controlsOf events))
      (readArms level indent (numbered number (forest.lines indent) ++ after) fuel) := by
  match nested with
  | .nil =>
    have read : readArms level indent after fuel = .ok ([], none, after) :=
      readArms_unbranched ends
    exact read ▸ .read [] none
  | .cons header inside others =>
    obtain ⟨first, readable⟩ := List.forall_mem_cons.mp readable
    obtain ⟨readableBody, readableRest⟩ := List.forall_mem_append.mp readable
    obtain ⟨fitsBody, fitsRest⟩ := nestsWithin_arm inside fits
    rw [Forest.lines] at enough ⊢
    simp only [List.length_cons, List.length_append] at enough
    obtain ⟨fuel, rfl⟩ := Nat.exists_eq_succ_of_ne_zero (show fuel ≠ 0 by omega)
    rw [numbered, List.cons_append, numbered_append, List.append_assoc]
    have outside (n : Nat) := ((others.outdented indent n).append flat).mono
      (show indent + 1 ≤ indent + 4 by omega)
    have within (behind : Nat) := loads_body (fun n fuel enough =>
      inside.loads readableBody (show level + 1 + room = mostLevels by omega) fitsBody n fuel 0
        ((outside behind).mono (Nat.le_succ _)) (outside behind).unbranched
        (fun _ _ => loads_outdented (outside behind)) enough)
      (number + 1) fuel (by omega)
    rcases controlsOf_continues header with ⟨last, control⟩ | ⟨further, control⟩
    · rw [armsOrderly_arm (control _) (.inl ⟨rfl, rfl⟩) inside]
      refine .otherwise others readableRest ?_ (blockIndent_of_deeper (by omega) (by omega))
        (within _)
      rw [last]
      exact legible_else.reads
    · obtain last | ⟨-, operand, reads⟩ := first
      · exact absurd last further
      · rw [armsOrderly_arm (control _) (.inr ⟨rfl, rfl⟩) inside]
        exact .further reads (blockIndent_of_deeper (by omega) (by omega)) (within _)
          (others.loads readableRest levels fitsRest _ _ flat ends (by omega))

end

/-- The lines that a routine ends with are read, whatever stands in front of them. -/
theorem loads_lastLines (fragmentTag : String) (number fuel : Nat) (enough : 5 ≤ fuel) :
    Loads [] true (readBlock 1 4 (numbered number (lastLines fragmentTag)) fuel) := by
  have read := (laid_epilogue fragmentTag).read number fuel [] (by simp [Outdented]) enough
  rw [List.append_nil] at read
  rw [lastLines, read]
  exact .read _

theorem load_of_loads {source : String} {rest : List SourceLine} {valid : Bool}
    (lines : sourceLines source.toList =
      { number := 1, indent := 0, text := Statement.define.text.toList } :: rest)
    (opens : blockIndent 1 0 0 rest = .ok 4)
    (loads : Loads [] valid (readBlock 1 4 rest (2 * (rest.length + 1)))) :
    (valid = true → ∃ routine, load source = .ok routine) ∧
      (valid = false → ∃ line, load source = .error (.invalidSyntax line)) := by
  have define : Statement.define.Legible := Statement.legible_of_fixed (by simp [fixedStatements])
  simp only [load, lines, define.reads, opens, List.length_cons, bind, Except.bind]
  generalize readBlock 1 4 rest (2 * (rest.length + 1)) = outcome at loads
  cases loads with
  | read blocks => exact ⟨fun _ => ⟨_, rfl⟩, by simp⟩
  | refused line => exact ⟨by simp, fun _ => ⟨line, rfl⟩⟩

theorem isPlain_firstLines : ∀ statement ∈ [Statement.newNodes, .newStack],
    statement.isHeader = false ∧ statement.isDefined = true := by
  simp [Statement.isHeader, Statement.isDefined]

/-- The events of a routine: those of its template behind the lines that it starts with, which are
plain and nest with the others. -/
def routineEvents (events : List Event) : List Event :=
  ([Statement.newNodes, .newStack].attachWith _ isPlain_firstLines).map .line ++ events

theorem readable_routineEvents {events : List Event}
    (readable : ∀ event ∈ events, event.Readable) :
    ∀ event ∈ routineEvents events, event.Readable := by
  have plain {statement : Statement} (fixed : statement ∈ fixedStatements)
      (plain : statement.isHeader = false) : ∃ read,
      readStatement? statement.text.toList = some read ∧ read.isHeader = false :=
    ⟨statement, (Statement.legible_of_fixed fixed).reads, plain⟩
  exact List.forall_mem_cons.mpr ⟨plain (by simp [fixedStatements]) rfl,
    List.forall_mem_cons.mpr ⟨plain (by simp [fixedStatements]) rfl, readable⟩⟩

/-- The lines of the source of a routine, behind the first. -/
theorem exists_sourceLines {fragmentTag source : String} {events : List Event}
    {body : Forest Statement}
    (lines : sourceLines source.toList = numbered 1 ((routineForest fragmentTag body).lines 0))
    (nested : Nested events body) :
    ∃ whole, Nested (routineEvents events) whole ∧
      sourceLines source.toList =
        { number := 1, indent := 0, text := Statement.define.text.toList } ::
          (numbered 2 (whole.lines 4) ++
            numbered (2 + (whole.lines 4).length) (lastLines fragmentTag)) ∧
      ∀ rest, blockIndent 1 0 0 (numbered 2 (whole.lines 4) ++ rest) = .ok 4 := by
  refine ⟨.cons .newNodes .nil (.cons .newStack .nil body), .line _ (.line _ nested), ?_,
    fun rest => blockIndent_of_deeper (by decide) (by decide)⟩
  rw [lines, lines_routineForest, List.append_assoc, ← numbered_append]
  rfl

/-- The source of nested events that can be read is loaded if they are in order, and is no valid
source if they are not. -/
theorem load_of_nested {fragmentTag source : String} {events : List Event}
    {body : Forest Statement}
    (lines : sourceLines source.toList = numbered 1 ((routineForest fragmentTag body).lines 0))
    (nested : Nested events body) (readable : ∀ event ∈ events, event.Readable)
    (fits : nestsWithin 98 (controlsOf events) = true) :
    (orderly [] (controlsOf events) = true → ∃ routine, load source = .ok routine) ∧
      (orderly [] (controlsOf events) = false →
        ∃ line, load source = .error (.invalidSyntax line)) := by
  obtain ⟨whole, nested, source, opens⟩ := exists_sourceLines lines nested
  have ends := laid_epilogue fragmentTag
  refine load_of_loads source (opens _)
    (nested.loads (readable_routineEvents readable) (show 1 + 98 = mostLevels from rfl) fits 2 _ 5
      (ends.outdented _) (ends.unbranched _) (loads_lastLines fragmentTag _) ?_)
  simp only [List.length_append, length_numbered, lastLines, List.length_cons, List.length_nil]
  omega

/-- The operands of plain expressions can be read. -/
theorem exists_readsAs {value : Value} (scalar : value.isScalar = true) :
    ∃ read, (Operand.constant value).ReadsAs read := by
  cases value with
  | bool b => exact ⟨_, (Operand.legible_bool b).readsAs⟩
  | str s => exact ⟨_, (Operand.legible_str s).readsAs⟩
  | float x => exact Operand.readsAs_float x
  | _ => cases scalar

theorem readable_visitExpr {use : (operand : Operand) → operand.isDefined = true → Event}
    (readable : ∀ operand read defined, operand.ReadsAs read → (use operand defined).Readable)
    {expr : Expr} (plain : expr.isPlain = true) :
    ∀ event ∈ visitExpr use expr, event.Readable := by
  match expr with
  | .literal value =>
    obtain ⟨read, readsAs⟩ := exists_readsAs plain
    exact List.forall_mem_singleton.mpr (readable _ read _ readsAs)
  | .variable name =>
    exact List.forall_mem_singleton.mpr (readable _ _ _ (Operand.legible_lookup name).readsAs)
  | .foreign kind => exact List.forall_mem_singleton.mpr trivial

theorem readable_visitTag {tag : Tag} (plain : tag.isPlain = true) :
    ∀ event ∈ visitTag tag, event.Readable := by
  cases tag with
  | ifTag condition =>
    rw [visitTag]
    refine readable_visitExpr ?_ plain
    intro operand read _ readsAs
    exact ⟨_, Statement.reads_ifHeader (readTest?_operand readsAs)⟩
  | elifTag condition =>
    rw [visitTag]
    refine readable_visitExpr ?_ plain
    intro operand read _ readsAs
    exact .inr ⟨by simp, read, Statement.reads_elifHeader readsAs⟩
  | elseTag => exact List.forall_mem_singleton.mpr (.inl rfl)
  | endIfTag => exact List.forall_mem_singleton.mpr trivial
  | expression body =>
    rw [visitTag]
    refine readable_visitExpr ?_ plain
    intro operand read _ readsAs
    exact ⟨_, Statement.reads_appendOperand readsAs, rfl⟩
  | comment text => exact List.forall_mem_nil _

theorem readable_line {statement : PlainLine} (legible : statement.val.Legible) :
    (Event.line statement).Readable :=
  ⟨_, legible.reads, statement.2.1⟩

theorem readable_visitScope {inner : List Event} {use : PlainLine}
    (inside : ∀ event ∈ inner, event.Readable) (legible : use.val.Legible) :
    ∀ event ∈ visitScope inner use, event.Readable := by
  have saved : Statement.saveNodes.Legible :=
    Statement.legible_of_fixed (by simp [fixedStatements])
  have fresh : Statement.newNodes.Legible := Statement.legible_of_fixed (by simp [fixedStatements])
  have restored : Statement.restoreNodes.Legible :=
    Statement.legible_of_fixed (by simp [fixedStatements])
  refine List.forall_mem_cons.mpr ⟨readable_line saved, List.forall_mem_cons.mpr
    ⟨readable_line fresh, List.forall_mem_append.mpr ⟨inside, ?_⟩⟩⟩
  exact List.forall_mem_cons.mpr
    ⟨readable_line legible, List.forall_mem_singleton.mpr (readable_line restored)⟩

theorem readable_visitKey (key : Option Nat) : ∀ event ∈ visitKey key, event.Readable := by
  cases key with
  | none => exact List.forall_mem_nil _
  | some index =>
    exact List.forall_mem_singleton.mpr (readable_line (Statement.legible_setAttr _ _))

mutual

/-- The events of a tree with plain literals can all be read. -/
theorem readable_visitNode (node : Node) (key : Option Nat)
    (plain : ∀ tag ∈ node.tags .visited, tag.isPlain = true) :
    ∀ event ∈ visitNode node key, event.Readable := by
  match node with
  | .text value =>
    exact List.forall_mem_singleton.mpr (readable_line (Statement.legible_appendText value))
  | .tag t => exact readable_visitTag (plain t List.mem_cons_self)
  | .fragment children => exact readable_visitNodes _ 0 children plain
  | .foreign kind => exact List.forall_mem_singleton.mpr trivial
  | .element label ns attrs children =>
    obtain ⟨plainChildren, plainAttrs⟩ := List.forall_mem_append.mp plain
    have fixed {statement : Statement} (member : statement ∈ fixedStatements) :=
      Statement.legible_of_fixed member
    have inner : ∀ event ∈ visitChildren (visitNodes true 0 children) children,
        event.Readable := by
      cases children with
      | nil =>
        exact List.forall_mem_singleton.mpr (readable_line (fixed (by simp [fixedStatements])))
      | cons node rest =>
        exact readable_visitScope (readable_visitNodes true 0 (node :: rest) plainChildren)
          (fixed (by simp [fixedStatements]))
    refine List.forall_mem_append.mpr ⟨inner, List.forall_mem_cons.mpr
      ⟨readable_line (fixed (by simp [fixedStatements])), List.forall_mem_append.mpr
        ⟨readable_visitAttrs attrs plainAttrs, List.forall_mem_append.mpr
          ⟨readable_visitKey key, ?_⟩⟩⟩⟩
    exact List.forall_mem_singleton.mpr (readable_line (Statement.legible_appendElement label))
termination_by structural node

theorem readable_visitNodes (keyed : Bool) (index : Nat) (nodes : List Node)
    (plain : ∀ tag ∈ nodesTags .visited nodes, tag.isPlain = true) :
    ∀ event ∈ visitNodes keyed index nodes, event.Readable := by
  match nodes with
  | [] => exact List.forall_mem_nil _
  | node :: rest =>
    obtain ⟨first, others⟩ := List.forall_mem_append.mp plain
    exact List.forall_mem_append.mpr ⟨readable_visitNode node _ first,
      readable_visitNodes keyed (index + 1) rest others⟩
termination_by structural nodes

theorem readable_visitAttr (attr : Attr)
    (plain : ∀ tag ∈ attr.tags .visited, tag.isPlain = true) :
    ∀ event ∈ visitAttr attr, event.Readable := by
  match attr with
  | .plain name value =>
    exact List.forall_mem_singleton.mpr (readable_line (Statement.legible_setAttr _ value))
  | .parts name value =>
    exact readable_visitScope (readable_visitNodes false 0 value plain)
      (Statement.legible_joinAttr _)
termination_by structural attr

theorem readable_visitAttrs (attrs : List Attr)
    (plain : ∀ tag ∈ attrsTags .visited attrs, tag.isPlain = true) :
    ∀ event ∈ visitAttrs attrs, event.Readable := by
  match attrs with
  | [] => exact List.forall_mem_nil _
  | attr :: rest =>
    obtain ⟨first, others⟩ := List.forall_mem_append.mp plain
    exact List.forall_mem_append.mpr
      ⟨readable_visitAttr attr first, readable_visitAttrs rest others⟩
termination_by structural attrs

end

end HtmlTemplate.Code

namespace HtmlTemplate

open Code

/-- A tree that is compiled has a visit that nests, which its source is laid out as. -/
theorem exists_nested_of_compile {fragmentTag source : String} {root : Node}
    (accepted : compile fragmentTag root = .ok source) :
    ∃ body, Nested (visitNode root none) body ∧
      sourceLines source.toList = numbered 1 ((routineForest fragmentTag body).lines 0) ∧
      controlsOf (visitNode root none) = root.controls .visited := by
  obtain ⟨w, written, closed, -⟩ := compile_eq_ok_iff.mp accepted
  obtain ⟨body, nested⟩ := (closes_of_written written closed).exists_nested
  obtain ⟨known, -⟩ := openAfter_of_written written
  exact ⟨body, nested, sourceLines_compile accepted nested, controlsOf_visitNode root none known⟩

/-- Of the trees that are compiled, with the literals of templates and blocks that nest at most 98
deep, exactly those give a source that can be loaded in which no branch stands behind the last
branch of its block. The source of any other is refused, with a syntax error. -/
theorem load_compile_iff_orderly {fragmentTag source : String} {root : Node}
    (accepted : compile fragmentTag root = .ok source)
    (plain : ∀ tag ∈ root.tags .visited, tag.isPlain = true)
    (shallow : nestsWithin 98 (root.controls .visited) = true) :
    (orderly [] (root.controls .visited) = true → ∃ routine, load source = .ok routine) ∧
      (orderly [] (root.controls .visited) = false →
        ∃ line, load source = .error (.invalidSyntax line)) := by
  obtain ⟨body, nested, lines, controls⟩ := exists_nested_of_compile accepted
  rw [← controls] at shallow ⊢
  exact load_of_nested lines nested (readable_visitNode root none plain) shallow

/-- Branches among the children of elements, the last of them in another element than the first. -/
def scattered : Node :=
  .fragment
    [.tag (.ifTag (.literal (.float tenth))), .text "a",
      .element "p" none [.plain "id" "x"]
        [.tag (.elifTag (.variable "open")), .text "b", .tag .elseTag,
          .tag (.expression (.literal (.str "c")))],
      .tag .endIfTag]

theorem load_compile_scattered : ∃ source routine, compile "div" scattered = .ok source ∧
    (∀ tag ∈ scattered.tags .visited, tag.isPlain = true) ∧
    nestsWithin 98 (scattered.controls .visited) = true ∧ load source = .ok routine := by
  have accepted : ∃ source, compile "div" scattered = .ok source := ⟨_, rfl⟩
  have plain : ∀ tag ∈ scattered.tags .visited, tag.isPlain = true :=
    List.all_eq_true.mp rfl
  obtain ⟨source, accepted⟩ := accepted
  obtain ⟨routine, loaded⟩ := (load_compile_iff_orderly accepted plain rfl).1 rfl
  exact ⟨source, routine, accepted, plain, rfl, loaded⟩

/-- A block with two last branches. -/
def twoElse : Node :=
  .fragment
    [.tag (.ifTag (.variable "a")), .text "x", .tag .elseTag, .text "y", .tag .elseTag, .text "z",
      .tag .endIfTag]

/-- The source of a block with two last branches is compiled, and cannot be loaded. -/
theorem load_refuses_twoElse : ∃ source, compile "div" twoElse = .ok source ∧
    ∃ line, load source = .error (.invalidSyntax line) := by
  have accepted : ∃ source, compile "div" twoElse = .ok source := ⟨_, rfl⟩
  have plain : ∀ tag ∈ twoElse.tags .visited, tag.isPlain = true := List.all_eq_true.mp rfl
  obtain ⟨source, accepted⟩ := accepted
  obtain ⟨body, nested, lines, -⟩ := exists_nested_of_compile accepted
  refine ⟨source, accepted, ?_⟩
  exact (load_of_nested lines nested (readable_visitNode twoElse none plain) rfl).2 rfl

end HtmlTemplate
