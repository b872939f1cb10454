import HtmlTemplate.Code.Compile
import HtmlTemplate.Code.Load
import HtmlTemplate.Proofs.Code.Line
import HtmlTemplate.Proofs.Text.Scan

/-!
Loading by indentation. `Laid` says which lines stand for which nested blocks: the lines of a block
have one indentation, and the body of a branch is deeper than its header. Lines that are laid out so
are written to a text whose lines they are, and are read as their blocks.
-/

namespace HtmlTemplate.Code

mutual

/-- Lines at one indentation, on a number of levels, and the blocks that they stand for. -/
inductive Laid : (level indent : Nat) → List (Nat × Statement) → List Block → Prop where
  | nil {level indent : Nat} : Laid level indent [] []
  | statement {level indent : Nat} {statement : Statement} {lines : List (Nat × Statement)}
      {blocks : List Block} (legible : statement.Legible) (plain : statement.isHeader = false)
      (rest : Laid level indent lines blocks) :
      Laid level indent ((indent, statement) :: lines) (.statement statement :: blocks)
  | branches {level indent inner : Nat} {test : Test} {first : Statement}
      {bodyLines otherLines lines : List (Nat × Statement)} {body blocks : List Block}
      {arms : List (Test × List Block)} {otherwise : Option (List Block)}
      (legible : (Statement.ifHeader test).Legible) (room : level < mostLevels)
      (deeper : indent < inner) (inside : Laid (level + 1) inner ((inner, first) :: bodyLines) body)
      (others : LaidArms level indent otherLines arms otherwise)
      (rest : Laid level indent lines blocks) :
      Laid level indent
        ((indent, .ifHeader test) :: ((inner, first) :: bodyLines ++ (otherLines ++ lines)))
        (.branches ((test, body) :: arms) otherwise :: blocks)

/-- The lines of the further branches of a block. -/
inductive LaidArms : (level indent : Nat) → List (Nat × Statement) → List (Test × List Block) →
    Option (List Block) → Prop where
  | nil {level indent : Nat} : LaidArms level indent [] [] none
  | otherwise {level indent inner : Nat} {first : Statement} {bodyLines : List (Nat × Statement)}
      {body : List Block} (room : level < mostLevels) (deeper : indent < inner)
      (inside : Laid (level + 1) inner ((inner, first) :: bodyLines) body) :
      LaidArms level indent ((indent, .elseHeader) :: (inner, first) :: bodyLines) [] (some body)
  | further {level indent inner : Nat} {operand : Operand} {first : Statement}
      {bodyLines otherLines : List (Nat × Statement)} {body : List Block}
      {arms : List (Test × List Block)} {otherwise : Option (List Block)}
      (legible : (Statement.elifHeader operand).Legible) (room : level < mostLevels)
      (deeper : indent < inner) (inside : Laid (level + 1) inner ((inner, first) :: bodyLines) body)
      (others : LaidArms level indent otherLines arms otherwise) :
      LaidArms level indent
        ((indent, .elifHeader operand) :: ((inner, first) :: bodyLines ++ otherLines))
        ((.operand operand, body) :: arms) otherwise

end

/-- Lines as they are numbered in a source, from a number on. -/
def numbered : (number : Nat) → List (Nat × Statement) → List SourceLine
  | _, [] => []
  | number, (indent, statement) :: rest =>
    { number, indent, text := statement.text.toList } :: numbered (number + 1) rest

theorem length_numbered (number : Nat) (lines : List (Nat × Statement)) :
    (numbered number lines).length = lines.length := by
  induction lines generalizing number with
  | nil => rfl
  | cons line rest ih => simp only [numbered, List.length_cons, ih]

theorem numbered_append (number : Nat) (front back : List (Nat × Statement)) :
    numbered number (front ++ back) =
      numbered number front ++ numbered (number + front.length) back := by
  induction front generalizing number with
  | nil => rfl
  | cons line rest ih =>
    simp only [List.cons_append, numbered, ih, List.length_cons, Nat.add_assoc, Nat.add_comm 1]

/-- What follows a block: nothing, or a line that is less deep. -/
def Outdented (indent : Nat) (lines : List SourceLine) : Prop :=
  ∀ line ∈ lines.head?, line.indent < indent

/-- What follows the branches of a block: no line that goes on with them. -/
def Unbranched (indent : Nat) (lines : List SourceLine) : Prop :=
  ∀ line ∈ lines.head?, line.indent = indent →
    ∃ statement, readStatement? line.text = some statement ∧
      statement ≠ .elseHeader ∧ ∀ operand, statement ≠ .elifHeader operand

namespace Laid

theorem append {level indent : Nat} {front back : List (Nat × Statement)}
    {blocks more : List Block} (laid : Laid level indent front blocks)
    (after : Laid level indent back more) :
    Laid level indent (front ++ back) (blocks ++ more) := by
  match laid with
  | .nil => exact after
  | .statement legible plain rest => exact .statement legible plain (rest.append after)
  | .branches legible room deeper inside others rest =>
    rw [List.cons_append, List.append_assoc, List.append_assoc]
    exact .branches legible room deeper inside others (rest.append after)

theorem outdented {level indent : Nat} {lines : List (Nat × Statement)} {blocks : List Block}
    (laid : Laid level indent lines blocks) (number : Nat) :
    Outdented (indent + 1) (numbered number lines) := by
  intro line member
  cases laid <;> cases member <;> exact Nat.lt_succ_self indent

theorem unbranched {level indent : Nat} {lines : List (Nat × Statement)} {blocks : List Block}
    (laid : Laid level indent lines blocks) (number : Nat) :
    Unbranched indent (numbered number lines) := by
  intro line member same
  cases laid with
  | nil => cases member
  | statement legible plain rest =>
    cases member
    refine ⟨_, legible.reads, ?_, ?_⟩
    · rintro rfl
      cases plain
    · rintro operand rfl
      cases plain
  | branches legible =>
    cases member
    exact ⟨_, legible.reads, by simp, by simp⟩

end Laid

theorem LaidArms.outdented {level indent : Nat} {lines : List (Nat × Statement)}
    {arms : List (Test × List Block)} {otherwise : Option (List Block)}
    (laid : LaidArms level indent lines arms otherwise) (number : Nat) :
    Outdented (indent + 1) (numbered number lines) := by
  intro line member
  cases laid <;> cases member <;> exact Nat.lt_succ_self indent

theorem blockIndent_of_deeper {number level indent inner : Nat} {first : Statement}
    {lines : List (Nat × Statement)} {rest : List SourceLine} {line : Nat}
    (room : level < mostLevels) (deeper : indent < inner) :
    blockIndent line level indent (numbered number ((inner, first) :: lines) ++ rest) =
      .ok inner := by
  simp only [numbered, List.cons_append, blockIndent]
  rw [if_neg (by omega), if_neg (by omega)]

theorem readBlock_outdented {level indent fuel : Nat} {rest : List SourceLine}
    (ends : Outdented indent rest) : readBlock level indent rest fuel = .ok ([], rest) := by
  cases fuel with
  | zero => rfl
  | succ fuel =>
    cases rest with
    | nil => rfl
    | cons line rest =>
      have less := ends line rfl
      simp only [readBlock, if_pos less]

theorem readBlock_statement {number level indent fuel : Nat} {text : List Char}
    {statement : Statement} {rest : List SourceLine}
    (reads : readStatement? text = some statement) (plain : statement.isHeader = false) :
    readBlock level indent ({ number, indent, text } :: rest) (fuel + 1) =
      (readBlock level indent rest fuel).map
        fun (blocks, rest) => (.statement statement :: blocks, rest) := by
  simp only [readBlock, Nat.lt_irrefl, if_false, reads, gt_iff_lt]
  cases statement <;> cases plain <;> cases readBlock level indent rest fuel <;> rfl

theorem readArms_unbranched {level indent fuel : Nat} {rest : List SourceLine}
    (ends : Unbranched indent rest) : readArms level indent rest fuel = .ok ([], none, rest) := by
  cases fuel with
  | zero => rfl
  | succ fuel =>
    cases rest with
    | nil => rfl
    | cons line rest =>
      by_cases same : line.indent = indent
      · obtain ⟨statement, reads, notElse, notElif⟩ := ends line rfl same
        simp only [readArms, same, ne_eq, not_true, if_false, reads]
        -- The line is a statement, so it is read, but not as the header of a branch.
        split
        next operand equal => exact absurd (Option.some.inj equal) (notElif operand)
        next equal => exact absurd (Option.some.inj equal) notElse
        next => rfl
      · simp only [readArms, ne_eq, same, not_false_eq_true, if_true]

theorem readBlock_if {number level indent inner fuel : Nat} {text : List Char} {test : Test}
    {rest afterBody afterArms left : List SourceLine} {body blocks : List Block}
    {arms : List (Test × List Block)} {otherwise : Option (List Block)}
    (reads : readStatement? text = some (.ifHeader test))
    (opens : blockIndent number level indent rest = .ok inner)
    (inside : readBlock (level + 1) inner rest fuel = .ok (body, afterBody))
    (others : readArms level indent afterBody fuel = .ok (arms, otherwise, afterArms))
    (later : readBlock level indent afterArms fuel = .ok (blocks, left)) :
    readBlock level indent ({ number, indent, text } :: rest) (fuel + 1) =
      .ok (.branches ((test, body) :: arms) otherwise :: blocks, left) := by
  simp only [readBlock, Nat.lt_irrefl, if_false, reads, gt_iff_lt, opens, inside, others, later,
    bind, Except.bind]

theorem readArms_elif {number level indent inner fuel : Nat} {text : List Char} {operand : Operand}
    {rest afterBody left : List SourceLine} {body : List Block}
    {arms : List (Test × List Block)} {otherwise : Option (List Block)}
    (reads : readStatement? text = some (.elifHeader operand))
    (opens : blockIndent number level indent rest = .ok inner)
    (inside : readBlock (level + 1) inner rest fuel = .ok (body, afterBody))
    (others : readArms level indent afterBody fuel = .ok (arms, otherwise, left)) :
    readArms level indent ({ number, indent, text } :: rest) (fuel + 1) =
      .ok ((.operand operand, body) :: arms, otherwise, left) := by
  simp only [readArms, ne_eq, not_true, if_false, reads, opens, inside, others, bind, Except.bind]

theorem readArms_else {number level indent inner fuel : Nat} {text : List Char}
    {rest left : List SourceLine} {body : List Block}
    (reads : readStatement? text = some .elseHeader)
    (opens : blockIndent number level indent rest = .ok inner)
    (inside : readBlock (level + 1) inner rest fuel = .ok (body, left)) :
    readArms level indent ({ number, indent, text } :: rest) (fuel + 1) =
      .ok ([], some body, left) := by
  simp only [readArms, ne_eq, not_true, if_false, reads, opens, inside, bind, Except.bind]

theorem legible_else : Statement.elseHeader.Legible :=
  Statement.legible_of_fixed (by simp [fixedStatements])

theorem Outdented.append {indent : Nat} {front back : List SourceLine}
    (first : Outdented indent front) (second : Outdented indent back) :
    Outdented indent (front ++ back) := by
  cases front with
  | nil => exact second
  | cons line rest => exact first

theorem Unbranched.append {indent : Nat} {front back : List SourceLine}
    (first : Unbranched indent front) (second : Unbranched indent back) :
    Unbranched indent (front ++ back) := by
  cases front with
  | nil => exact second
  | cons line rest => exact first

theorem Outdented.mono {indent inner : Nat} {lines : List SourceLine}
    (ends : Outdented indent lines) (deeper : indent ≤ inner) : Outdented inner lines :=
  fun line member => (ends line member).trans_le deeper

theorem Outdented.unbranched {indent : Nat} {lines : List SourceLine}
    (ends : Outdented indent lines) : Unbranched indent lines :=
  fun line member same => absurd (ends line member) (by omega)

-- The two readers call each other, with the same fuel for a body and for what stands behind it:
-- fuel for each line is enough.
mutual

/-- Lines that are laid out are read as their blocks, up to a line that is less deep. -/
theorem Laid.read {level indent : Nat} {lines : List (Nat × Statement)} {blocks : List Block}
    (laid : Laid level indent lines blocks) (number fuel : Nat) (after : List SourceLine)
    (ends : Outdented indent after) (enough : lines.length ≤ fuel) :
    readBlock level indent (numbered number lines ++ after) fuel = .ok (blocks, after) := by
  match laid, fuel with
  | .nil, fuel => exact readBlock_outdented ends
  | .statement legible plain rest, fuel + 1 =>
    have later := rest.read (number + 1) fuel after ends (by simpa using enough)
    rw [numbered, List.cons_append, readBlock_statement legible.reads plain, later]
    rfl
  | .branches legible room deeper inside others rest, fuel + 1 =>
    simp only [List.length_cons, List.length_append] at enough
    rw [numbered, List.cons_append, numbered_append, numbered_append, List.append_assoc,
      List.append_assoc]
    -- Every line behind the body is at most as deep as the header, so the body ends there.
    have flat (n : Nat) := (rest.outdented n).append (ends.mono (Nat.le_succ _))
    refine readBlock_if legible.reads (blockIndent_of_deeper room deeper)
      (inside.read _ fuel _ ?_ (by simp only [List.length_cons]; omega))
      (others.read _ fuel _ (flat _) ?_ (by omega)) (rest.read _ fuel after ends (by omega))
    · exact ((others.outdented _).append (flat _)).mono deeper
    · exact (rest.unbranched _).append ends.unbranched

/-- The lines of further branches are read as these, up to a line that is none. -/
theorem LaidArms.read {level indent : Nat} {lines : List (Nat × Statement)}
    {arms : List (Test × List Block)} {otherwise : Option (List Block)}
    (laid : LaidArms level indent lines arms otherwise) (number fuel : Nat)
    (after : List SourceLine) (flat : Outdented (indent + 1) after)
    (ends : Unbranched indent after) (enough : lines.length ≤ fuel) :
    readArms level indent (numbered number lines ++ after) fuel = .ok (arms, otherwise, after) := by
  match laid, fuel with
  | .nil, fuel => exact readArms_unbranched ends
  | .otherwise room deeper inside, fuel + 1 =>
    rw [numbered, List.cons_append]
    exact readArms_else legible_else.reads (blockIndent_of_deeper room deeper)
      (inside.read _ fuel after (flat.mono deeper) (by simpa using enough))
  | .further legible room deeper inside others, fuel + 1 =>
    simp only [List.length_cons, List.length_append] at enough
    rw [numbered, List.cons_append, numbered_append, List.append_assoc]
    exact readArms_elif legible.reads (blockIndent_of_deeper room deeper)
      (inside.read _ fuel _ (((others.outdented _).append flat).mono deeper)
        (by simp only [List.length_cons]; omega))
      (others.read _ fuel after flat ends (by omega))

end

mutual

theorem Laid.legible {level indent : Nat} {lines : List (Nat × Statement)} {blocks : List Block}
    (laid : Laid level indent lines blocks) : ∀ line ∈ lines, line.2.Legible := by
  match laid with
  | .nil => exact List.forall_mem_nil _
  | .statement legible _ rest => exact List.forall_mem_cons.mpr ⟨legible, rest.legible⟩
  | .branches legible _ _ inside others rest =>
    exact List.forall_mem_cons.mpr ⟨legible, List.forall_mem_append.mpr
      ⟨inside.legible, List.forall_mem_append.mpr ⟨others.legible, rest.legible⟩⟩⟩

theorem LaidArms.legible {level indent : Nat} {lines : List (Nat × Statement)}
    {arms : List (Test × List Block)} {otherwise : Option (List Block)}
    (laid : LaidArms level indent lines arms otherwise) : ∀ line ∈ lines, line.2.Legible := by
  match laid with
  | .nil => exact List.forall_mem_nil _
  | .otherwise _ _ inside => exact List.forall_mem_cons.mpr ⟨legible_else, inside.legible⟩
  | .further legible _ _ inside others =>
    exact List.forall_mem_cons.mpr
      ⟨legible, List.forall_mem_append.mpr ⟨inside.legible, others.legible⟩⟩

end

/-- A line as it is written, without the line feed. -/
def writtenLine (line : Nat × Statement) : List Char :=
  List.replicate line.1 ' ' ++ line.2.text.toList

theorem newline_notMem_writtenLine {line : Nat × Statement} (oneLine : line.2.OneLine) :
    '\n' ∉ writtenLine line := by
  rw [writtenLine, List.mem_append]
  rintro (blank | inside)
  · exact absurd (List.mem_replicate.mp blank).2 (by decide)
  · exact oneLine.noBreak inside

theorem splitOn_writtenLines {lines : List (Nat × Statement)}
    (oneLine : ∀ line ∈ lines, line.2.OneLine) :
    (lines.flatMap fun line => writtenLine line ++ ['\n']).splitOn '\n' =
      lines.map writtenLine ++ [[]] := by
  induction lines with
  | nil => rfl
  | cons line rest ih =>
    obtain ⟨first, later⟩ := List.forall_mem_cons.mp oneLine
    rw [List.flatMap_cons, List.append_assoc, List.singleton_append,
      List.splitOn_append_cons_self_of_not_mem (newline_notMem_writtenLine first), ih later]
    rfl

theorem mapIdx_writtenLines {lines : List (Nat × Statement)}
    (oneLine : ∀ line ∈ lines, line.2.OneLine) (number : Nat) :
    ((lines.map writtenLine).mapIdx fun index line =>
      ({ number := index + number
         indent := (line.takeWhile (· == ' ')).length
         text := line.dropWhile (· == ' ') } : SourceLine)) = numbered number lines := by
  induction lines generalizing number with
  | nil => rfl
  | cons line rest ih =>
    obtain ⟨first, later⟩ := List.forall_mem_cons.mp oneLine
    -- The indentation ends where the statement starts, since no statement starts with a blank.
    have blanks : ∀ c ∈ List.replicate line.1 ' ', (c == ' ') = true := by
      intro c member
      rw [(List.mem_replicate.mp member).2]
      rfl
    have stops : ∀ c ∈ line.2.text.toList.head?, (c == ' ') = false := by
      intro c member
      rw [beq_eq_false_iff_ne]
      rintro rfl
      exact first.flush member
    have tail := ih later (number + 1)
    rw [List.map_cons, List.mapIdx_cons, numbered, writtenLine, Text.takeWhile_run blanks stops,
      Text.dropWhile_run blanks stops, List.length_replicate, Nat.zero_add, ← tail]
    simp only [Nat.add_assoc, Nat.add_comm 1]

/-- Lines as a writer holds them. -/
def heldLines (lines : List (Nat × Statement)) : List (Int × Statement) :=
  lines.map fun line => ((line.1 : Int), line.2)

theorem toList_text {w : CodeWriter} {lines : List (Nat × Statement)}
    (held : w.lines.toList = heldLines lines) :
    w.text.toList = lines.flatMap fun line => writtenLine line ++ ['\n'] := by
  -- What a writer holds may be left of the margin; these lines are not.
  simp only [Writer.text, held, heldLines, String.toList_join, List.map_map, List.flatMap_map]
  refine List.flatMap_congr fun line _ => ?_
  simp only [Function.comp, Writer.lineText, String.toList_append, String.toList_ofList,
    Int.toNat_natCast, writtenLine]
  rfl

theorem sourceLines_text {w : CodeWriter} {lines : List (Nat × Statement)}
    (held : w.lines.toList = heldLines lines) (oneLine : ∀ line ∈ lines, line.2.OneLine) :
    sourceLines w.text.toList = numbered 1 lines := by
  rw [toList_text held, sourceLines, splitOn_writtenLines oneLine, List.dropLast_concat]
  exact mapIdx_writtenLines oneLine 1

/-- A source whose lines are laid out under its first line is loaded as their blocks. -/
theorem load_of_laid {w : CodeWriter} {inner : Nat} {first : Statement}
    {lines : List (Nat × Statement)} {blocks : List Block}
    (held : w.lines.toList = heldLines ((0, .define) :: (inner, first) :: lines))
    (deeper : 0 < inner) (laid : Laid 1 inner ((inner, first) :: lines) blocks) :
    load w.text = .ok { body := blocks } := by
  have define : Statement.define.Legible := Statement.legible_of_fixed (by simp [fixedStatements])
  -- The first line is the header that everything else stands under.
  have source : sourceLines w.text.toList =
      { number := 1, indent := 0, text := Statement.define.text.toList } ::
        numbered 2 ((inner, first) :: lines) :=
    sourceLines_text held (List.forall_mem_cons.mpr
      ⟨define.oneLine, fun line member => (laid.legible line member).oneLine⟩)
  have opens : blockIndent 1 0 0 (numbered 2 ((inner, first) :: lines) ++ []) = .ok inner :=
    blockIndent_of_deeper (by decide) deeper
  -- There is more fuel than lines, since the fuel is taken from all lines of the source.
  have read := laid.read 2 (2 * ((numbered 2 ((inner, first) :: lines)).length + 1)) []
    (by simp [Outdented]) (by simp only [length_numbered]; omega)
  rw [List.append_nil] at opens read
  simp only [load, source, define.reads, opens, List.length_cons, read, bind, Except.bind]

end HtmlTemplate.Code
