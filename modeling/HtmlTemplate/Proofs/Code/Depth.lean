import HtmlTemplate.Proofs.Code.Validity

/-!
The depth of blocks. Source can be loaded only if its blocks nest within the levels that there are,
whatever else is in order. So a routine that was loaded from the code of an outline does what the
outline means, and nothing needs to be known about the depth of the outline.
-/

namespace HtmlTemplate.Code

section

variable {level indent number fuel : Nat} {text : List Char} {rest left : List SourceLine}
  {blocks : List Block}

/-- A block that is read: its body, its further branches and what follows it are read. -/
theorem exists_of_readBlock_if {test : Test} (reads : readStatement? text = some (.ifHeader test))
    (read : readBlock level indent ({ number, indent, text } :: rest) (fuel + 1) =
      .ok (blocks, left)) :
    ∃ inner body afterBody arms otherwise afterArms later,
      blockIndent number level indent rest = .ok inner ∧
        readBlock (level + 1) inner rest fuel = .ok (body, afterBody) ∧
        readArms level indent afterBody fuel = .ok (arms, otherwise, afterArms) ∧
        readBlock level indent afterArms fuel = .ok (later, left) := by
  rw [readBlock] at read
  simp only [Nat.lt_irrefl, if_false, reads, gt_iff_lt] at read
  obtain ⟨inner, opens, read⟩ := exists_of_bind read
  obtain ⟨⟨body, afterBody⟩, inside, read⟩ := exists_of_bind read
  obtain ⟨⟨arms, otherwise, afterArms⟩, others, read⟩ := exists_of_bind read
  obtain ⟨⟨later, left⟩, last, same⟩ := exists_of_bind read
  cases same
  exact ⟨inner, body, afterBody, arms, otherwise, afterArms, later, opens, inside, others, last⟩

theorem exists_of_readArms_elif {operand : Operand} {arms : List (Test × List Block)}
    {otherwise : Option (List Block)}
    (reads : readStatement? text = some (.elifHeader operand))
    (read : readArms level indent ({ number, indent, text } :: rest) (fuel + 1) =
      .ok (arms, otherwise, left)) :
    ∃ inner body afterBody more,
      blockIndent number level indent rest = .ok inner ∧
        readBlock (level + 1) inner rest fuel = .ok (body, afterBody) ∧
        readArms level indent afterBody fuel = .ok (more, otherwise, left) := by
  rw [readArms] at read
  simp only [ne_eq, not_true, if_false, reads] at read
  obtain ⟨inner, opens, read⟩ := exists_of_bind read
  obtain ⟨⟨body, afterBody⟩, inside, read⟩ := exists_of_bind read
  obtain ⟨⟨more, otherwise, left⟩, others, same⟩ := exists_of_bind read
  cases same
  exact ⟨inner, body, afterBody, more, opens, inside, others⟩

theorem exists_of_readArms_else {arms : List (Test × List Block)}
    {otherwise : Option (List Block)} (reads : readStatement? text = some .elseHeader)
    (read : readArms level indent ({ number, indent, text } :: rest) (fuel + 1) =
      .ok (arms, otherwise, left)) :
    ∃ inner body, blockIndent number level indent rest = .ok inner ∧
      readBlock (level + 1) inner rest fuel = .ok (body, left) := by
  rw [readArms] at read
  simp only [ne_eq, not_true, if_false, reads] at read
  obtain ⟨inner, opens, read⟩ := exists_of_bind read
  obtain ⟨⟨body, afterBody⟩, inside, same⟩ := exists_of_bind read
  cases same
  exact ⟨inner, body, opens, inside⟩

theorem exists_of_readBlock_statement {statement : Statement}
    (reads : readStatement? text = some statement) (plain : statement.isHeader = false)
    (read : readBlock level indent ({ number, indent, text } :: rest) (fuel + 1) =
      .ok (blocks, left)) :
    ∃ later, readBlock level indent rest fuel = .ok (later, left) := by
  rw [readBlock_statement reads plain] at read
  cases last : readBlock level indent rest fuel with
  | error e =>
    rw [last] at read
    cases read
  | ok result =>
    rw [last] at read
    cases read
    exact ⟨_, rfl⟩

/-- A block is opened only while there is a level left for it. -/
theorem of_blockIndent {inner : Nat} (opens : blockIndent number level indent rest = .ok inner) :
    level < mostLevels := by
  cases rest with
  | nil => cases opens
  | cons line rest =>
    rw [blockIndent] at opens
    split at opens
    · cases opens
    · split at opens
      · cases opens
      · omega

end

/-- What nests within fewer levels as the first branch of a block, as its others, and behind it. -/
theorem nestsWithin_opens {room : Nat} {header : Header} {inner more events : List Event}
    {body arms : Forest Statement} (inside : Nested inner body) (others : NestedArms more arms)
    (fitsBody : nestsWithin room (controlsOf inner) = true)
    (fitsArms : nestsWithin room (controlsOf more) = true)
    (fitsRest : nestsWithin (room + 1) (controlsOf events) = true) :
    nestsWithin (room + 1)
      (controlsOf (.opens header :: (inner ++ (more ++ .closes :: events)))) = true := by
  rw [controlsOf_opens, controlsOf_append, controlsOf_append, controlsOf_closes, nestsWithin,
    inside.nestsWithin_append, others.nestsWithin_append, nestsWithin, fitsBody, fitsArms, fitsRest]
  rfl

theorem nestsWithin_continues {room : Nat} {header : Header} {inner more : List Event}
    {body : Forest Statement} (inside : Nested inner body)
    (fitsBody : nestsWithin room (controlsOf inner) = true)
    (fitsArms : nestsWithin room (controlsOf more) = true) :
    nestsWithin room (controlsOf (.continues header :: (inner ++ more))) = true := by
  have both : nestsWithin room (controlsOf (inner ++ more)) = true := by
    rw [controlsOf_append, inside.nestsWithin_append, fitsBody, fitsArms]
    rfl
  rcases controlsOf_continues header with ⟨-, control⟩ | ⟨-, control⟩
  · rw [control, nestsWithin, both]
  · rw [control, nestsWithin, both]

section

variable {inner : List Event} {body : Forest Statement} {level indent room number fuel : Nat}
  {after left : List SourceLine} {blocks : List Block}

/-- Where the body of a branch ends, if it is read. -/
theorem eq_after_of_read (inside : Nested inner body) (readable : ∀ event ∈ inner, event.Readable)
    (levels : level + room = mostLevels) (fits : nestsWithin room (controlsOf inner) = true)
    (ends : Outdented indent after)
    (enough : (body.lines indent).length ≤ fuel)
    (read : readBlock level indent (numbered number (body.lines indent) ++ after) fuel =
      .ok (blocks, left)) :
    left = after := by
  have loads := inside.loads readable levels fits number fuel 0 (ends.mono (Nat.le_succ _))
    ends.unbranched (fun _ _ => loads_outdented ends) enough
  generalize orderly [] (controlsOf inner) = valid at loads
  rw [read] at loads
  cases loads
  rfl

/-- Where the branches of a block end, if the block is read to its end. -/
theorem eq_after_of_readArms {more : List Event} {arms : Forest Statement}
    {read : List (Test × List Block)} {otherwise : Option (List Block)} {rest : List SourceLine}
    (others : NestedArms more arms) (readable : ∀ event ∈ more, event.Readable)
    (levels : level + (room + 1) = mostLevels)
    (fits : nestsWithin room (controlsOf more) = true) (flat : Outdented (indent + 1) after)
    (ends : Unbranched indent after) (enough : (arms.lines indent).length ≤ fuel + 1)
    (readArms : readArms level indent (numbered number (arms.lines indent) ++ after) (fuel + 1) =
      .ok (read, otherwise, rest))
    (next : readBlock level indent rest (fuel + 1) = .ok (blocks, left)) :
    rest = after := by
  have loads := others.loads readable levels fits number (fuel + 1) flat ends enough
  generalize armsOrderly false (controlsOf more) = valid at loads
  rw [readArms] at loads
  cases loads with
  | read => rfl
  | stuck _ _ _ refuses =>
    obtain ⟨line, refused⟩ := refuses fuel
    cases refused.symm.trans next

/-- No block goes on where a further branch starts. -/
theorem NestedArms.eq_nil_of_next {more : List Event} {arms : Forest Statement}
    (others : NestedArms more arms) (readable : ∀ event ∈ more, event.Readable)
    (next : readBlock level indent (numbered number (arms.lines indent) ++ after) (fuel + 1) =
      .ok (blocks, left)) :
    more = [] := by
  cases others with
  | nil => rfl
  | cons header inside others =>
    rcases readable _ List.mem_cons_self with last | ⟨-, operand, reads⟩
    · have reads : readStatement? header.val.text.toList = some .elseHeader := by
        rw [last]
        exact legible_else.reads
      cases (readBlock_refuses reads (.inl rfl) fuel).symm.trans next
    · cases (readBlock_refuses reads (.inr ⟨operand, rfl⟩) fuel).symm.trans next

/-- The body of a branch is read behind the line that does nothing. It ends where it is known to end
if it fits. -/
theorem fits_of_read_body (inside : Nested inner body)
    (readable : ∀ event ∈ inner, event.Readable) (levels : level + room = mostLevels)
    (ends : Outdented indent after) (enough : (body.lines indent).length ≤ fuel)
    (fits : ∀ later, readBlock level indent
      (numbered (number + 1) (body.lines indent) ++ after) fuel = .ok (later, left) →
        nestsWithin room (controlsOf inner) = true)
    (read : readBlock level indent
      (numbered number ((Forest.cons .pass .nil body).lines indent) ++ after) (fuel + 1) =
        .ok (blocks, left)) :
    nestsWithin room (controlsOf inner) = true ∧ left = after := by
  obtain ⟨later, read⟩ := exists_of_readBlock_statement legible_pass.reads rfl read
  have fits := fits later read
  exact ⟨fits, eq_after_of_read inside readable levels fits ends enough read⟩

end

-- The body of a branch is known to fit before it is known where it ends, and only then can the
-- other branches be found behind it.
mutual

/-- Events whose lines are read nest within the levels there are. -/
theorem Nested.fits_of_read {events : List Event} {forest : Forest Statement}
    (nested : Nested events forest) (readable : ∀ event ∈ events, event.Readable)
    {level indent room number fuel : Nat} (levels : level + room = mostLevels)
    {after left : List SourceLine} {blocks : List Block} (flat : Outdented (indent + 1) after)
    (ends : Unbranched indent after) (enough : (forest.lines indent).length ≤ fuel)
    (read : readBlock level indent (numbered number (forest.lines indent) ++ after) fuel =
      .ok (blocks, left)) :
    nestsWithin room (controlsOf events) = true := by
  match nested with
  | .nil => rfl
  | .line statement rest =>
    obtain ⟨⟨meant, reads, plain⟩, others⟩ := List.forall_mem_cons.mp readable
    simp only [Forest.lines, List.nil_append, List.length_cons] at enough
    obtain ⟨fuel, rfl⟩ := Nat.exists_eq_succ_of_ne_zero (show fuel ≠ 0 by omega)
    obtain ⟨later, read⟩ := exists_of_readBlock_statement reads plain read
    exact rest.fits_of_read others levels flat ends (by omega) read
  | @Nested.block header _ _ _ body _ _ inside arms rest =>
    obtain ⟨⟨test, reads⟩, others⟩ := List.forall_mem_cons.mp readable
    obtain ⟨readableBody, others⟩ := List.forall_mem_append.mp others
    obtain ⟨readableArms, others⟩ := List.forall_mem_append.mp others
    obtain ⟨-, readableRest⟩ := List.forall_mem_cons.mp others
    rw [Forest.lines, Forest.lines_append] at enough read
    simp only [List.length_cons, List.length_append] at enough
    have filled := length_body body (indent + 4)
    obtain ⟨fuel, rfl⟩ : ∃ n, fuel = n + 1 + 1 := ⟨fuel - 2, by omega⟩
    rw [numbered, List.cons_append, numbered_append, numbered_append, List.append_assoc,
      List.append_assoc] at read
    obtain ⟨deeper, _, afterBody, _, _, afterArms, _, opens, readBody, readArms, readRest⟩ :=
      exists_of_readBlock_if reads read
    -- That the body could be opened says that there is a level left for it.
    have open' := of_blockIndent opens
    obtain rfl : indent + 4 = deeper :=
      Except.ok.inj ((blockIndent_of_deeper open' (by omega)).symm.trans opens)
    obtain ⟨less, rfl⟩ : ∃ less, room = less + 1 := ⟨room - 1, by omega⟩
    have flatRest (n : Nat) := (rest.outdented indent n).append flat
    have outside (n m : Nat) := ((arms.outdented indent n).append (flatRest m)).mono
      (show indent + 1 ≤ indent + 4 by omega)
    have unbranched (n : Nat) := (rest.unbranched readableRest indent n).append ends
    have inner : level + 1 + less = mostLevels := by omega
    obtain ⟨fitsBody, rfl⟩ := fits_of_read_body inside readableBody inner (outside _ _) (by omega)
      (fun _ => inside.fits_of_read readableBody inner ((outside _ _).mono (Nat.le_succ _))
        (outside _ _).unbranched (by omega)) readBody
    have fitsArms : nestsWithin less (controlsOf _) = true :=
      arms.fits_of_read readableArms levels (flatRest _) (unbranched _) (by omega) readArms readRest
    obtain rfl := eq_after_of_readArms arms readableArms levels fitsArms (flatRest _)
      (unbranched _) (by omega) readArms readRest
    have fitsRest := rest.fits_of_read readableRest levels flat ends (by omega) readRest
    exact nestsWithin_opens inside arms fitsBody fitsArms fitsRest

theorem NestedArms.fits_of_read {events : List Event} {forest : Forest Statement}
    (nested : NestedArms events forest) (readable : ∀ event ∈ events, event.Readable)
    {level indent room number fuel : Nat} (levels : level + (room + 1) = mostLevels)
    {after left left' : List SourceLine} {arms : List (Test × List Block)}
    {otherwise : Option (List Block)} {blocks : List Block} (flat : Outdented (indent + 1) after)
    (ends : Unbranched indent after) (enough : (forest.lines indent).length ≤ fuel)
    (read : readArms level indent (numbered number (forest.lines indent) ++ after) fuel =
      .ok (arms, otherwise, left))
    {more : Nat} (next : readBlock level indent left (more + 1) = .ok (blocks, left')) :
    nestsWithin room (controlsOf events) = true := by
  match nested with
  | .nil => rfl
  | @NestedArms.cons header _ _ body _ inside others =>
    obtain ⟨first, readable⟩ := List.forall_mem_cons.mp readable
    obtain ⟨readableBody, readableRest⟩ := List.forall_mem_append.mp readable
    rw [Forest.lines] at enough read
    simp only [List.length_cons, List.length_append] at enough
    have filled := length_body body (indent + 4)
    obtain ⟨fuel, rfl⟩ : ∃ n, fuel = n + 1 + 1 := ⟨fuel - 2, by omega⟩
    rw [numbered, List.cons_append, numbered_append, List.append_assoc] at read
    have outside (n : Nat) := ((others.outdented indent n).append flat).mono
      (show indent + 1 ≤ indent + 4 by omega)
    have opensAt {line n : Nat} {rest : List SourceLine} : blockIndent line level indent
        (numbered n ((Forest.cons .pass .nil body).lines (indent + 4)) ++ rest) = .ok (indent + 4) :=
      blockIndent_of_deeper (by omega) (by omega)
    have inner : level + 1 + room = mostLevels := by omega
    rcases first with last | ⟨-, operand, reads⟩
    · obtain ⟨deeper, _, opens, readBody⟩ :=
        exists_of_readArms_else (by rw [last]; exact legible_else.reads) read
      obtain rfl := Except.ok.inj (opensAt.symm.trans opens)
      obtain ⟨fitsBody, rfl⟩ := fits_of_read_body inside readableBody inner (outside _) (by omega)
        (fun _ => inside.fits_of_read readableBody inner ((outside _).mono (Nat.le_succ _))
          (outside _).unbranched (by omega)) readBody
      -- Behind the last branch the block has to end, or what follows it could not be read.
      obtain rfl := others.eq_nil_of_next readableRest next
      exact nestsWithin_continues inside fitsBody rfl
    · obtain ⟨deeper, _, afterBody, _, opens, readBody, readRest⟩ :=
        exists_of_readArms_elif reads read
      obtain rfl := Except.ok.inj (opensAt.symm.trans opens)
      obtain ⟨fitsBody, rfl⟩ := fits_of_read_body inside readableBody inner (outside _) (by omega)
        (fun _ => inside.fits_of_read readableBody inner ((outside _).mono (Nat.le_succ _))
          (outside _).unbranched (by omega)) readBody
      have fitsRest := others.fits_of_read readableRest levels flat ends (by omega) readRest next
      exact nestsWithin_continues inside fitsBody fitsRest

end

/-- Source that is loaded has its blocks nested within the levels there are. -/
theorem nestsWithin_of_load {fragmentTag source : String} {events : List Event}
    {body : Forest Statement} {routine : Routine}
    (lines : sourceLines source.toList = numbered 1 ((routineForest fragmentTag body).lines 0))
    (nested : Nested events body) (readable : ∀ event ∈ events, event.Readable)
    (loaded : load source = .ok routine) : nestsWithin 98 (controlsOf events) = true := by
  obtain ⟨whole, nested, source, opens⟩ := exists_sourceLines lines nested
  have define : Statement.define.Legible := Statement.legible_of_fixed (by simp [fixedStatements])
  simp only [load, source, define.reads, opens, ok_bind] at loaded
  obtain ⟨⟨blocks, left⟩, read, -⟩ := exists_of_bind loaded
  have ends := laid_epilogue fragmentTag
  refine nested.fits_of_read (readable_routineEvents readable) (show 1 + 98 = mostLevels from rfl)
    (ends.outdented _) (ends.unbranched _) ?_ read
  simp only [List.length_cons, List.length_append, length_numbered]
  omega

end HtmlTemplate.Code

namespace HtmlTemplate

open Code

theorem nodesTags_append (order : Order) (front back : List Node) :
    nodesTags order (front ++ back) = nodesTags order front ++ nodesTags order back := by
  induction front with
  | nil => rfl
  | cons node rest ih =>
    rw [List.cons_append, nodesTags, nodesTags, ih, List.append_assoc]

theorem Term.isPlain_expr (term : Term) : term.expr.isPlain = true := by
  cases term <;> rfl

/-- The control tags of nodes, as they are visited. -/
def nodesControls (nodes : List Node) : List Control := controlsIn (nodesTags .visited nodes)

theorem nodesControls_append (front back : List Node) :
    nodesControls (front ++ back) = nodesControls front ++ nodesControls back := by
  rw [nodesControls, nodesTags_append, controlsIn_append]
  rfl

theorem nodesControls_tag (tag : Tag) (rest : List Node) :
    nodesControls (.tag tag :: rest) = tag.control?.toList ++ nodesControls rest := by
  rw [nodesControls, nodesTags, Node.tags, controlsIn_append, controlsIn_singleton]
  rfl

mutual

/-- The literals in an outline are those of templates. -/
theorem Outline.isPlain {place : Place} (outline : Outline place) :
    ∀ tag ∈ nodesTags .visited outline.nodes, tag.isPlain = true := by
  match outline with
  | .done => exact List.forall_mem_nil _
  | .text value rest => exact rest.isPlain
  | .shown term rest => exact List.forall_mem_cons.mpr ⟨term.isPlain_expr, rest.isPlain⟩
  | .comment text rest => exact List.forall_mem_cons.mpr ⟨rfl, rest.isPlain⟩
  | .element tag ns attrs children rest =>
    exact List.forall_mem_append.mpr
      ⟨List.forall_mem_append.mpr ⟨children.isPlain, attrs.isPlain⟩, rest.isPlain⟩
  | .choice condition body others rest =>
    rw [Outline.nodes, nodesTags, nodesTags_append, nodesTags_append, Node.tags,
      List.singleton_append]
    exact List.forall_mem_cons.mpr ⟨condition.isPlain_expr, List.forall_mem_append.mpr
      ⟨body.isPlain, List.forall_mem_append.mpr
        ⟨others.isPlain, List.forall_mem_cons.mpr ⟨rfl, rest.isPlain⟩⟩⟩⟩

theorem Branches.isPlain {place : Place} (branches : Branches place) :
    ∀ tag ∈ nodesTags .visited branches.nodes, tag.isPlain = true := by
  match branches with
  | .done => exact List.forall_mem_nil _
  | .otherwise body => exact List.forall_mem_cons.mpr ⟨rfl, body.isPlain⟩
  | .further condition body others =>
    rw [Branches.nodes, nodesTags, nodesTags_append, Node.tags, List.singleton_append]
    exact List.forall_mem_cons.mpr ⟨condition.isPlain_expr, List.forall_mem_append.mpr
      ⟨body.isPlain, others.isPlain⟩⟩

theorem AttrOutline.isPlain (attrs : AttrOutline) :
    ∀ tag ∈ attrsTags .visited attrs.attrs, tag.isPlain = true := by
  match attrs with
  | .done => exact List.forall_mem_nil _
  | .plain name value rest => exact rest.isPlain
  | .parts name value rest =>
    exact List.forall_mem_append.mpr ⟨value.isPlain, rest.isPlain⟩

end

-- Blocks are bracketed within each list, so what follows a list is judged by itself.
mutual

/-- How deep the blocks of an outline nest is its depth. -/
theorem Outline.nestsWithin_append {place : Place} (outline : Outline place) (room : Nat)
    (rest : List Control) :
    nestsWithin room (nodesControls outline.nodes ++ rest) =
      (decide (outline.depth ≤ room) && nestsWithin room rest) := by
  match outline with
  | .done => simp [Outline.nodes, nodesControls, nodesTags, controlsIn, Outline.depth]
  | .text value later => exact later.nestsWithin_append room rest
  | .shown term later => exact later.nestsWithin_append room rest
  | .comment text later => exact later.nestsWithin_append room rest
  | .element tag ns attrs children later =>
    have apart : nodesControls (Outline.element tag ns attrs children later).nodes =
        nodesControls children.nodes ++
          (controlsIn (attrsTags .visited attrs.attrs) ++ nodesControls later.nodes) := by
      rw [Outline.nodes, nodesControls, nodesTags, controlsIn_append, Node.tags, Order.join,
        controlsIn_append, List.append_assoc]
      rfl
    rw [apart, List.append_assoc, List.append_assoc, children.nestsWithin_append,
      attrs.nestsWithin_append, later.nestsWithin_append, Outline.depth]
    simp [Bool.and_assoc]
  | .choice condition body others later =>
    have apart : nodesControls (Outline.choice condition body others later).nodes =
        .opens :: (nodesControls body.nodes ++
          (nodesControls others.nodes ++ (.closes :: nodesControls later.nodes))) := by
      rw [Outline.nodes, nodesControls_tag, nodesControls_append, nodesControls_append,
        nodesControls_tag]
      rfl
    rw [apart, Outline.depth]
    cases room with
    | zero => simp [nestsWithin]
    | succ room =>
      simp only [List.cons_append, List.append_assoc, nestsWithin, body.nestsWithin_append,
        others.nestsWithin_append, later.nestsWithin_append]
      simp [Bool.and_assoc]

theorem Branches.nestsWithin_append {place : Place} (branches : Branches place) (room : Nat)
    (rest : List Control) :
    nestsWithin room (nodesControls branches.nodes ++ rest) =
      (decide (branches.depth ≤ room) && nestsWithin room rest) := by
  match branches with
  | .done => simp [Branches.nodes, nodesControls, nodesTags, controlsIn, Branches.depth]
  | .otherwise body =>
    rw [Branches.nodes, nodesControls_tag]
    exact body.nestsWithin_append room rest
  | .further condition body others =>
    rw [Branches.nodes, nodesControls_tag, nodesControls_append, Branches.depth]
    simp only [Tag.control?, Option.toList_some, List.cons_append, List.nil_append,
      List.append_assoc, nestsWithin, body.nestsWithin_append, others.nestsWithin_append]
    simp [Bool.and_assoc]

theorem AttrOutline.nestsWithin_append (attrs : AttrOutline) (room : Nat)
    (rest : List Control) :
    nestsWithin room (controlsIn (attrsTags .visited attrs.attrs) ++ rest) =
      (decide (attrs.depth ≤ room) && nestsWithin room rest) := by
  match attrs with
  | .done => simp [AttrOutline.attrs, attrsTags, controlsIn, AttrOutline.depth]
  | .plain name value later => exact later.nestsWithin_append room rest
  | .parts name value later =>
    have value := value.nestsWithin_append room
      (controlsIn (attrsTags .visited later.attrs) ++ rest)
    rw [AttrOutline.attrs, attrsTags, Attr.tags, controlsIn_append, List.append_assoc]
    rw [nodesControls] at value
    rw [value, later.nestsWithin_append, AttrOutline.depth]
    simp [Bool.and_assoc]

end

/-- The code of an outline whose blocks nest within the levels there are is compiled and loaded. -/
theorem exists_routine (fragmentTag : String) {outline : Outline .content}
    (shallow : outline.depth ≤ 98) :
    ∃ code routine, compile fragmentTag outline.root = .ok code ∧ load code = .ok routine := by
  obtain ⟨w, lines, written, held, laid⟩ :=
    compileLines_outline fragmentTag outline shallow
  refine ⟨w.text, _, ?_, load_of_laid held (by decide) laid⟩
  rw [compile, written]
  rfl

/-- The code of an outline that is loaded does what the outline means. -/
theorem run_of_load {fragmentTag code : String} {outline : Outline .content} {routine : Routine}
    (compiled : compile fragmentTag outline.root = .ok code) (loaded : load code = .ok routine)
    (context : Option Context) : routine.run context = outline.page fragmentTag context := by
  obtain ⟨body, nested, lines, controls⟩ := exists_nested_of_compile compiled
  have fits := nestsWithin_of_load lines nested
    (readable_visitNode outline.root none outline.isPlain) loaded
  have shallow : outline.depth ≤ 98 := by
    have depth := outline.nestsWithin_append 98 []
    rw [List.append_nil, nestsWithin, Bool.and_true] at depth
    rw [controls] at fits
    exact decide_eq_true_iff.mp (depth.symm.trans fits)
  obtain ⟨w, lines, written, held, laid⟩ :=
    compileLines_outline fragmentTag outline shallow
  rw [compile, written] at compiled
  cases compiled
  cases loaded.symm.trans (load_of_laid held (by decide) laid)
  exact run_routineBlocks fragmentTag outline

end HtmlTemplate
