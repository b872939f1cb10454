import HtmlTemplate.Proofs.Html.PlainText
import HtmlTemplate.Proofs.Html.StartTags

/-!
Start tags that are misplaced in a table. Before a rule of the body inserts an element, it may close
elements that are open and open others again. In a table of which only parts are open there is
nothing to close: what could be closed is open outside of the table, if at all. If there is nothing
to open again either, the element goes in front of the table at once, and is made once, although
foster parenting is on.
-/

namespace HtmlTemplate.Html

/-- Whether the open elements up to the innermost table are parts of it. -/
def isInParts : List Handle → Bool
  | [] => false
  | h :: rest => h.isHtml "table" ||
      (["tbody", "tfoot", "thead", "tr"].any h.isHtml && isInParts rest)

/-- A builder in a table of which only parts are open, with nothing to open again. -/
structure Settled (b : Builder) : Prop where
  parts : isInParts b.opened = true
  bare : sinceMarker b.formatting = []

/-! What is not found in a table -/

theorem isHtml_of_isInParts {h : Handle} {rest : List Handle} (parts : isInParts (h :: rest) = true) :
    ∃ name ∈ tableNames, h.kind = (htmlNs, name) := by
  rw [isInParts, Bool.or_eq_true, Bool.and_eq_true, List.any_eq_true] at parts
  rcases parts with table | ⟨⟨name, member, part⟩, -⟩
  · exact ⟨"table", by decide, beq_iff_eq.mp table⟩
  · exact ⟨name, List.mem_cons_of_mem _ member, beq_iff_eq.mp part⟩

theorem not_foundInScope {name : String} {scope : Scope} (other : name ∉ tableNames)
    (stops : scope.stops (htmlNs, "table") = true) {opened : List Handle}
    (parts : isInParts opened = true) :
    foundInScope (·.isHtml name) scope opened = false := by
  induction opened with
  | nil => rfl
  | cons h rest ih =>
    obtain ⟨part, member, kind⟩ := isHtml_of_isInParts parts
    have apart : h.isHtml name = false := by
      rw [Handle.isHtml, kind, beq_eq_false_iff_ne]
      rintro ⟨⟩
      exact other member
    rw [foundInScope, apart, Bool.false_or]
    rw [isInParts, Bool.or_eq_true, Bool.and_eq_true] at parts
    rcases parts with table | ⟨-, later⟩
    · rw [beq_iff_eq.mp table, stops]
      rfl
    · rw [ih later, Bool.and_false]

/-- A part of a table ends the search for a list item. -/
theorem not_openListItem? (name : String) {opened : List Handle}
    (parts : isInParts opened = true) : openListItem? name opened = none := by
  cases opened with
  | nil => rfl
  | cons h rest =>
    obtain ⟨part, member, kind⟩ := isHtml_of_isInParts parts
    injection kind with ns named
    have items : ∀ part ∈ tableNames, part ∉ ["li"] ∧ part ∉ ["dt", "dd"] := by decide
    have ends : ∀ part ∈ tableNames,
        (specialNames.contains part && !(["address", "div", "p"].contains part)) = true := by decide
    have other : ¬ (listItemStops name).contains h.name = true := by
      rw [named, List.contains_iff_mem, listItemStops]
      split
      · exact (items part member).1
      · exact (items part member).2
    have special : (isSpecial h && !(["address", "div", "p"].contains h.name)) = true := by
      have ends := ends part member
      rw [Bool.and_eq_true] at ends ⊢
      rw [isSpecial, ns, named, ends.1]
      exact ⟨rfl, ends.2⟩
    rw [openListItem?, if_neg other, if_pos special]

namespace Settled

variable {b : Builder} (settled : Settled b)

include settled

theorem current : ∃ name ∈ tableNames, b.current.kind = (htmlNs, name) := by
  have parts := settled.parts
  unfold Builder.current
  cases opened : b.opened with
  | nil =>
    rw [opened] at parts
    cases parts
  | cons h rest =>
    rw [opened] at parts
    exact isHtml_of_isInParts parts

theorem current_mem : b.current.name ∈ tableNames := by
  obtain ⟨name, member, kind⟩ := settled.current
  injection kind with _ named
  exact named ▸ member

theorem not_makesTwice : b.makesTwice = false := by
  rw [Builder.makesTwice, List.contains_iff_mem.mpr settled.current_mem]
  exact Bool.and_false _

theorem not_inScope {name : String} {scope : Scope} (other : name ∉ tableNames)
    (stops : scope.stops (htmlNs, "table") = true) : b.inScope name scope = false :=
  not_foundInScope other stops settled.parts

theorem closes_nothing : closeParagraphIfOpen b = .ok () b := by
  have closed : b.inScope "p" .button = false := settled.not_inScope (by decide) (by decide)
  rw [closeParagraphIfOpen, get_bind, if_neg (Bool.eq_false_iff.mp closed)]
  rfl

theorem not_formattingNamed? (name : String) : formattingNamed? name b.formatting = none := by
  rw [formattingNamed?, settled.bare]
  rfl

theorem reopens_nothing : reconstruct b = .ok () b := reconstruct_of_bare settled.bare

end Settled

/-! Rules of the body -/

/-- A move that changes nothing can be left out. -/
theorem Runs.skip {c : Char} {α β : Type} {act : Parse α} {next : α → Parse β} {b : Builder} {a : α}
    {post : β → Builder → Prop} (idle : act b = .ok a b) (later : Runs c (next a) b post) :
    Runs c (act >>= next) b post := by
  unfold Runs at *
  rw [bind_ok idle]
  exact later

theorem Runs.flagged {c : Char} {α : Type} {next : PUnit → Parse α} {b : Builder} {framesetOk : Bool}
    {post : α → Builder → Prop} (later : Runs c (next ⟨⟩) { b with framesetOk } post) :
    Runs c (setFramesetOk framesetOk >>= next) b post :=
  later

section Rules

variable {c : Char} {f : Prop} {k : Nat} {tag : StartTag} {b : Builder} (settled : Settled b)

include settled

theorem Settled.once {need : Nat} : b.makesTwice = true → need = 0 := by
  rw [settled.not_makesTwice]
  intro twice
  cases twice

theorem Settled.flag (framesetOk : Bool) : Settled { b with framesetOk } :=
  ⟨settled.parts, settled.bare⟩

variable (start : Affords c f (k + tag.cost c) b)

include start

theorem Settled.runs_insert :
    Runs c (discard (insertTag tag)) b fun _ after => Affords c f k after :=
  runs_insertElement settled.once start

theorem Settled.runs_startListItem :
    Runs c (startListItem tag) b fun _ after => Affords c f k after := by
  have flagged : Affords c f (k + tag.cost c) { b with framesetOk := false } := start.tame {}
  have insert := (settled.flag false).runs_insert flagged
  have closed : b.inScope "p" .button = false := settled.not_inScope (by decide) (by decide)
  refine .flagged (.get ?_)
  split
  next name found =>
    have none : openListItem? tag.name b.opened = none := not_openListItem? _ settled.parts
    rw [none] at found
    cases found
  next => exact .get (.ite (fun found => absurd found (Bool.eq_false_iff.mp closed)) fun _ => insert)

theorem Settled.runs_startAnchor (other : tag.name ≠ "body") :
    Runs c (startAnchor tag) b fun _ after => Affords c f k after := by
  refine .get ?_
  split
  next anchor found =>
    rw [settled.not_formattingNamed?] at found
    cases found
  next => exact .skip settled.reopens_nothing (runs_insertFormatting settled.once other start)

theorem Settled.runs_startNobr (other : tag.name ≠ "body") :
    Runs c (startNobr tag) b fun _ after => Affords c f k after := by
  have closed : b.inScope "nobr" .plain = false := settled.not_inScope (by decide) (by decide)
  refine .skip settled.reopens_nothing (.get (.ite (fun found => ?_) fun _ => ?_))
  · exact absurd found (Bool.eq_false_iff.mp closed)
  · exact runs_insertFormatting settled.once other start

theorem Settled.runs_startVoidFormatting :
    Runs c (startVoidFormatting tag) b fun _ after => Affords c f k after :=
  .skip settled.reopens_nothing
    ((runs_insertVoid settled.once start).pays fun _ => charges_setFramesetOk _)

theorem Settled.runs_startInput :
    Runs c (startInput tag) b fun _ after => Affords c f k after :=
  .get ((settled.runs_startVoidFormatting start).pays fun _ =>
    .ite (fun _ => charges_setFramesetOk _) fun _ => .pure le_rfl)

theorem Settled.runs_startForm :
    Runs c (startForm tag) b fun _ after => Affords c f k after := by
  refine .get (.ite (fun _ => ?_) fun _ => runs_pure (start.mono (Nat.le_add_right _ _)))
  refine .skip settled.closes_nothing ?_
  exact ((runs_insertTag settled.once start).imp fun _ _ holds => holds.1).pays fun _ =>
    charges_modify fun _ => {}

theorem Settled.runs_startRule :
    Runs c (startRule tag) b fun _ after => Affords c f k after :=
  .skip settled.closes_nothing
    ((runs_insertVoid settled.once start).pays fun _ => charges_setFramesetOk _)

theorem Settled.runs_startSelect :
    Runs c (startSelect tag) b fun _ after => Affords c f k after :=
  .skip settled.reopens_nothing ((settled.runs_insert start).pays fun _ =>
    .bind (charges_setFramesetOk _) fun _ => .get fun _ => charges_setMode _)

/-- An element that goes in front of the table at once is paid for once. A frame set would replace
the body first, and a search field is made of several elements. -/
theorem Settled.runs_bodyStart (frameset : tag.name ≠ "frameset") (index : tag.name ≠ "isindex") :
    Runs c (bodyStart tag) b fun next after => Affords c f (owed c k next) after := by
  have unpaid : k ≤ k + tag.cost c := Nat.le_add_right _ _
  have insert := settled.runs_insert start
  have text (model : ContentModel) := runs_startText settled.once start model
  have paragraph {α : Type} {next : Unit → Parse α} {post : α → Builder → Prop}
      (later : Runs c (next ()) b post) : Runs c (closeParagraphIfOpen >>= next) b post :=
    .skip settled.closes_nothing later
  have format {α : Type} {next : Unit → Parse α} {post : α → Builder → Prop}
      (later : Runs c (next ()) b post) : Runs c (reconstruct >>= next) b post :=
    .skip settled.reopens_nothing later
  have closed {name : String} (other : name ∉ tableNames) : ¬ b.inScope name .plain = true :=
    Bool.eq_false_iff.mp (settled.not_inScope other (by decide))
  refine .ite (fun _ => runs_pure (start.mono unpaid)) fun _ => ?_
  refine .ite (fun _ => runs_headStart settled.once start) fun _ => ?_
  refine .ite (fun _ => .get (.ite (fun found => ?_) fun _ => ?_)) fun _ => ?_
  · exact absurd found (closed (by decide))
  · exact format (insert.pays fun _ => charges_done (charges_setFramesetOk _))
  refine .ite (fun _ => ?_) fun _ => .ite (fun named => absurd named frameset) fun _ => ?_
  · exact charges_done ((charges_startSecondBody tag).imp fun _ => unpaid) b start
  refine .ite (fun _ => paragraph insert.done) fun _ => ?_
  -- headings, preformatted text, forms, list items and plain text
  refine .ite (fun _ => paragraph (.get (.ite (fun heading => ?_) fun _ => insert.done))) fun _ => ?_
  · have apart : ∀ name ∈ tableNames, name ∉ headingNames := by decide
    exact absurd (List.contains_iff_mem.mp heading) (apart _ settled.current_mem)
  refine .ite (fun _ => ?_) fun _ => ?_
  · exact paragraph (insert.pays fun _ => charges_done (charges_modify fun _ => {}))
  refine .ite (fun _ => (settled.runs_startForm start).done) fun _ => ?_
  refine .ite (fun _ => (settled.runs_startListItem start).done) fun _ => ?_
  refine .ite (fun _ => ?_) fun _ => ?_
  · exact paragraph (insert.pays fun _ => charges_done (charges_setModel _))
  -- formatting elements, none of which is a body
  refine .ite (fun anchor => (settled.runs_startAnchor start ?_).done) fun _ => ?_
  · rw [anchor]
    decide
  refine .ite (fun named => ?_) fun _ => ?_
  · have other : tag.name ≠ "body" := by
      intro body
      rw [body] at named
      exact absurd named (by decide)
    exact format (runs_insertFormatting settled.once other start).done
  refine .ite (fun nobr => (settled.runs_startNobr start ?_).done) fun _ => ?_
  · rw [nobr]
    decide
  refine .ite (fun _ => ?_) fun _ => ?_
  · exact format (insert.pays fun _ => .bind charges_addMarker fun _ =>
      charges_done (charges_setFramesetOk _))
  refine .ite (fun _ => paragraph (format (.flagged ?_))) fun _ => ?_
  · exact (runs_startText (settled.flag false).once (start.tame {}) _).done
  refine .ite (fun _ => ?_) fun _ => ?_
  · exact paragraph (insert.pays fun _ => .bind (charges_setFramesetOk _) fun _ =>
      charges_done (charges_setMode _))
  -- elements that are closed at once
  refine .ite (fun _ => (settled.runs_startVoidFormatting start).done) fun _ => ?_
  refine .ite (fun _ => ?_) fun _ => ?_
  · have image : Affords c f (k + StartTag.cost c { tag with name := "img" }) b := start
    exact (settled.runs_startVoidFormatting image).done
  refine .ite (fun _ => (runs_insertVoid settled.once start).done) fun _ => ?_
  refine .ite (fun _ => (settled.runs_startInput start).done) fun _ => ?_
  refine .ite (fun _ => (settled.runs_startRule start).done) fun _ => ?_
  refine .ite (fun named => absurd named index) fun _ => ?_
  -- elements with text of their own kind
  refine .ite (fun _ => insert.pays fun _ => charges_done (charges_modify fun _ => {})) fun _ => ?_
  refine .ite (fun _ => .flagged ?_) fun _ => ?_
  · exact (runs_startText (settled.flag false).once (start.tame {}) _).done
  refine .ite (fun _ => (text _).done) fun _ => ?_
  refine .ite (fun _ => (settled.runs_startSelect start).done) fun _ => ?_
  refine .ite (fun _ => .get (.ite (fun found => ?_) fun _ => insert.done)) fun _ => ?_
  · exact absurd found (closed (by decide))
  refine .ite (fun _ => .get (.ite (fun option => ?_) fun _ => format insert.done)) fun _ => ?_
  · have apart : "option" ∉ tableNames := by decide
    exact absurd (beq_iff_eq.mp option ▸ settled.current_mem) apart
  -- foreign elements, and all others
  refine .ite (fun _ => ?_) fun _ => .ite (fun _ => ?_) fun _ => ?_
  · exact format (runs_insertForeign settled.once start _ _).done
  · exact format (runs_insertForeign settled.once start _ _).done
  exact .ite (fun _ => runs_pure (start.mono unpaid)) fun _ => format insert.done

end Rules

/-! Tables -/

def Builder.isSettled (b : Builder) : Bool := isInParts b.opened && (sinceMarker b.formatting).isEmpty

theorem Builder.settled_of_isSettled {b : Builder} (settled : b.isSettled = true) : Settled b :=
  have both := Bool.and_eq_true_iff.mp settled
  ⟨both.1, List.isEmpty_iff.mp both.2⟩

/-- Whether the element of a start tag may be made twice: the tag is misplaced in a table, and more
than the element itself is opened or closed for it. -/
def Builder.doubles (b : Builder) (tag : StartTag) : Bool :=
  b.mode.isTable && isMisplaced tag &&
    !(b.isSettled && tag.name != "frameset" && tag.name != "isindex")

/-- A start tag is charged once, unless its element may be made twice. -/
theorem runs_startTag_of_calm {c : Char} {k : Nat} {tag : StartTag} {b : Builder}
    (start : Affords c False (k + tag.cost c) b) (calm : b.doubles tag = true → tag.cost c = 0) :
    Runs c (startTag b.mode tag) b fun next after => Affords c False (owed c k next) after := by
  refine runs_startTag False.elim start fun table misplaced => runs_fostering ?_
  by_cases free : tag.cost c = 0
  · exact charges_bodyStart (fun _ => free) _ start.fostering
  · -- foster parenting is no part of being settled
    have calm : b.doubles tag = false := Bool.eq_false_iff.mpr fun doubles => free (calm doubles)
    rw [Builder.doubles, table, misplaced, Bool.true_and, Bool.true_and, Bool.not_eq_false',
      Bool.and_eq_true, Bool.and_eq_true] at calm
    obtain ⟨⟨settled, frameset⟩, index⟩ := calm
    have settled := Builder.settled_of_isSettled settled
    have fostering : Settled { b with foster := true } := ⟨settled.parts, settled.bare⟩
    exact fostering.runs_bodyStart start.fostering (bne_iff_ne.mp frameset) (bne_iff_ne.mp index)

end HtmlTemplate.Html
