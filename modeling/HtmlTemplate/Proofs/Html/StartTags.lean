import HtmlTemplate.Html.StartTags
import HtmlTemplate.Proofs.Html.EndTags

/-!
A start tag is charged for the sentinels in its attributes. Where foster parenting may be on, there
must not be any; a table turns it on for the tags that have no rules of their own in a table.
-/

namespace HtmlTemplate.Html

open Dom (sentinelsIn)

variable {c : Char} {f : Prop} {k : Nat}

/-! Rules that insert an element before anything else, which is made once unless it is free -/

section Once

variable {tag : StartTag} {b : Builder} (once : b.makesTwice = true → tag.cost c = 0)
  (start : Affords c f (k + tag.cost c) b)

include once start

theorem runs_insertElement :
    Runs c (discard (insertTag tag)) b fun _ after => Affords c f k after :=
  Runs.discard ((runs_insertTag once start).imp fun _ _ holds => holds.1)

theorem runs_startText (model : ContentModel) :
    Runs c (startText tag model) b fun _ after => Affords c f k after :=
  (runs_insertElement once start).pays fun _ => charges_modify fun _ => {}

theorem runs_insertVoid : Runs c (insertVoid tag) b fun _ after => Affords c f k after :=
  (runs_insertElement once start).pays fun _ => charges_pop

theorem runs_headStart :
    Runs c (headStart tag) b fun next after => Affords c f (owed c k next) after := by
  have text (model : ContentModel) := (runs_startText once start model).done
  refine .ite (fun _ => ?_) fun _ => ?_
  · exact runs_pure (start.mono (Nat.le_add_right _ _))
  refine .ite (fun _ => text _) fun _ => .ite (fun _ => text _) fun _ => ?_
  refine .ite (fun _ => ?_) fun _ => .ite (fun _ => text _) fun _ => ?_
  · exact (runs_insertElement once start).pays fun _ => charges_done (charges_setMode _)
  refine .ite (fun _ => (runs_insertVoid once start).done) fun _ => ?_
  exact Charges.bind charges_leaveHead (fun _ => charges_again (.start tag)) b start

end Once

section Tag

variable {tag : StartTag} (free : f → tag.cost c = 0)

include free

theorem charges_insertElement : Charges c f (k + tag.cost c) (discard (insertTag tag)) fun _ => k :=
  fun _ start => runs_insertElement (start.once free) start

theorem charges_startText (model : ContentModel) :
    Charges c f (k + tag.cost c) (startText tag model) fun _ => k :=
  fun _ start => runs_startText (start.once free) start model

theorem charges_insertVoid : Charges c f (k + tag.cost c) (insertVoid tag) fun _ => k :=
  fun _ start => runs_insertVoid (start.once free) start

/-! The head -/

theorem charges_headStart : Charges c f (k + tag.cost c) (headStart tag) (owed c k) :=
  fun _ start => runs_headStart (start.once free) start

theorem charges_headNoscriptStart :
    Charges c f (k + tag.cost c) (headNoscriptStart tag) (owed c k) :=
  .ite (fun _ => charges_headStart free) fun _ =>
    .ite (fun _ => charges_handled (Nat.le_add_right _ _)) fun _ =>
      .bind charges_leaveNoscript fun _ => charges_again (.start tag)

theorem charges_startInHead : Charges c f (k + tag.cost c) (startInHead tag) fun _ => k := by
  have inHead : Charges c f (k + tag.cost c) (do
      discard (headStart tag)
      modify fun b => { b with opened := b.opened.eraseP (·.name == "head") } : Parse Unit)
      fun _ => k :=
    .bind ((charges_headStart free).discard le_owed) fun _ =>
      charges_modify fun _ => { opened := fun _ member => List.mem_of_mem_eraseP member }
  intro b start
  refine .get ?_
  split
  next head found =>
    exact (runs_push start (start.head head found)).bind fun _ after _ pushed =>
      inHead after pushed.1
  next => exact inHead b start

theorem charges_afterHeadStart :
    Charges c f (k + tag.cost c) (afterHeadStart tag) (owed c k) := by
  refine .ite (fun _ => ?_) fun _ => .ite (fun _ => ?_) fun _ => ?_
  · exact .bind (charges_setFramesetOk _) fun _ => .bind (charges_insertElement free) fun _ =>
      charges_done (charges_setMode _)
  · exact .bind (charges_insertElement free) fun _ =>
      charges_done (charges_setMode _)
  · exact .ite (fun _ => charges_done (charges_startInHead free)) fun _ =>
      .ite (fun _ => charges_handled (Nat.le_add_right _ _)) fun _ =>
        .bind charges_startBody fun _ => charges_again (.start tag)

end Tag

/-! The body -/

theorem mem_of_openBody? {b : Builder} {body : Handle} (found : openBody? b = some body) :
    body ∈ b.opened ∧ body.name = "body" := by
  unfold openBody? at found
  split at found
  next outer second rest same =>
    split at found
    next named =>
      cases found
      exact ⟨List.mem_reverse.mp (by simp [same]), named⟩
    next => cases found
  next => cases found

/-- A body gets new attributes, and no other element does. -/
theorem retains_setBody {s : Dom.Store} {id : Dom.NodeId} {ns : Option String} {attrs : Dom.Attrs}
    (body : s.content id = .element "body" ns attrs) (new : Dom.Attrs) :
    Retains c s (s.setContent id (.element "body" ns new)) where
  known := by
    rintro h ⟨space, old, element⟩
    by_cases same : id = h.id
    · subst same
      rw [body] at element
      injection element with name
      have inside : h.id < s.cells.size := Dom.Store.lt_size_of_content (by simp [body])
      exact ⟨ns, new, by rw [Dom.Store.content_setContent_self inside, name]⟩
    · exact ⟨space, old, by rw [Dom.Store.content_setContent_of_ne same, element]⟩
  reopenable := by
    rintro h ⟨other, space, old, element, plain⟩
    -- What can be opened again is no body, so its attributes are kept.
    have apart : id ≠ h.id := by
      rintro rfl
      rw [body] at element
      injection element with name
      exact other name.symm
    exact ⟨other, space, old, by rw [Dom.Store.content_setContent_of_ne apart, element], plain⟩

/-- The attributes of a second body are not expanded, so nothing is taken for them. -/
theorem charges_startSecondBody (tag : StartTag) :
    Charges c f k (startSecondBody tag) fun _ => k := by
  intro b start
  refine .get ?_
  split
  next => exact runs_pure start
  next body found =>
    obtain ⟨member, named⟩ := mem_of_openBody? found
    refine (charges_setFramesetOk false b start).bind fun _ mid retains affords => ?_
    obtain ⟨ns, attrs, element⟩ := retains.known body (start.opened body member)
    rw [named] at element
    have retains := fun new => retains_setBody (c := c) element new
    show Retains c mid.dom _ ∧ Affords c f k _
    simp only [element]
    refine ⟨retains _, ⟨affords.covers, affords.wide, affords.single, affords.unflagged,
      affords.fostered, ?_, ?_, ?_⟩⟩
    · exact fun h member => (retains _).known h (affords.opened h member)
    · exact fun h head => (retains _).known h (affords.head h head)
    · exact fun h member => (retains _).reopenable h (affords.formatting h member)

section Tag

variable {tag : StartTag} (free : f → tag.cost c = 0)

include free

theorem charges_startFrameset : Charges c f (k + tag.cost c) (startFrameset tag) fun _ => k := by
  refine .get fun b => ?_
  split
  next => exact .pure (Nat.le_add_right _ _)
  next body _ =>
    refine .ite (fun _ => ?_) fun _ => .pure (Nat.le_add_right _ _)
    -- The body goes with all that is in it, but what was taken for it stays taken.
    exact .bind (charges_detach body) fun _ => .bind (charges_popTo _) fun _ =>
      .bind (charges_insertElement free) fun _ => charges_setMode _

theorem charges_startListItem : Charges c f (k + tag.cost c) (startListItem tag) fun _ => k := by
  have item : Charges c f (k + tag.cost c) (discard (insertTag tag)) fun _ => k :=
    charges_insertElement free
  have paragraph : Charges c f (k + tag.cost c) (do
      if (← get).inScope "p" .button then discard (endTag (← get).mode "p")
      discard (insertTag tag) : Parse Unit) fun _ => k :=
    .get fun _ => .ite
      (fun _ => .get fun _ => .bind ((charges_endTag _ _).discard le_owed) fun _ => item)
      fun _ => item
  refine .bind (charges_setFramesetOk _) fun _ => .get fun b => ?_
  split
  next name _ =>
    exact .get fun _ => .bind ((charges_endTag _ name).discard le_owed) fun _ => paragraph
  next => exact paragraph

theorem charges_startAnchor (other : tag.name ≠ "body") :
    Charges c f (k + tag.cost c) (startAnchor tag) fun _ => k := by
  have anchor : Charges c f (k + tag.cost c) (do reconstruct; insertFormatting tag : Parse Unit)
      fun _ => k :=
    .bind charges_reconstruct fun _ => charges_insertFormatting free other
  refine .get fun b => ?_
  split
  next old _ =>
    exact .bind (charges_closeFormatting "a" 8) fun _ => .bind (charges_closeElement old) fun _ =>
      .bind (charges_modify fun _ => { formatting := fun _ => mem_of_mem_forget }) fun _ => anchor
  next => exact anchor

theorem charges_startNobr (other : tag.name ≠ "body") :
    Charges c f (k + tag.cost c) (startNobr tag) fun _ => k :=
  .bind charges_reconstruct fun _ => .get fun _ => .ite
    (fun _ => .bind (charges_closeFormatting "nobr" 8) fun _ => .bind charges_reconstruct fun _ =>
      charges_insertFormatting free other)
    fun _ => charges_insertFormatting free other

theorem charges_startVoidFormatting :
    Charges c f (k + tag.cost c) (startVoidFormatting tag) fun _ => k :=
  .bind charges_reconstruct fun _ => .bind (charges_insertVoid free) fun _ =>
    charges_setFramesetOk _

theorem charges_startInput : Charges c f (k + tag.cost c) (startInput tag) fun _ => k :=
  .get fun _ => .bind (charges_startVoidFormatting free) fun _ =>
    .ite (fun _ => charges_setFramesetOk _) fun _ => .pure le_rfl

theorem charges_startForm : Charges c f (k + tag.cost c) (startForm tag) fun _ => k :=
  .get fun _ => .ite
    (fun _ => .bind charges_closeParagraphIfOpen fun _ => .bind (charges_insertTag free) fun _ =>
      charges_modify fun _ => {})
    fun _ => .pure (Nat.le_add_right _ _)

theorem charges_startRule : Charges c f (k + tag.cost c) (startRule tag) fun _ => k :=
  .bind charges_closeParagraphIfOpen fun _ => .bind (charges_insertVoid free) fun _ =>
    charges_setFramesetOk _

theorem charges_startSelect : Charges c f (k + tag.cost c) (startSelect tag) fun _ => k :=
  .bind charges_reconstruct fun _ => .bind (charges_insertElement free) fun _ =>
    .bind (charges_setFramesetOk _) fun _ => .get fun _ => charges_setMode _

end Tag

/-! Attributes that are given on -/

/-- The number of sentinels in the values of attributes. -/
def attrsCost (c : Char) (attrs : List (String × String)) : Nat := sentinelsIn c (rawAttrs attrs)

theorem attrsCost_cons (name value : String) (rest : List (String × String)) :
    attrsCost c ((name, value) :: rest) = value.toList.count c + attrsCost c rest := rfl

theorem attrsCost_assign (name value : String) (attrs : List (String × String)) :
    attrsCost c (assign name value attrs) ≤ attrsCost c attrs + value.toList.count c := by
  induction attrs with
  | nil => exact Nat.le_of_eq (Nat.add_comm _ _)
  | cons attr rest ih =>
    obtain ⟨other, old⟩ := attr
    rw [assign]
    split
    · rw [attrsCost_cons, attrsCost_cons]
      omega
    · rw [attrsCost_cons, attrsCost_cons]
      omega

/-- Of attributes that are respelled to the same name, one value is kept. -/
theorem attrsCost_respell (respelled : String → String) (attrs given : List (String × String)) :
    attrsCost c (attrs.foldl (fun given (name, value) => assign (respelled name) value given) given)
      ≤ attrsCost c given + attrsCost c attrs := by
  induction attrs generalizing given with
  | nil => exact Nat.le_refl _
  | cons attr rest ih =>
    obtain ⟨name, value⟩ := attr
    have first := attrsCost_assign (c := c) (respelled name) value given
    have others := ih (assign (respelled name) value given)
    rw [List.foldl_cons, attrsCost_cons]
    exact others.trans (by omega)

/-- The sentinels in the first value of a name. -/
def valueCost (c : Char) (name : String) (attrs : List (String × String)) : Nat :=
  ((attrs.find? (·.1 == name)).map (·.2)).elim 0 (·.toList.count c)

theorem valueCost_cons_self (name value : String) (rest : List (String × String)) :
    valueCost c name ((name, value) :: rest) = value.toList.count c := by
  simp [valueCost]

theorem valueCost_cons_of_ne {name other : String} (apart : other ≠ name) (value : String)
    (rest : List (String × String)) :
    valueCost c name ((other, value) :: rest) = valueCost c name rest := by
  simp [valueCost, apart]

/-- Two values and the attributes of other names have no more sentinels than all attributes. -/
theorem valueCost_add {one two : String} (apart : one ≠ two) (attrs : List (String × String)) :
    valueCost c one attrs + valueCost c two attrs +
        attrsCost c (attrs.filter fun (name, _) => name != one && name != two)
      ≤ attrsCost c attrs := by
  induction attrs with
  | nil => exact Nat.le_refl _
  | cons attr rest ih =>
    obtain ⟨name, value⟩ := attr
    by_cases first : name = one
    · subst first
      rw [valueCost_cons_self, valueCost_cons_of_ne apart, List.filter_cons_of_neg (by simp),
        attrsCost_cons]
      omega
    · by_cases second : name = two
      · subst second
        rw [valueCost_cons_self, valueCost_cons_of_ne first, List.filter_cons_of_neg (by simp),
          attrsCost_cons]
        omega
      · rw [valueCost_cons_of_ne first, valueCost_cons_of_ne second,
          List.filter_cons_of_pos (by simp [first, second]), attrsCost_cons, attrsCost_cons]
        omega

/-- Whether a character takes up one byte, as those do that rules write by themselves. -/
def isNarrow (d : Char) : Bool := decide (d.toNat < 128)

theorem count_narrow (wide : 128 ≤ c.toNat) {text : List Char} (narrow : text.all isNarrow = true) :
    text.count c = 0 := by
  refine List.count_eq_zero.mpr fun member => ?_
  have narrow : c.toNat < 128 := of_decide_eq_true (List.all_eq_true.mp narrow c member)
  omega

theorem runs_insertForeign {tag : StartTag} {b : Builder}
    (once : b.makesTwice = true → tag.cost c = 0) (start : Affords c f (k + tag.cost c) b)
    (ns : String) (spellings : List String) :
    Runs c (insertForeign tag ns spellings) b fun _ after => Affords c f k after := by
  have respelled := attrsCost_respell (c := c) (respell spellings) tag.attrs []
  have none : attrsCost c [] = 0 := rfl
  rw [none, Nat.zero_add] at respelled
  have pays : Runs c (insertWith tag.name (some ns) (rawAttrs
      (tag.attrs.foldl (fun attrs (name, value) => assign (respell spellings name) value attrs) [])))
      b fun _ after => Affords c f k after := by
    refine (runs_insertWith (fun twice => ?_) (start.mono ?_)).imp fun _ _ holds => holds.1
    · exact Nat.le_zero.mp (respelled.trans_eq (once twice))
    · exact Nat.add_le_add_left respelled k
  exact pays.discard.pays fun _ => .ite (fun _ => charges_pop) fun _ => .pure le_rfl

theorem charges_insertForeign {tag : StartTag} (free : f → tag.cost c = 0) (ns : String)
    (spellings : List String) :
    Charges c f (k + tag.cost c) (insertForeign tag ns spellings) fun _ => k :=
  fun _ start => runs_insertForeign (start.once free) start ns spellings

/-! Search fields -/

theorem cost_indexForm (action : Option String) :
    StartTag.cost c { name := "form", attrs := action.toList.map fun v => ("action", v) } =
      action.elim 0 (·.toList.count c) := by
  cases action with
  | none => rfl
  | some value => rfl

theorem count_indexPrompt (wide : 128 ≤ c.toNat) (prompt : Option String) :
    (prompt.getD indexPrompt).toList.count c = prompt.elim 0 (·.toList.count c) := by
  cases prompt with
  | none => exact count_narrow wide (by rfl)
  | some value => rfl

theorem cost_indexInput (wide : 128 ≤ c.toNat) (others : List (String × String)) :
    StartTag.cost c { name := "input", attrs := assign "name" "isindex" others } ≤
      attrsCost c others := by
  have assigned := attrsCost_assign (c := c) "name" "isindex" others
  rw [count_narrow wide (by rfl)] at assigned
  exact assigned

theorem charges_indexField {form input : StartTag} {prompt : List Char}
    (free : f → form.cost c + prompt.count c + input.cost c = 0) :
    Charges c f (k + (form.cost c + prompt.count c + input.cost c)) (do
      startForm form
      startRule { name := "hr" }
      reconstruct
      discard (insertImplied "label")
      bodyCharacters prompt
      startInput input
      closeOther "label"
      startRule { name := "hr" }
      endForm : Parse Unit) fun _ => k := by
  have rule : f → StartTag.cost c { name := "hr" } = 0 := fun _ => rfl
  have formFree : f → form.cost c = 0 := fun on => by
    have none := free on
    omega
  have inputFree : f → input.cost c = 0 := fun on => by
    have none := free on
    omega
  -- the form is paid for first, then the label, then the input
  have order : k + (form.cost c + prompt.count c + input.cost c) =
      k + input.cost c + prompt.count c + form.cost c := by omega
  rw [order]
  refine .bind (charges_startForm formFree) fun _ => .bind (charges_startRule rule) fun _ =>
    .bind charges_reconstruct fun _ => ?_
  refine .bind ((charges_insertImplied "label").discard fun _ => le_rfl) fun _ =>
    .bind (charges_bodyCharacters prompt) fun _ => .bind (charges_startInput inputFree) fun _ => ?_
  exact .bind (charges_closeOther "label") fun _ => .bind (charges_startRule rule) fun _ =>
    charges_endForm

/-- The attributes of a search field are given on to its form, its label and its input. -/
theorem charges_startIndex {tag : StartTag} (free : f → tag.cost c = 0) :
    Charges c f (k + tag.cost c) (startIndex tag) fun _ => k := by
  intro b start
  refine (Charges.get fun b => .ite (fun _ => ?_) fun _ => .pure (Nat.le_add_right _ _)) b start
  have total : _ ≤ tag.cost c := valueCost_add (show "action" ≠ "prompt" by decide) tag.attrs
  have input := cost_indexInput start.wide
    (tag.attrs.filter fun (name, _) => name != "action" && name != "prompt")
  rw [valueCost, valueCost, ← cost_indexForm, ← count_indexPrompt start.wide] at total
  have total := (Nat.add_le_add_left input _).trans total
  exact (charges_indexField fun on => Nat.le_zero.mp (total.trans_eq (free on))).less
    (Nat.add_le_add_left total k)

/-- A start tag in a body. -/
theorem charges_bodyStart {tag : StartTag} (free : f → tag.cost c = 0) :
    Charges c f (k + tag.cost c) (bodyStart tag) (owed c k) := by
  have unpaid : k ≤ k + tag.cost c := Nat.le_add_right _ _
  have insert : Charges c f (k + tag.cost c) (discard (insertTag tag)) fun _ => k :=
    charges_insertElement free
  refine .ite (fun _ => charges_handled unpaid) fun _ => ?_
  refine .ite (fun _ => charges_headStart free) fun _ => ?_
  refine .ite (fun _ => .get fun _ => .ite (fun _ => ?_) fun _ => ?_) fun _ => ?_
  · exact .bind (charges_endBlock "button") fun _ => charges_again (.start tag)
  · exact .bind charges_reconstruct fun _ => .bind insert fun _ =>
      charges_done (charges_setFramesetOk _)
  refine .ite (fun _ => charges_done ((charges_startSecondBody tag).imp fun _ => unpaid)) fun _ => ?_
  refine .ite (fun _ => charges_done (charges_startFrameset free)) fun _ => ?_
  refine .ite (fun _ => .bind charges_closeParagraphIfOpen fun _ => charges_done insert) fun _ => ?_
  -- headings, preformatted text, forms, list items and plain text
  refine .ite (fun _ => ?_) fun _ => ?_
  · refine .bind charges_closeParagraphIfOpen fun _ => .bind charges_currentName fun _ => ?_
    exact .ite (fun _ => .bind charges_pop fun _ => charges_done insert) fun _ =>
      charges_done insert
  refine .ite (fun _ => ?_) fun _ => ?_
  · exact .bind charges_closeParagraphIfOpen fun _ => .bind insert fun _ =>
      charges_done (charges_modify fun _ => {})
  refine .ite (fun _ => charges_done (charges_startForm free)) fun _ => ?_
  refine .ite (fun _ => charges_done (charges_startListItem free)) fun _ => ?_
  refine .ite (fun _ => ?_) fun _ => ?_
  · exact .bind charges_closeParagraphIfOpen fun _ => .bind insert fun _ =>
      charges_done (charges_setModel _)
  -- formatting elements, none of which is a body
  refine .ite (fun anchor => charges_done (charges_startAnchor free ?_)) fun _ => ?_
  · rw [anchor]
    decide
  refine .ite (fun named => ?_) fun _ => ?_
  · have other : tag.name ≠ "body" := by
      intro body
      rw [body] at named
      exact absurd named (by decide)
    exact .bind charges_reconstruct fun _ => charges_done (charges_insertFormatting free other)
  refine .ite (fun nobr => charges_done (charges_startNobr free ?_)) fun _ => ?_
  · rw [nobr]
    decide
  refine .ite (fun _ => ?_) fun _ => ?_
  · exact .bind charges_reconstruct fun _ => .bind insert fun _ => .bind charges_addMarker fun _ =>
      charges_done (charges_setFramesetOk _)
  refine .ite (fun _ => ?_) fun _ => ?_
  · exact .bind charges_closeParagraphIfOpen fun _ => .bind charges_reconstruct fun _ =>
      .bind (charges_setFramesetOk _) fun _ => charges_done (charges_startText free _)
  refine .ite (fun _ => ?_) fun _ => ?_
  · exact .bind charges_closeParagraphIfOpen fun _ => .bind insert fun _ =>
      .bind (charges_setFramesetOk _) fun _ => charges_done (charges_setMode _)
  -- elements that are closed at once
  refine .ite (fun _ => charges_done (charges_startVoidFormatting free)) fun _ => ?_
  refine .ite (fun _ => charges_done ?_) fun _ => ?_
  · have image : f → StartTag.cost c { tag with name := "img" } = 0 := free
    exact charges_startVoidFormatting image
  refine .ite (fun _ => charges_done (charges_insertVoid free)) fun _ => ?_
  refine .ite (fun _ => charges_done (charges_startInput free)) fun _ => ?_
  refine .ite (fun _ => charges_done (charges_startRule free)) fun _ => ?_
  refine .ite (fun _ => charges_done (charges_startIndex free)) fun _ => ?_
  -- elements with text of their own kind
  refine .ite (fun _ => .bind insert fun _ => charges_done (charges_modify fun _ => {})) fun _ => ?_
  refine .ite (fun _ => ?_) fun _ => ?_
  · exact .bind (charges_setFramesetOk _) fun _ => charges_done (charges_startText free _)
  refine .ite (fun _ => charges_done (charges_startText free _)) fun _ => ?_
  refine .ite (fun _ => charges_done (charges_startSelect free)) fun _ => ?_
  refine .ite (fun _ => .get fun _ => ?_) fun _ => ?_
  · exact .ite (fun _ => .bind (charges_closeImplied _) fun _ => charges_done insert) fun _ =>
      charges_done insert
  refine .ite (fun _ => .bind charges_currentName fun _ => ?_) fun _ => ?_
  · have option := Charges.bind charges_reconstruct fun _ => charges_done insert
    exact .ite
      (fun _ => .get fun _ => .bind ((charges_endTag _ _).discard le_owed) fun _ => option)
      fun _ => option
  -- foreign elements, and all others
  refine .ite (fun _ => ?_) fun _ => .ite (fun _ => ?_) fun _ => ?_
  · exact .bind charges_reconstruct fun _ => charges_done (charges_insertForeign free _ _)
  · exact .bind charges_reconstruct fun _ => charges_done (charges_insertForeign free _ _)
  refine .ite (fun _ => charges_handled unpaid) fun _ => ?_
  exact .bind charges_reconstruct fun _ => charges_done insert

/-! Tables -/

/-- The start tags that have rules of their own in a table. -/
def tableTagNames : List String :=
  ["html", "caption", "colgroup", "col", "tbody", "tfoot", "thead", "td", "th", "tr", "table",
    "style", "script", "form"]

/-- Whether a start tag goes in front of a table when it is met in it. -/
def isMisplaced (tag : StartTag) : Bool :=
  !(tableTagNames.contains tag.name) && !(tag.name == "input" && isHidden tag)

section Table

variable {tag : StartTag} (free : f → tag.cost c = 0)

include free

theorem charges_startRowGroup : Charges c f (k + tag.cost c) (startRowGroup tag) fun _ => k :=
  .bind (charges_popTo _) fun _ => .bind (charges_insertElement free) fun _ => charges_setMode _

theorem charges_startColumnGroup :
    Charges c f (k + tag.cost c) (startColumnGroup tag) fun _ => k :=
  .bind (charges_popTo _) fun _ => .bind (charges_insertElement free) fun _ => charges_setMode _

theorem charges_startRow : Charges c f (k + tag.cost c) (startRow tag) fun _ => k :=
  .bind (charges_popTo _) fun _ => .bind (charges_insertElement free) fun _ => charges_setMode _

/-- Only a misplaced tag is processed with foster parenting on. -/
theorem runs_tableStart {b : Builder} (start : Affords c f (k + tag.cost c) b)
    (fosters : isMisplaced tag = true →
      Runs c (fostering (bodyStart tag)) b fun next after => Affords c f (owed c k next) after) :
    Runs c (tableStart tag) b fun next after => Affords c f (owed c k next) after := by
  have unpaid : k ≤ k + tag.cost c := Nat.le_add_right _ _
  have insert : Charges c f (k + tag.cost c) (discard (insertTag tag)) fun _ => k :=
    charges_insertElement free
  refine .ite (fun _ => charges_handled unpaid b start) fun html => ?_
  refine .ite (fun _ => ?_) fun caption => ?_
  · exact Charges.bind (charges_popTo _) (fun _ => .bind charges_addMarker fun _ =>
      .bind insert fun _ => charges_done (charges_setMode _)) b start
  refine .ite (fun _ => charges_done (charges_startColumnGroup free) b start) fun colgroup => ?_
  refine .ite (fun _ => ?_) fun col => ?_
  · have implied : f → StartTag.cost c { name := "colgroup" } = 0 := fun _ => rfl
    exact Charges.bind (charges_startColumnGroup implied)
      (fun _ => charges_again (.start tag)) b start
  refine .ite (fun _ => charges_done (charges_startRowGroup free) b start) fun group => ?_
  refine .ite (fun _ => ?_) fun row => ?_
  · have implied : f → StartTag.cost c { name := "tbody" } = 0 := fun _ => rfl
    exact Charges.bind (charges_startRowGroup implied) (fun _ => charges_again (.start tag)) b start
  refine .ite (fun _ => .get ?_) fun table => ?_
  · exact charges_done ((charges_endTag _ _).discard fun next => unpaid.trans (le_owed next)) b start
  refine .ite (fun _ => charges_headStart free b start) fun head => ?_
  refine .ite (fun _ => charges_done (charges_insertVoid free) b start) fun hidden => ?_
  refine .ite (fun _ => .get (.ite (fun _ => ?_) fun _ => charges_handled unpaid b start))
    fun form => ?_
  · exact Charges.bind (charges_insertTag free) (fun _ => .bind (charges_modify fun _ => {}) fun _ =>
      charges_done charges_pop) b start
  · -- A tag that none of the rules above is for does not belong in a table.
    rw [not_or] at head
    rw [not_or, not_or] at group row
    have other : tableTagNames.contains tag.name = false := by
      simp [tableTagNames, html, caption, colgroup, col, group, row, table, head, form]
    have shown : (tag.name == "input" && isHidden tag) = false := by simpa using hidden
    have misplaced : isMisplaced tag = true := by
      rw [isMisplaced, other, shown]
      rfl
    exact (((fosters misplaced).imp fun next _ affords => affords.mono (le_owed next)).discard).done

theorem charges_captionStart : Charges c f (k + tag.cost c) (captionStart tag) (owed c k) :=
  .ite (fun _ => charges_handled (Nat.le_add_right _ _)) fun _ =>
    .ite (fun _ => charges_again_if (.start tag) charges_endCaption) fun _ => charges_bodyStart free

theorem charges_columnGroupStart :
    Charges c f (k + tag.cost c) (columnGroupStart tag) (owed c k) :=
  .ite (fun _ => charges_handled (Nat.le_add_right _ _)) fun _ =>
    .ite (fun _ => charges_done (charges_insertVoid free)) fun _ =>
      charges_again_if (.start tag) charges_endColumnGroup

theorem runs_tableBodyStart {b : Builder} (start : Affords c f (k + tag.cost c) b)
    (fosters : isMisplaced tag = true →
      Runs c (fostering (bodyStart tag)) b fun next after => Affords c f (owed c k next) after) :
    Runs c (tableBodyStart tag) b fun next after => Affords c f (owed c k next) after := by
  refine .ite (fun _ => charges_handled (Nat.le_add_right _ _) b start) fun _ => ?_
  refine .ite (fun _ => charges_done (charges_startRow free) b start) fun _ => ?_
  refine .ite (fun _ => ?_) fun _ => .ite (fun _ => ?_) fun _ => runs_tableStart free start fosters
  · have implied : f → StartTag.cost c { name := "tr" } = 0 := fun _ => rfl
    exact Charges.bind (charges_startRow implied) (fun _ => charges_again (.start tag)) b start
  · exact charges_again_if (.start tag) charges_endOpenRowGroup b start

theorem runs_rowStart {b : Builder} (start : Affords c f (k + tag.cost c) b)
    (fosters : isMisplaced tag = true →
      Runs c (fostering (bodyStart tag)) b fun next after => Affords c f (owed c k next) after) :
    Runs c (rowStart tag) b fun next after => Affords c f (owed c k next) after := by
  refine .ite (fun _ => charges_handled (Nat.le_add_right _ _) b start) fun _ => ?_
  refine .ite (fun _ => ?_) fun _ => .ite (fun _ => ?_) fun _ => runs_tableStart free start fosters
  · exact Charges.bind (charges_popTo _) (fun _ => .bind (charges_insertElement free) fun _ =>
      .bind (charges_setMode _) fun _ => charges_done charges_addMarker) b start
  · exact charges_again_if (.start tag) charges_endRow b start

theorem charges_cellStart : Charges c f (k + tag.cost c) (cellStart tag) (owed c k) :=
  .ite (fun _ => charges_handled (Nat.le_add_right _ _)) fun _ =>
    .ite (fun _ => .get fun _ => .ite
        (fun _ => .bind charges_endOpenCell fun _ => charges_again (.start tag))
        fun _ => charges_handled (Nat.le_add_right _ _))
      fun _ => charges_bodyStart free

/-! Selections and frames -/

theorem charges_selectStart : Charges c f (k + tag.cost c) (selectStart tag) (owed c k) := by
  have unpaid : k ≤ k + tag.cost c := Nat.le_add_right _ _
  have insert : Charges c f (k + tag.cost c) (discard (insertTag tag)) fun _ => k :=
    charges_insertElement free
  refine .ite (fun _ => .bind charges_currentName fun _ => ?_) fun _ => ?_
  · exact .ite (fun _ => .bind charges_pop fun _ => charges_done insert) fun _ =>
      charges_done insert
  refine .ite (fun _ => .bind charges_currentName fun _ => ?_) fun _ => ?_
  · have group : Charges c f (k + tag.cost c) (do
        if (← currentName) == "optgroup" then pop
        discard (insertTag tag)
        handled : Rule) (owed c k) :=
      .bind charges_currentName fun _ =>
        .ite (fun _ => .bind charges_pop fun _ => charges_done insert) fun _ => charges_done insert
    exact .ite (fun _ => .bind charges_pop fun _ => group) fun _ => group
  refine .ite (fun _ => charges_done (charges_endSelect.imp fun _ => unpaid)) fun _ => ?_
  refine .ite (fun _ => .get fun _ => .ite (fun _ => ?_) fun _ => charges_handled unpaid) fun _ => ?_
  · exact .bind charges_endSelect fun _ => charges_again (.start tag)
  exact .ite (fun _ => charges_headStart free) fun _ => charges_handled unpaid

theorem charges_selectInTableStart :
    Charges c f (k + tag.cost c) (selectInTableStart tag) (owed c k) :=
  .ite (fun _ => .bind charges_endSelect fun _ => charges_again (.start tag)) fun _ =>
    charges_selectStart free

theorem charges_framesetStart : Charges c f (k + tag.cost c) (framesetStart tag) (owed c k) :=
  .ite (fun _ => charges_done (charges_insertElement free)) fun _ =>
    .ite (fun _ => charges_done (charges_insertVoid free)) fun _ =>
      .ite (fun _ => charges_bodyStart free) fun _ => charges_handled (Nat.le_add_right _ _)

/-! All modes -/

/-- Whether the rules of a mode are those of a table. -/
def Mode.isTable : Mode → Bool
  | .inTable => true
  | .inTableBody => true
  | .inRow => true
  | _ => false

theorem runs_startTag {mode : Mode} {b : Builder} (start : Affords c f (k + tag.cost c) b)
    (fosters : mode.isTable = true → isMisplaced tag = true →
      Runs c (fostering (bodyStart tag)) b fun next after => Affords c f (owed c k next) after) :
    Runs c (startTag mode tag) b fun next after => Affords c f (owed c k next) after := by
  have unpaid : k ≤ k + tag.cost c := Nat.le_add_right _ _
  have again := charges_again (c := c) (f := f) (k := k) (.start tag)
  cases mode with
  | beforeHead =>
    refine .ite (fun _ => charges_handled unpaid b start) fun _ =>
      .ite (fun _ => charges_done (charges_startHead free) b start) fun _ => ?_
    have implied : f → StartTag.cost c { name := "head" } = 0 := fun _ => rfl
    exact Charges.bind (charges_startHead implied) (fun _ => again) b start
  | inHead => exact charges_headStart free b start
  | inHeadNoscript => exact charges_headNoscriptStart free b start
  | afterHead => exact charges_afterHeadStart free b start
  | inBody => exact charges_bodyStart free b start
  | text => exact charges_handled unpaid b start
  | inTable => exact runs_tableStart free start (fosters rfl)
  | inTableText => exact Charges.bind charges_flushTableText (fun _ => again) b start
  | inCaption => exact charges_captionStart free b start
  | inColumnGroup => exact charges_columnGroupStart free b start
  | inTableBody => exact runs_tableBodyStart free start (fosters rfl)
  | inRow => exact runs_rowStart free start (fosters rfl)
  | inCell => exact charges_cellStart free b start
  | inSelect => exact charges_selectStart free b start
  | inSelectInTable => exact charges_selectInTableStart free b start
  | afterBody =>
    exact .ite (fun _ => charges_handled unpaid b start) fun _ =>
      Charges.bind (charges_setMode _) (fun _ => again) b start
  | inFrameset => exact charges_framesetStart free b start

end Table

/-! Foreign content -/

theorem charges_holdsHtml (h : Handle) : Charges c f k (holdsHtml h) fun _ => k := by
  refine .ite (fun _ => .get fun b => ?_) fun _ => .pure le_rfl
  split
  next => exact .pure le_rfl
  next =>
    rintro _ _ ⟨number, same⟩
    cases same
  next => exact .pure le_rfl

/-- The elements that stay open were open before. -/
theorem runs_leaveForeign (defaultNs : Option String) (opened : List Handle) {b : Builder}
    (start : Affords c f k b) :
    Runs c (leaveForeign defaultNs opened) b fun rest after =>
      Affords c f k after ∧ ∀ h ∈ rest, h ∈ opened := by
  induction opened generalizing b with
  | nil => exact runs_pure ⟨start, fun _ => id⟩
  | cons h rest ih =>
    refine .ite (fun _ => runs_pure ⟨start, fun _ => id⟩) fun _ => ?_
    refine (charges_holdsHtml h b start).bind fun holds after _ affords => ?_
    refine .ite (fun _ => runs_pure ⟨affords, fun _ => id⟩) fun _ => ?_
    refine .ite (fun _ => runs_pure ⟨affords, fun _ => id⟩) fun _ => ?_
    exact (ih affords).imp fun _ _ found =>
      ⟨found.1, fun other member => List.mem_cons_of_mem h (found.2 other member)⟩

theorem charges_foreignStart {tag : StartTag} (free : f → tag.cost c = 0) :
    Charges c f (k + tag.cost c) (foreignStart tag) (owed c k) := by
  intro b start
  refine .get (.ite (fun _ => ?_) fun _ => ?_)
  · refine (runs_leaveForeign _ b.opened start).bind fun rest mid retains found => ?_
    refine (runs_setOpened found.1 fun h member => ?_).bind fun _ after _ holds => ?_
    · exact retains.known h (start.opened h (found.2 h member))
    · exact charges_again (.start tag) after holds.1
  · have plain : Charges c f (k + tag.cost c)
        (insertWith tag.name b.current.ns (rawAttrs tag.attrs)) fun _ => k :=
      fun _ start => (runs_insertWith (start.once free) start).imp fun _ _ holds => holds.1
    have respelled : f → StartTag.cost c { tag with name := respell svgTagNames tag.name } = 0 :=
      free
    refine Charges.ite (fun _ => charges_done (charges_insertForeign free _ _))
      (fun _ => .ite (fun _ => ?_) fun _ => ?_) b start
    · exact charges_done (charges_insertForeign respelled _ _)
    · exact .bind (plain.discard fun _ => le_rfl) fun _ =>
        .ite (fun _ => charges_done charges_pop) fun _ => charges_handled le_rfl

theorem charges_closeForeign (defaultNs : Option String) (name : String) (opened : List Handle) :
    Charges c f k (closeForeign defaultNs name opened) (owed c k) := by
  induction opened with
  | nil => exact charges_handled le_rfl
  | cons h outer ih =>
    unfold closeForeign
    refine .ite (fun _ => .get fun _ => ?_) fun _ => ?_
    · exact .ite
        (fun _ => .bind charges_flushTableText fun _ => charges_done (charges_popThrough _))
        fun _ => charges_done (charges_popThrough _)
    · cases outer with
      | nil => exact charges_handled le_rfl
      | cons next rest => exact .ite (fun _ => ih) fun _ => .get fun _ => charges_endTag _ _

theorem charges_foreignEnd (name : String) : Charges c f k (foreignEnd name) (owed c k) :=
  .get fun _ => charges_closeForeign _ name _

end HtmlTemplate.Html
