import HtmlTemplate.Html.EndTags
import HtmlTemplate.Proofs.Html.Formatting

/-!
Text is charged for its sentinels, and end tags are charged nothing. Text that was collected in a
table has been set aside, so it is paid for when it is inserted at last.
-/

namespace HtmlTemplate.Html

variable {c : Char} {f : Prop} {k : Nat}

/-! Tokens -/

/-- The number of sentinels in a token, where they can be met. -/
def Token.cost (c : Char) : Token → Nat
  | .characters text => text.count c
  | .spaces text => text.count c
  | .start tag => tag.cost c
  | .close _ => 0
  | .comment data => data.count c
  | .doctype => 0

/-- What is still to be charged when a rule hands on a token, besides `k`. -/
def owed (c : Char) (k : Nat) : Option Token → Nat
  | some token => k + token.cost c
  | none => k

theorem charges_handled {more : Nat} (fewer : k ≤ more) : Charges c f more handled (owed c k) :=
  .pure fewer

theorem charges_again (token : Token) : Charges c f (k + token.cost c) (again token) (owed c k) :=
  .pure le_rfl

theorem le_owed (next : Option Token) : k ≤ owed c k next := by
  cases next with
  | none => exact le_rfl
  | some token => exact Nat.le_add_right _ _

/-- A move after which nothing is left to do for the token. -/
theorem charges_done {more : Nat} {act : Parse Unit} (charges : Charges c f more act fun _ => k) :
    Charges c f more (act >>= fun _ => handled) (owed c k) :=
  .bind charges fun _ => charges_handled le_rfl

theorem Runs.done {act : Parse Unit} {b : Builder}
    (runs : Runs c act b fun _ after => Affords c f k after) :
    Runs c (act >>= fun _ => handled) b fun next after => Affords c f (owed c k next) after :=
  runs.pays fun _ => charges_handled le_rfl

/-- A move that says whether the token is to be processed again. -/
theorem charges_again_if {act : Parse Bool} (token : Token)
    (charges : Charges c f (k + token.cost c) act fun _ => k + token.cost c) :
    Charges c f (k + token.cost c) (act >>= fun found => if found then again token else handled)
      (owed c k) :=
  .bind charges fun _ =>
    .ite (fun _ => charges_again token) fun _ => charges_handled (Nat.le_add_right _ _)

/-! Text -/

theorem charges_bodyCharacters (data : List Char) :
    Charges c f (k + data.count c) (bodyCharacters data) fun _ => k := by
  refine .ite (fun _ => ?_) fun _ => .pure (Nat.le_add_right _ _)
  refine .bind charges_reconstruct fun _ => .bind (charges_insertText data) fun _ => ?_
  exact .get fun _ => .ite (fun _ => charges_setFramesetOk _) fun _ => .pure le_rfl

theorem charges_bodySpaces (data : List Char) :
    Charges c f (k + data.count c) (bodySpaces data) fun _ => k := by
  intro b start
  refine .get ?_
  have set : Runs c (set { b with dropNewline := false } : Parse PUnit) b
      fun _ after => Affords c f (k + data.count c) after :=
    runs_set rfl (start.tame {})
  refine set.bind fun _ after _ affords => ?_
  -- what is inserted is the text, possibly without its first character
  have shown (text : List Char) (fewer : text.count c ≤ data.count c) :
      Runs c (if !(b.dropNewline && text.isEmpty) then do reconstruct; insertText text
        else pure () : Parse Unit) after fun _ after => Affords c f k after := by
    have affords := affords.mono (Nat.add_le_add_left fewer k)
    refine .ite (fun _ => ?_) fun _ => runs_pure (affords.mono (Nat.le_add_right _ _))
    exact (charges_reconstruct.bind fun _ => charges_insertText text) after affords
  refine shown _ ?_
  split
  · exact (List.drop_sublist 1 data).count_le c
  · exact le_rfl

theorem charges_flushTableText : Charges c f k flushTableText fun _ => k := by
  intro b start
  refine .get ?_
  have set : Runs c (set { b with tableText := [], mode := b.tableReturn } : Parse PUnit) b
      fun _ after => Affords c f (k + b.tableText.count c) after :=
    runs_set rfl { start with covers := start.covers }
  refine set.bind fun _ after _ affords => ?_
  refine .ite (fun _ => ?_) fun _ => .ite (fun _ => ?_) fun _ => ?_
  · exact charges_fostering (charges_bodyCharacters b.tableText) after affords
  · exact charges_insertText b.tableText after affords
  · exact runs_pure (affords.mono (Nat.le_add_right _ _))

/-! The head -/

theorem charges_startHead {tag : StartTag} (free : f → tag.cost c = 0) :
    Charges c f (k + tag.cost c) (startHead tag) fun _ => k := by
  intro b start
  refine (runs_insertTag (start.once free) start).bind fun h after _ holds => ⟨.refl _, ?_⟩
  refine { holds.1 with head := ?_ }
  rintro _ ⟨⟩
  exact holds.2.known

theorem charges_leaveHead : Charges c f k leaveHead fun _ => k :=
  .bind charges_pop fun _ => charges_setMode _

theorem charges_leaveNoscript : Charges c f k leaveNoscript fun _ => k :=
  .bind charges_pop fun _ => charges_setMode _

theorem charges_startBody : Charges c f k startBody fun _ => k :=
  .bind ((charges_insertImplied "body").discard fun _ => le_rfl) fun _ =>
    .bind (charges_setMode _) fun _ => charges_setFramesetOk _

/-! The body -/

theorem charges_closeParagraph : Charges c f k closeParagraph fun _ => k :=
  .bind (charges_closeImplied _) fun _ => charges_popThrough _

theorem charges_closeParagraphIfOpen : Charges c f k closeParagraphIfOpen fun _ => k :=
  .get fun _ => .ite (fun _ => charges_closeParagraph) fun _ => .pure le_rfl

theorem charges_endParagraph : Charges c f k endParagraph fun _ => k :=
  .get fun _ => .ite
    (fun _ => .bind ((charges_insertImplied "p").discard fun _ => le_rfl) fun _ =>
      charges_closeParagraph)
    fun _ => charges_closeParagraph

theorem charges_endBlock (name : String) : Charges c f k (endBlock name) fun _ => k := by
  have close : Charges c f k (do
      if (← get).inScope name .plain then
        closeImplied none
        popThrough (·.name == name) : Parse Unit) fun _ => k :=
    .get fun _ => .ite (fun _ => .bind (charges_closeImplied _) fun _ => charges_popThrough _)
      fun _ => .pure le_rfl
  exact .ite (fun _ => .bind (charges_modify fun _ => {}) fun _ => close) fun _ => close

theorem charges_endForm : Charges c f k endForm fun _ => k := by
  intro b start
  refine .get ?_
  have set : Runs c (set { b with form := none } : Parse PUnit) b
      fun _ after => Affords c f k after :=
    runs_set rfl (start.tame {})
  refine set.bind fun _ after _ affords => ?_
  split
  next form _ =>
    have close : Charges c f k (do closeImplied none; closeElement form : Parse Unit) fun _ => k :=
      .bind (charges_closeImplied _) fun _ => charges_closeElement _
    exact .ite (fun _ => close after affords) fun _ => runs_pure affords
  next => exact runs_pure affords

theorem charges_endListItem (name : String) : Charges c f k (endListItem name) fun _ => k :=
  .get fun _ => .ite (fun _ => .bind (charges_closeImplied _) fun _ => charges_popThrough _)
    fun _ => .pure le_rfl

theorem charges_endHeading : Charges c f k endHeading fun _ => k := by
  have close : Charges c f k (do
      if headingInScope (← get) then popThrough fun h => headingNames.contains h.name :
        Parse Unit) fun _ => k :=
    .get fun _ => .ite (fun _ => charges_popThrough _) fun _ => .pure le_rfl
  exact .get fun _ => .ite (fun _ => .bind (charges_closeImplied _) fun _ => close) fun _ => close

theorem charges_endObject (name : String) : Charges c f k (endObject name) fun _ => k := by
  have close : Charges c f k (do
      if (← get).inScope name .plain then
        popThrough (·.name == name)
        clearToMarker : Parse Unit) fun _ => k :=
    .get fun _ => .ite (fun _ => .bind (charges_popThrough _) fun _ => charges_clearToMarker)
      fun _ => .pure le_rfl
  exact .get fun _ => .ite (fun _ => .bind (charges_closeImplied _) fun _ => close) fun _ => close

theorem charges_endBreak : Charges c f k endBreak fun _ => k :=
  .bind charges_reconstruct fun _ =>
    .bind ((charges_insertImplied "br").discard fun _ => le_rfl) fun _ => charges_pop

theorem charges_endBody : Charges c f k endBody fun _ => k :=
  .get fun _ => .ite (fun _ => charges_setMode _) fun _ => .pure le_rfl

theorem charges_bodyEnd (name : String) : Charges c f k (bodyEnd name) (owed c k) := by
  refine .ite (fun _ => charges_done charges_endBody) fun _ => .ite (fun _ => ?_) fun _ => ?_
  · exact .get fun _ => .ite
      (fun _ => .bind charges_endBody fun _ => charges_again (.close name))
      fun _ => charges_handled le_rfl
  refine .ite (fun _ => charges_done (charges_endBlock name)) fun _ => ?_
  refine .ite (fun _ => charges_done charges_endForm) fun _ => ?_
  refine .ite (fun _ => charges_done charges_endParagraph) fun _ => ?_
  refine .ite (fun _ => charges_done (charges_endListItem name)) fun _ => ?_
  refine .ite (fun _ => charges_done charges_endHeading) fun _ => ?_
  refine .ite (fun _ => charges_done (charges_closeFormatting name 8)) fun _ => ?_
  refine .ite (fun _ => charges_done (charges_endObject name)) fun _ => ?_
  exact .ite (fun _ => charges_done charges_endBreak) fun _ => charges_done (charges_closeOther name)

/-! Tables -/

theorem charges_tableEnd (name : String) : Charges c f k (tableEnd name) (owed c k) := by
  refine .ite (fun _ => .get fun _ => .ite (fun _ => ?_) fun _ => charges_handled le_rfl)
    fun _ => .ite (fun _ => charges_handled le_rfl) fun _ => ?_
  · exact .bind (charges_closeImplied _) fun _ => .bind (charges_popThrough _) fun _ =>
      charges_done charges_resetMode
  · exact charges_done ((charges_fostering (charges_bodyEnd name)).discard le_owed)

theorem charges_endCaption : Charges c f k endCaption fun _ => k :=
  .get fun _ => .ite
    (fun _ => .bind (charges_closeImplied _) fun _ => .bind (charges_popThrough _) fun _ =>
      .bind charges_clearToMarker fun _ => .bind (charges_setMode _) fun _ => .pure le_rfl)
    fun _ => .pure le_rfl

theorem charges_captionEnd (name : String) : Charges c f k (captionEnd name) (owed c k) :=
  .ite (fun _ => charges_done (charges_endCaption.discard fun _ => le_rfl)) fun _ =>
    .ite (fun _ => charges_again_if (.close name) charges_endCaption) fun _ =>
      .ite (fun _ => charges_handled le_rfl) fun _ => charges_bodyEnd name

theorem charges_endColumnGroup : Charges c f k endColumnGroup fun _ => k :=
  .bind charges_currentName fun _ => .ite
    (fun _ => .bind charges_pop fun _ => .bind (charges_setMode _) fun _ => .pure le_rfl)
    fun _ => .pure le_rfl

theorem charges_columnGroupEnd (name : String) : Charges c f k (columnGroupEnd name) (owed c k) :=
  .ite (fun _ => charges_done (charges_endColumnGroup.discard fun _ => le_rfl)) fun _ =>
    .ite (fun _ => charges_handled le_rfl) fun _ =>
      charges_again_if (.close name) charges_endColumnGroup

theorem charges_endRowGroup (name : String) : Charges c f k (endRowGroup name) fun _ => k :=
  .get fun _ => .ite
    (fun _ => .bind (charges_popTo _) fun _ => .bind charges_pop fun _ => charges_setMode _)
    fun _ => .pure le_rfl

theorem charges_endOpenRowGroup : Charges c f k endOpenRowGroup fun _ => k :=
  .get fun _ => .ite
    (fun _ => .bind (charges_popTo _) fun _ => .bind charges_currentName fun name =>
      .bind (charges_endRowGroup name) fun _ => .pure le_rfl)
    fun _ => .pure le_rfl

theorem charges_tableBodyEnd (name : String) : Charges c f k (tableBodyEnd name) (owed c k) :=
  .ite (fun _ => charges_done (charges_endRowGroup name)) fun _ =>
    .ite (fun _ => charges_again_if (.close name) charges_endOpenRowGroup) fun _ =>
      .ite (fun _ => charges_handled le_rfl) fun _ => charges_tableEnd name

theorem charges_endRow : Charges c f k endRow fun _ => k :=
  .get fun _ => .ite
    (fun _ => .bind (charges_popTo _) fun _ => .bind charges_pop fun _ =>
      .bind (charges_setMode _) fun _ => .pure le_rfl)
    fun _ => .pure le_rfl

theorem charges_rowEnd (name : String) : Charges c f k (rowEnd name) (owed c k) := by
  refine .ite (fun _ => charges_done (charges_endRow.discard fun _ => le_rfl)) fun _ =>
    .ite (fun _ => charges_again_if (.close name) charges_endRow) fun _ =>
      .ite (fun _ => .get fun _ => .ite (fun _ => ?_) fun _ => charges_handled le_rfl) fun _ =>
        .ite (fun _ => charges_handled le_rfl) fun _ => charges_tableEnd name
  exact .bind (charges_endRow.discard fun _ => le_rfl) fun _ => charges_again (.close name)

theorem charges_endCell (name : String) : Charges c f k (endCell name) fun _ => k :=
  .get fun _ => .ite
    (fun _ => .bind (charges_closeImplied _) fun _ => .bind (charges_popThrough _) fun _ =>
      .bind charges_clearToMarker fun _ => charges_setMode _)
    fun _ => .pure le_rfl

theorem charges_endOpenCell : Charges c f k endOpenCell fun _ => k :=
  .get fun _ => .ite (fun _ => charges_endCell _) fun _ => charges_endCell _

theorem charges_cellEnd (name : String) : Charges c f k (cellEnd name) (owed c k) := by
  refine .ite (fun _ => charges_done (charges_endCell name)) fun _ =>
    .ite (fun _ => charges_handled le_rfl) fun _ => .ite (fun _ => ?_) fun _ => charges_bodyEnd name
  exact .get fun _ => .ite
    (fun _ => .bind charges_endOpenCell fun _ => charges_again (.close name))
    fun _ => charges_handled le_rfl

/-! Selections -/

theorem charges_endSelect : Charges c f k endSelect fun _ => k :=
  .get fun _ => .ite (fun _ => .bind (charges_popThrough _) fun _ => charges_resetMode)
    fun _ => .pure le_rfl

theorem charges_popNamed (name : String) :
    Charges c f k (do if (← currentName) == name then pop : Parse Unit) fun _ => k :=
  .bind charges_currentName fun _ => .ite (fun _ => charges_pop) fun _ => .pure le_rfl

theorem charges_endOptgroup : Charges c f k endOptgroup fun _ => k := by
  refine .get fun b => ?_
  have close := charges_popNamed (c := c) (f := f) (k := k) "optgroup"
  split
  · exact .ite (fun _ => .bind charges_pop fun _ => close) fun _ => close
  · exact close

theorem charges_selectEnd (name : String) : Charges c f k (selectEnd name) (owed c k) :=
  .ite (fun _ => .bind charges_currentName fun _ =>
      .ite (fun _ => charges_done charges_pop) fun _ => charges_handled le_rfl)
    fun _ => .ite (fun _ => charges_done charges_endOptgroup) fun _ =>
      .ite (fun _ => charges_done charges_endSelect) fun _ => charges_handled le_rfl

theorem charges_selectInTableEnd (name : String) :
    Charges c f k (selectInTableEnd name) (owed c k) :=
  .ite (fun _ => .get fun _ => .ite
      (fun _ => .bind charges_endSelect fun _ => charges_again (.close name))
      fun _ => charges_handled le_rfl)
    fun _ => charges_selectEnd name

/-! All modes -/

theorem charges_endTag (mode : Mode) (name : String) :
    Charges c f k (endTag mode name) (owed c k) := by
  have again : Charges c f k (again (.close name)) (owed c k) := charges_again (.close name)
  have handled : Charges c f k handled (owed c k) := charges_handled le_rfl
  cases mode with
  | beforeHead =>
    have free : f → StartTag.cost c { name := "head" } = 0 := fun _ => rfl
    exact .ite (fun _ => .bind (charges_startHead free) fun _ => again) fun _ => handled
  | inHead =>
    exact .ite (fun _ => charges_done charges_leaveHead) fun _ =>
      .ite (fun _ => .bind charges_leaveHead fun _ => again) fun _ => handled
  | inHeadNoscript =>
    exact .ite (fun _ => charges_done charges_leaveNoscript) fun _ =>
      .ite (fun _ => .bind charges_leaveNoscript fun _ => again) fun _ => handled
  | afterHead => exact .ite (fun _ => .bind charges_startBody fun _ => again) fun _ => handled
  | inBody => exact charges_bodyEnd name
  | text => exact .bind charges_pop fun _ => .get fun _ => charges_done (charges_setMode _)
  | inTable => exact charges_tableEnd name
  | inTableText => exact .bind charges_flushTableText fun _ => again
  | inCaption => exact charges_captionEnd name
  | inColumnGroup => exact charges_columnGroupEnd name
  | inTableBody => exact charges_tableBodyEnd name
  | inRow => exact charges_rowEnd name
  | inCell => exact charges_cellEnd name
  | inSelect => exact charges_selectEnd name
  | inSelectInTable => exact charges_selectInTableEnd name
  | afterBody => exact .ite (fun _ => handled) fun _ => .bind (charges_setMode _) fun _ => again
  | inFrameset =>
    refine .bind charges_currentName fun _ => ?_
    exact .ite (fun _ => charges_done charges_pop) fun _ => handled

end HtmlTemplate.Html
