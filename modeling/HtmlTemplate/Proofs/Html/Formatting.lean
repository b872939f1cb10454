import HtmlTemplate.Proofs.Html.Credit

/-!
The active formatting elements cost nothing: they are opened again and cloned from elements without
sentinels, so all that is taken for them was taken when they were first opened.
-/

namespace HtmlTemplate.Html

open Dom (Plain Spends sentinelsIn)

variable {c : Char} {f : Prop} {k : Nat} {b : Builder}

theorem mem_of_mem_forget {h : Handle} {entry : Option Handle} {formatting : List (Option Handle)}
    (member : entry ∈ forget h formatting) : entry ∈ formatting :=
  List.mem_of_mem_eraseP member

theorem mem_of_mem_sinceMarker {h : Handle} {formatting : List (Option Handle)}
    (member : h ∈ sinceMarker formatting) : some h ∈ formatting := by
  obtain ⟨entry, found, same⟩ := List.mem_filterMap.mp member
  obtain rfl : entry = some h := same
  exact List.mem_reverse.mp (List.takeWhile_subset _ found)

theorem mem_of_formattingNamed? {name : String} {h : Handle} {formatting : List (Option Handle)}
    (found : formattingNamed? name formatting = some h) : some h ∈ formatting :=
  mem_of_mem_sinceMarker (List.mem_of_find?_eq_some found)

theorem charges_addMarker : Charges c f k addMarker fun _ => k :=
  charges_modify fun _ => { formatting := by simp }

theorem charges_clearToMarker : Charges c f k clearToMarker fun _ => k :=
  charges_modify fun _ =>
    { formatting := fun _ member =>
        List.mem_reverse.mp
          (List.dropWhile_subset _ (List.drop_subset 1 _ (List.mem_reverse.mp member))) }

theorem runs_addFormatting {h : Handle} (start : Affords c f k b)
    (reopenable : Reopenable c b.dom h) :
    Runs c (addFormatting h) b fun _ after => Affords c f k after := by
  refine .get ((runs_setFormatting start ?_).imp fun _ _ holds => holds.1)
  intro other member
  rcases List.mem_append.mp member with member | member
  · split at member
    · exact start.formatting other (mem_of_mem_forget member)
    · exact start.formatting other member
  · obtain rfl : other = h := Option.some.inj (List.mem_singleton.mp member)
    exact reopenable

/-! Opening elements again -/

theorem sentinelsIn_of_plain {attrs : Dom.Attrs} (plain : Plain c attrs) :
    sentinelsIn c (attrs.map fun (name, value) => (.plain name, value)) = 0 := by
  induction attrs with
  | nil => rfl
  | cons attr rest ih =>
    obtain ⟨first, others⟩ := List.forall_mem_cons.mp plain
    rw [List.map_cons, sentinelsIn, ih others, first]

theorem runs_reopen {h : Handle} (start : Affords c f k b) (reopenable : Reopenable c b.dom h) :
    Runs c (reopen h) b fun new after => Affords c f k after ∧ Reopenable c after.dom new := by
  obtain ⟨other, ns, attrs, element, plain⟩ := reopenable
  have none := sentinelsIn_of_plain plain
  have same : b.dom.attrsOf h.id = attrs := by rw [Dom.Store.attrsOf, element]
  refine .get ?_
  rw [same]
  refine (runs_insertWith (fun _ => none) ?_).imp fun new after holds =>
    ⟨holds.1, holds.2.reopenable other⟩
  rw [none]
  exact start

/-- Entries are opened again one after the other; all of them can be opened once more. -/
theorem runs_mapM_entries {act : Option Handle → Parse (Option Handle)}
    (each : ∀ entry b, Affords c f k b → (∀ h, entry = some h → Reopenable c b.dom h) →
      Runs c (act entry) b fun new after =>
        Affords c f k after ∧ ∀ h, new = some h → Reopenable c after.dom h)
    {entries : List (Option Handle)} (start : Affords c f k b)
    (reopenable : ∀ h, some h ∈ entries → Reopenable c b.dom h) :
    Runs c (entries.mapM act) b fun reopened after =>
      Affords c f k after ∧ ∀ h, some h ∈ reopened → Reopenable c after.dom h := by
  induction entries generalizing b with
  | nil => exact runs_pure ⟨start, by simp⟩
  | cons entry rest ih =>
    rw [List.mapM_cons]
    refine (each entry b start fun h same => reopenable h (by simp [same])).bind
      fun opened mid retains first => ?_
    have others : ∀ h, some h ∈ rest → Reopenable c mid.dom h := fun h member =>
      retains.reopenable h (reopenable h (List.mem_cons_of_mem _ member))
    refine (ih first.1 others).bind fun reopened after retains later => ?_
    refine runs_pure ⟨later.1, fun h member => ?_⟩
    rcases List.mem_cons.mp member with same | member
    · exact retains.reopenable h (first.2 h same.symm)
    · exact later.2 h member

theorem charges_reconstruct : Charges c f k reconstruct fun _ => k := by
  intro b start
  refine .get ?_
  have all : ∀ h, some h ∈ (b.formatting.reverse.takeWhile
      fun entry => entry.any fun h => !b.isOpen h).reverse → Reopenable c b.dom h := by
    intro h member
    have inner := List.takeWhile_subset _ (List.mem_reverse.mp member)
    exact start.formatting h (List.mem_reverse.mp inner)
  refine (runs_mapM_entries ?_ start all).bind fun reopened after retains holds => ?_
  · intro entry b start reopenable
    cases entry with
    | none => exact runs_pure ⟨start, nofun⟩
    | some h =>
      refine (runs_reopen start (reopenable h rfl)).bind fun new after _ holds => ?_
      exact runs_pure ⟨holds.1, fun _ same => Option.some.inj same ▸ holds.2⟩
  · refine (runs_setFormatting holds.1 fun h member => ?_).imp fun _ _ holds => holds.1
    rcases List.mem_append.mp member with kept | new
    · exact retains.reopenable h (start.formatting h (List.take_subset _ _ kept))
    · exact holds.2 h new

theorem runs_insertFormatting {tag : StartTag} (once : b.makesTwice = true → tag.cost c = 0)
    (other : tag.name ≠ "body") (start : Affords c f (k + tag.cost c) b) :
    Runs c (insertFormatting tag) b fun _ after => Affords c f k after :=
  (runs_insertTag once start).bind fun _ _ _ holds =>
    runs_addFormatting holds.1 (holds.2.reopenable other)

theorem charges_insertFormatting {tag : StartTag} (free : f → tag.cost c = 0)
    (other : tag.name ≠ "body") :
    Charges c f (k + tag.cost c) (insertFormatting tag) fun _ => k :=
  fun _ start => runs_insertFormatting (start.once free) other start

/-! Misnested end tags -/

theorem charges_closeOther (name : String) : Charges c f k (closeOther name) fun _ => k := by
  refine .get fun b => ?_
  split
  · exact .ite (fun _ => .bind (charges_closeImplied _) fun _ => charges_popThrough _)
      fun _ => .pure le_rfl
  · exact .pure le_rfl

theorem charges_detach (h : Handle) : Charges c f k (detach h) fun _ => k := by
  refine .get fun b => ?_
  split
  · exact charges_onDom fun _ => Dom.spends_remove _ _
  · exact .pure le_rfl

/-- A clone is an element like the one it is made from. -/
theorem runs_cloneHandle {h : Handle} (start : Affords c f k b) (known : Known b.dom h) :
    Runs c (cloneHandle h) b fun clone after =>
      Affords c f k after ∧ Known after.dom clone ∧
        (Reopenable c b.dom h → Reopenable c after.dom clone) := by
  obtain ⟨ns, attrs, element⟩ := known
  refine (runs_onDom (Dom.spends_cloneNode element) start).bind fun id after _ holds => ?_
  refine runs_pure ⟨holds.1, ⟨ns, attrs, holds.2⟩, ?_⟩
  rintro ⟨other, _, _, same, plain⟩
  rw [element] at same
  cases same
  exact ⟨other, ns, attrs, holds.2, plain⟩

/-- An open element that is among the formatting elements can be opened again. -/
theorem reopenable_of_index {h : Handle} {place : Nat} (start : Affords c f k b)
    (known : Known b.dom h) (found : formattingIndex? h b.formatting = some place) :
    Reopenable c b.dom h := by
  obtain ⟨inside, same, -⟩ := List.findIdx?_eq_some_iff_getElem.mp found
  obtain ⟨other, entry, id⟩ : ∃ other, b.formatting[place] = some other ∧ other.id = h.id := by
    simpa [isEntry, Option.any_eq_true] using same
  obtain ⟨notBody, ns, attrs, element, plain⟩ :=
    start.formatting other (entry ▸ List.getElem_mem inside)
  obtain ⟨_, _, named⟩ := known
  -- The entry may be another handle, but it names the same element.
  rw [id, named] at element
  injection element with name space values
  exact ⟨name ▸ notBody, _, _, named, values ▸ plain⟩

theorem mem_exchange {old new h : Handle} {formatting : List (Option Handle)}
    (member : some h ∈ exchange old new formatting) : h = new ∨ some h ∈ formatting := by
  obtain ⟨entry, found, same⟩ := List.mem_map.mp member
  split at same
  · exact .inl (Option.some.inj same).symm
  · exact .inr (same ▸ found)

/-- Elements are rebuilt from clones, so those that are open stay known. -/
theorem runs_rebuildBetween (target block : Handle) (steps index : Nat) {r : Rebuilding}
    (start : Affords c f k b) (known : ∀ h ∈ r.stack, Known b.dom h) :
    Runs c (rebuildBetween target block steps index r) b fun rebuilt after =>
      Affords c f k after ∧ ∀ h ∈ rebuilt.stack, Known after.dom h := by
  induction steps generalizing b index r with
  | zero => exact runs_pure ⟨start, known⟩
  | succ steps ih =>
    unfold rebuildBetween
    dsimp only
    split
    next => exact runs_pure ⟨start, known⟩
    next node found =>
      have node_known := known node (List.mem_of_getElem? found)
      refine .get ?_
      split
      next =>
        exact ih (index - 1) start fun h member => known h (List.mem_of_mem_eraseIdx member)
      next place entry =>
        have reopenable := reopenable_of_index start node_known entry
        refine .ite (fun _ => runs_pure ⟨start, known⟩) fun _ => ?_
        refine (runs_cloneHandle start node_known).bind fun clone mid retains cloned => ?_
        have exchanged : ∀ h, some h ∈ exchange node clone b.formatting →
            Reopenable c mid.dom h := by
          intro h member
          rcases mem_exchange member with rfl | member
          · exact cloned.2.2 reopenable
          · exact retains.reopenable h (start.formatting h member)
        have open_known : ∀ h ∈ r.stack.set (index - 1) clone, Known mid.dom h := by
          intro h member
          rcases List.mem_or_eq_of_mem_set member with member | rfl
          · exact retains.known h (known h member)
          · exact cloned.2.1
        -- the moves that follow hang the element that was rebuilt last below the clone
        refine (runs_setFormatting cloned.1 exchanged).bind fun _ set _ holds => ?_
        refine (charges_detach r.last set holds.1).bind fun _ alone first affords => ?_
        refine (charges_onDom (fun _ => Dom.spends_append _ _) alone affords).bind
          fun _ after second affords => ?_
        refine ih (index - 1) affords fun h member => ?_
        exact second.known h (first.known h (holds.2 ▸ open_known h member))

/-- What is put into a list at a place joins those that were there. -/
theorem mem_of_mem_insert {α : Type} {new other : α} {list : List α} {place : Nat}
    (member : other ∈ list.take place ++ new :: list.drop place) :
    other = new ∨ other ∈ list := by
  rcases List.mem_append.mp member with before | later
  · exact .inr (List.take_subset _ _ before)
  · rcases List.mem_cons.mp later with same | behind
    · exact .inl same
    · exact .inr (List.drop_subset _ _ behind)

theorem charges_placeRebuilt (ancestor last : Handle) :
    Charges c f k (placeRebuilt ancestor last) fun _ => k := by
  refine .bind (charges_detach last) fun _ => .ite (fun _ => .get fun b => ?_) fun _ => ?_
  · obtain ⟨parent, before⟩ := fosterPlace b
    cases before with
    | none =>
      -- Without a place in front of a table this fails, but not for want of a directive.
      rintro _ _ ⟨number, same⟩
      cases same
    | some ref => exact charges_onDom fun _ => Dom.spends_insertBefore _ _ _
  · exact charges_onDom fun _ => Dom.spends_append _ _

theorem runs_moveInside {target : Handle} (block ancestor : Handle) (start : Affords c f k b)
    (reopenable : Reopenable c b.dom target) :
    Runs c (moveInside target block ancestor) b fun _ after => Affords c f k after := by
  refine .get ?_
  -- The stack is held outermost first while elements are rebuilt.
  have known : ∀ h ∈ b.opened.reverse, Known b.dom h := fun h member =>
    start.opened h (List.mem_reverse.mp member)
  refine (runs_rebuildBetween target block 3 _ start known).bind fun r rebuilt first holds => ?_
  obtain ⟨affords, known⟩ := holds
  refine (runs_setOpened affords fun h member => known h (List.mem_reverse.mp member)).bind
    fun _ opened _ holds => ?_
  obtain ⟨affords, same⟩ := holds
  refine (charges_placeRebuilt ancestor r.last opened affords).bind fun _ placed second affords => ?_
  rw [same] at second
  have reopenable := second.reopenable target (first.reopenable target reopenable)
  refine (runs_cloneHandle affords reopenable.2.known).bind fun clone cloned third holds => ?_
  obtain ⟨affords, clone_known, clone_reopenable⟩ := holds
  have clone_reopenable := clone_reopenable reopenable
  refine (charges_onDom (fun _ => Dom.spends_reparentChildren _ _) cloned affords).bind
    fun _ moved fourth affords => ?_
  refine (charges_onDom (fun _ => Dom.spends_append _ _) moved affords).bind
    fun _ hung fifth affords => .get ?_
  have retains := fourth.trans fifth
  -- The clone takes the place of the target, in the list and among the open elements.
  have noted : ∀ h, some h ∈ (forget target hung.formatting).take r.bookmark ++
      some clone :: (forget target hung.formatting).drop r.bookmark → Reopenable c hung.dom h := by
    intro h member
    rcases mem_of_mem_insert member with same | member
    · rw [Option.some.inj same]
      exact retains.reopenable clone clone_reopenable
    · exact affords.formatting h (mem_of_mem_forget member)
  refine (runs_setFormatting affords noted).bind fun _ last _ holds => ?_
  obtain ⟨affords, same⟩ := holds
  refine (runs_setOpened affords fun h member => ?_).imp fun _ _ holds => holds.1
  rw [same]
  rcases mem_of_mem_insert (List.mem_reverse.mp member) with rfl | member
  · exact retains.known h clone_known
  · exact retains.known h
      (third.known h (second.known h (known h (List.mem_of_mem_eraseP member))))

theorem charges_closeFormatting (name : String) (rounds : Nat) :
    Charges c f k (closeFormatting name rounds) fun _ => k := by
  induction rounds with
  | zero => exact .pure le_rfl
  | succ rounds ih =>
    intro b start
    refine .get ?_
    split
    next => exact charges_closeOther name b start
    next target found =>
      have reopenable := start.formatting target (mem_of_formattingNamed? found)
      have forgotten : ∀ h, some h ∈ forget target b.formatting → Reopenable c b.dom h :=
        fun h member => start.formatting h (mem_of_mem_forget member)
      refine .ite (fun _ => ?_) fun _ => .ite (fun _ => ?_) fun _ => ?_
      · exact (runs_setFormatting start forgotten).imp fun _ _ holds => holds.1
      · exact charges_closeOther name b start
      · dsimp only
        split
        next =>
          refine (charges_popThrough _ b start).bind fun _ popped retains affords => ?_
          exact (runs_setFormatting affords fun h member =>
            retains.reopenable h (forgotten h member)).imp fun _ _ holds => holds.1
        next block _ =>
          exact (runs_moveInside block _ start reopenable).bind fun _ after _ affords =>
            ih after affords

end HtmlTemplate.Html
