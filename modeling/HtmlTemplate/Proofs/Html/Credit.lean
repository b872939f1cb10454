import HtmlTemplate.Html.Formatting
import HtmlTemplate.Proofs.Dom.Elements

/-!
Credit: the directives that are still in the queue, less those that the text collected in a table is
going to take. A move of the tree builder is charged for the sentinels that it is given. As long as
the credit covers the charge, no directive is missing, and what is left covers what is to come.

Two things could take more than that. An element that is opened again takes its attributes from the
element it is modelled on, so these must have no sentinels left; that is kept for all formatting
elements, of which no body is one. And where foster parenting is on, an element may be made twice,
so there it must not have sentinels in its attributes; `f` says that foster parenting may be on.
-/

namespace HtmlTemplate.Html

open Dom (Keeps Plain Spends Spent Unflagged sentinelsIn)

/-- A handle that names an element of the store. -/
def Known (s : Dom.Store) (h : Handle) : Prop :=
  ∃ ns attrs, s.content h.id = .element h.name ns attrs

/-- A handle of an element without sentinels in its attributes. -/
def Clean (c : Char) (s : Dom.Store) (h : Handle) : Prop :=
  ∃ ns attrs, s.content h.id = .element h.name ns attrs ∧ Plain c attrs

theorem Clean.known {c : Char} {s : Dom.Store} {h : Handle} (clean : Clean c s h) : Known s h := by
  obtain ⟨ns, attrs, element, -⟩ := clean
  exact ⟨ns, attrs, element⟩

/-- An element that can be opened again. -/
def Reopenable (c : Char) (s : Dom.Store) (h : Handle) : Prop := h.name ≠ "body" ∧ Clean c s h

/-- What holds of the elements of a store still holds in another. -/
structure Retains (c : Char) (s after : Dom.Store) : Prop where
  known : ∀ h, Known s h → Known after h
  reopenable : ∀ h, Reopenable c s h → Reopenable c after h

theorem Retains.refl {c : Char} (s : Dom.Store) : Retains c s s := ⟨fun _ => id, fun _ => id⟩

theorem Retains.trans {c : Char} {s mid after : Dom.Store} (first : Retains c s mid)
    (second : Retains c mid after) : Retains c s after where
  known h known := second.known h (first.known h known)
  reopenable h reopenable := second.reopenable h (first.reopenable h reopenable)

theorem Retains.of_keeps {c : Char} {s after : Dom.Store} (keeps : Keeps s after) :
    Retains c s after where
  known := by
    rintro h ⟨ns, attrs, element⟩
    exact ⟨ns, attrs, keeps _ _ _ _ element⟩
  reopenable := by
    rintro h ⟨other, ns, attrs, element, plain⟩
    exact ⟨other, ns, attrs, keeps _ _ _ _ element, plain⟩

/-- A builder whose credit covers `k` sentinels. The sentinel is none of the characters that rules
write by themselves. -/
structure Affords (c : Char) (f : Prop) (k : Nat) (b : Builder) : Prop where
  covers : k + b.tableText.count c ≤ b.dom.queue.size
  wide : 128 ≤ c.toNat
  single : b.dom.setup.sentinel = [c]
  unflagged : Unflagged c b.dom.setup.booleans
  fostered : b.foster = true → f
  opened : ∀ h ∈ b.opened, Known b.dom h
  head : ∀ h, b.head = some h → Known b.dom h
  formatting : ∀ h, some h ∈ b.formatting → Reopenable c b.dom h

/-- A move that does not fail for want of a directive and retains the elements of the store. -/
def Runs (c : Char) {α : Type} (act : Parse α) (b : Builder) (post : α → Builder → Prop) : Prop :=
  match act b with
  | .ok a after => Retains c b.dom after.dom ∧ post a after
  | .error e _ => ¬ e.IsShort

/-- A move that is charged `k`, and leaves what its result is still to be charged. -/
def Charges (c : Char) (f : Prop) (k : Nat) {α : Type} (act : Parse α) (left : α → Nat) : Prop :=
  ∀ b, Affords c f k b → Runs c act b fun a after => Affords c f (left a) after

section Rules

variable {c : Char} {f : Prop} {k : Nat} {α β : Type}

theorem Affords.mono {b : Builder} {less : Nat} (start : Affords c f k b) (fewer : less ≤ k) :
    Affords c f less b :=
  { start with covers := (Nat.add_le_add_right fewer _).trans start.covers }

theorem Runs.imp {act : Parse α} {b : Builder} {post weaker : α → Builder → Prop}
    (runs : Runs c act b post) (follows : ∀ a after, post a after → weaker a after) :
    Runs c act b weaker := by
  unfold Runs at *
  split
  next a after same =>
    rw [same] at runs
    exact ⟨runs.1, follows a after runs.2⟩
  next e after same =>
    rw [same] at runs
    exact runs

theorem runs_pure {b : Builder} {post : α → Builder → Prop} {a : α} (holds : post a b) :
    Runs c (pure a : Parse α) b post :=
  ⟨.refl _, holds⟩

/-- Moves are made one after the other; what is retained is retained to the end. -/
theorem Runs.bind {act : Parse α} {next : α → Parse β} {b : Builder} {mid : α → Builder → Prop}
    {post : β → Builder → Prop} (first : Runs c act b mid)
    (later : ∀ a after, Retains c b.dom after.dom → mid a after → Runs c (next a) after post) :
    Runs c (act >>= next) b post := by
  unfold Runs at first
  show match EStateM.bind act next b with
    | .ok a after => Retains c b.dom after.dom ∧ post a after
    | .error e _ => ¬ e.IsShort
  unfold EStateM.bind
  split at first
  next a after same =>
    have second := later a after first.1 first.2
    unfold Runs at second
    simp only [same]
    split at second
    next result last run => exact ⟨first.1.trans second.1, second.2⟩
    next e last run => exact second
  next e after same =>
    simp only [same]
    exact first

theorem Runs.map {act : Parse α} {g : α → β} {b : Builder} {post : β → Builder → Prop}
    (runs : Runs c act b fun a after => post (g a) after) : Runs c (g <$> act) b post := by
  unfold Runs at runs
  show match EStateM.map g act b with
    | .ok a after => Retains c b.dom after.dom ∧ post a after
    | .error e _ => ¬ e.IsShort
  unfold EStateM.map
  split at runs
  next a after same =>
    simp only [same]
    exact runs
  next e after same =>
    simp only [same]
    exact runs

theorem Runs.discard {act : Parse α} {b : Builder} {post : Builder → Prop}
    (runs : Runs c act b fun _ after => post after) :
    Runs c (Functor.discard act) b fun _ after => post after :=
  runs.map

theorem Runs.get {next : Builder → Parse α} {b : Builder} {post : α → Builder → Prop}
    (runs : Runs c (next b) b post) : Runs c ((get : Parse Builder) >>= next) b post :=
  runs

theorem Runs.ite {p : Prop} [Decidable p] {yes no : Parse α} {b : Builder}
    {post : α → Builder → Prop} (first : p → Runs c yes b post) (second : ¬ p → Runs c no b post) :
    Runs c (if p then yes else no) b post := by
  split
  next holds => exact first holds
  next fails => exact second fails

/-- What is left after a move pays for the next. -/
theorem Runs.pays {act : Parse α} {next : α → Parse β} {b : Builder} {left : β → Nat}
    (first : Runs c act b fun _ after => Affords c f k after)
    (later : ∀ a, Charges c f k (next a) left) :
    Runs c (act >>= next) b fun a after => Affords c f (left a) after :=
  first.bind fun a after _ affords => later a after affords

namespace Charges

theorem pure {left : α → Nat} {a : α} (fewer : left a ≤ k) :
    Charges c f k (Pure.pure a : Parse α) left :=
  fun _ start => runs_pure (start.mono fewer)

theorem bind {act : Parse α} {next : α → Parse β} {mid : α → Nat} {left : β → Nat}
    (first : Charges c f k act mid) (later : ∀ a, Charges c f (mid a) (next a) left) :
    Charges c f k (act >>= next) left :=
  fun b start => (first b start).bind fun a after _ affords => later a after affords

theorem get {next : Builder → Parse α} {left : α → Nat} (later : ∀ b, Charges c f k (next b) left) :
    Charges c f k ((MonadState.get : Parse Builder) >>= next) left :=
  fun b start => (later b b start).get

theorem ite {p : Prop} [Decidable p] {yes no : Parse α} {left : α → Nat}
    (first : p → Charges c f k yes left) (second : ¬ p → Charges c f k no left) :
    Charges c f k (if p then yes else no) left :=
  fun b start => Runs.ite (fun holds => first holds b start) fun fails => second fails b start

theorem discard {act : Parse α} {mid : α → Nat} {left : Nat} (first : Charges c f k act mid)
    (fewer : ∀ a, left ≤ mid a) : Charges c f k (Functor.discard act) fun _ => left :=
  fun b start => ((first b start).imp fun a _ affords => affords.mono (fewer a)).discard

theorem imp {act : Parse α} {left weaker : α → Nat} (first : Charges c f k act left)
    (fewer : ∀ a, weaker a ≤ left a) : Charges c f k act weaker :=
  fun b start => (first b start).imp fun a _ affords => affords.mono (fewer a)

theorem less {act : Parse α} {left : α → Nat} {more : Nat} (first : Charges c f k act left)
    (fewer : k ≤ more) : Charges c f more act left :=
  fun b start => first b (start.mono fewer)

end Charges

end Rules

/-! Moves on the open elements -/

/-- A builder that has the store of another, and only elements of that other. -/
structure Tame (b after : Builder) : Prop where
  dom : after.dom = b.dom := by rfl
  tableText : after.tableText = b.tableText := by rfl
  foster : after.foster = b.foster := by rfl
  head : after.head = b.head := by rfl
  opened : ∀ h ∈ after.opened, h ∈ b.opened := by exact fun _ => id
  formatting : ∀ h, some h ∈ after.formatting → some h ∈ b.formatting := by exact fun _ => id

section Moves

variable {c : Char} {f : Prop} {k : Nat}

theorem Affords.tame {b after : Builder} (start : Affords c f k b) (tame : Tame b after) :
    Affords c f k after where
  covers := by
    rw [tame.tableText, tame.dom]
    exact start.covers
  wide := start.wide
  single := by
    rw [tame.dom]
    exact start.single
  unflagged := by
    rw [tame.dom]
    exact start.unflagged
  fostered := by
    rw [tame.foster]
    exact start.fostered
  opened h member := by
    rw [tame.dom]
    exact start.opened h (tame.opened h member)
  head := by
    rw [tame.head, tame.dom]
    exact start.head
  formatting h member := by
    rw [tame.dom]
    exact start.formatting h (tame.formatting h member)

theorem runs_set {b after : Builder} {post : PUnit → Builder → Prop} (dom : after.dom = b.dom)
    (holds : post ⟨⟩ after) : Runs c (set after : Parse PUnit) b post := by
  refine ⟨?_, holds⟩
  rw [dom]
  exact .refl _

theorem charges_modify {g : Builder → Builder} (tame : ∀ b, Tame b (g b)) :
    Charges c f k (modify g : Parse PUnit) fun _ => k :=
  fun b start => ⟨by rw [(tame b).dom]; exact .refl _, start.tame (tame b)⟩

theorem charges_setMode (mode : Mode) : Charges c f k (setMode mode) fun _ => k :=
  charges_modify fun _ => {}

theorem charges_setModel (model : ContentModel) : Charges c f k (setModel model) fun _ => k :=
  charges_modify fun _ => {}

theorem charges_setFramesetOk (ok : Bool) : Charges c f k (setFramesetOk ok) fun _ => k :=
  charges_modify fun _ => {}

theorem charges_resetMode : Charges c f k resetMode fun _ => k :=
  charges_modify fun _ => {}

theorem charges_pop : Charges c f k pop fun _ => k :=
  charges_modify fun b => { opened := List.drop_subset 1 b.opened }

theorem charges_popThrough (last : Handle → Bool) : Charges c f k (popThrough last) fun _ => k :=
  charges_modify fun _ =>
    { opened := fun _ member => List.dropWhile_subset _ (List.drop_subset 1 _ member) }

theorem charges_popTo (names : List String) : Charges c f k (popTo names) fun _ => k :=
  charges_modify fun _ => { opened := List.dropWhile_subset _ }

theorem charges_closeImplied (except : Option String) :
    Charges c f k (closeImplied except) fun _ => k :=
  charges_modify fun _ => { opened := List.dropWhile_subset _ }

theorem charges_closeElement (h : Handle) : Charges c f k (closeElement h) fun _ => k :=
  charges_modify fun _ => { opened _ member := List.mem_of_mem_eraseP member }

theorem charges_currentName : Charges c f k currentName fun _ => k :=
  .get fun _ => .pure le_rfl

theorem runs_push {b : Builder} {h : Handle} (start : Affords c f k b) (known : Known b.dom h) :
    Runs c (push h) b fun _ after => Affords c f k after ∧ after.dom = b.dom := by
  refine ⟨.refl _, { start with opened := ?_ }, rfl⟩
  intro other member
  rcases List.mem_cons.mp member with rfl | member
  · exact known
  · exact start.opened other member

theorem runs_setOpened {b : Builder} {opened : List Handle} (start : Affords c f k b)
    (known : ∀ h ∈ opened, Known b.dom h) :
    Runs c (setOpened opened) b fun _ after => Affords c f k after ∧ after.dom = b.dom :=
  ⟨.refl _, { start with opened := known }, rfl⟩

theorem runs_setFormatting {b : Builder} {formatting : List (Option Handle)}
    (start : Affords c f k b) (reopenable : ∀ h, some h ∈ formatting → Reopenable c b.dom h) :
    Runs c (setFormatting formatting) b fun _ after => Affords c f k after ∧ after.dom = b.dom :=
  ⟨.refl _, { start with formatting := reopenable }, rfl⟩

/-! Moves on the tree -/

theorem Affords.spent {b : Builder} {need : Nat} {dom : Dom.Store}
    (start : Affords c f (k + need) b) (spent : Spent need b.dom dom) :
    Affords c f k { b with dom } where
  covers := by
    have covers := start.covers
    have size := spent.size
    show k + b.tableText.count c ≤ dom.queue.size
    omega
  wide := start.wide
  single := spent.setup ▸ start.single
  unflagged := by
    show Unflagged c dom.setup.booleans
    rw [spent.setup]
    exact start.unflagged
  fostered := start.fostered
  opened h member := (Retains.of_keeps (c := c) spent.keeps).known h (start.opened h member)
  head h head := (Retains.of_keeps (c := c) spent.keeps).known h (start.head h head)
  formatting h member := (Retains.of_keeps spent.keeps).reopenable h (start.formatting h member)

/-- Building is charged for the directives that it takes. -/
theorem runs_onDom {α : Type} {act : Dom.Build α} {b : Builder} {need : Nat}
    {post : α → Dom.Store → Prop} (spends : Spends need act b.dom post)
    (start : Affords c f (k + need) b) :
    Runs c (onDom act) b fun a after => Affords c f k after ∧ post a after.dom := by
  have enough : need ≤ b.dom.queue.size := by
    have covers := start.covers
    omega
  have outcome := spends enough
  unfold Runs onDom
  cases run : act b.dom with
  | ok a dom =>
    rw [run] at outcome
    exact ⟨.of_keeps outcome.1.keeps, start.spent outcome.1, outcome.2⟩
  | error e dom =>
    rw [run] at outcome
    exact outcome

theorem charges_onDom {α : Type} {act : Dom.Build α} {post : α → Dom.Store → Prop}
    (spends : ∀ s, Spends 0 act s post) : Charges c f k (onDom act) fun _ => k :=
  fun b start => (runs_onDom (spends b.dom) start).imp fun _ _ holds => holds.1

/-- Building opens and closes nothing. -/
theorem Runs.building {α : Type} {act : Dom.Build α} {b : Builder} {post : α → Builder → Prop}
    (runs : Runs c (onDom act) b post) :
    Runs c (onDom act) b fun a after => after.opened = b.opened ∧ post a after := by
  unfold Runs onDom at *
  cases run : act b.dom with
  | ok a dom =>
    rw [run] at runs
    exact ⟨runs.1, rfl, runs.2⟩
  | error e dom =>
    rw [run] at runs
    exact runs

/-! Insertion -/

/-- A handle of an element that has been made under a name. -/
structure Made (c : Char) (name : String) (s : Dom.Store) (h : Handle) : Prop where
  named : h.name = name
  known : Known s h
  reopenable : name ≠ "body" → Reopenable c s h

theorem Made.retained {name : String} {s after : Dom.Store} {h : Handle} (made : Made c name s h)
    (retains : Retains c s after) : Made c name after h :=
  ⟨made.named, retains.known h made.known, fun other => retains.reopenable h (made.reopenable other)⟩

variable {b : Builder} {name : String} {ns : Option String} {attrs : RawAttrs}

theorem runs_createElement (start : Affords c f (k + sentinelsIn c attrs) b) :
    Runs c (createElement name ns attrs) b fun h after =>
      after.opened = b.opened ∧ Affords c f k after ∧ Made c name after.dom h := by
  have spends := Dom.spends_createElement start.single start.unflagged name ns attrs
  refine (runs_onDom spends start).building.bind fun id after _ holds => ?_
  obtain ⟨opened, affords, adapted, element, plain⟩ := holds
  have clean : Clean c after.dom { id, name, ns } := ⟨ns, adapted, element, plain⟩
  exact runs_pure ⟨opened, affords, rfl, clean.known, fun other => ⟨other, clean⟩⟩

/-- An element is put into the tree and opened. -/
theorem runs_place {h : Handle} {act : Dom.Build Unit}
    (quiet : ∀ s, Spends 0 act s fun _ _ => True) (start : Affords c f k b)
    (made : Made c name b.dom h) :
    Runs c (onDom act >>= fun _ => push h >>= fun _ => pure h) b fun h after =>
      Affords c f k after ∧ Made c name after.dom h := by
  refine (charges_onDom quiet b start).bind fun _ mid retains affords => ?_
  have made := made.retained retains
  refine (runs_push affords made.known).bind fun _ after _ pushed => ?_
  exact runs_pure ⟨pushed.1, pushed.2 ▸ made⟩

theorem runs_insertPlain (start : Affords c f (k + sentinelsIn c attrs) b) :
    Runs c (insertPlain name ns attrs) b fun h after =>
      Affords c f k after ∧ Made c name after.dom h :=
  (runs_createElement start).bind fun _ _ _ holds =>
    .get (runs_place (fun _ => Dom.spends_append _ _) holds.2.1 holds.2.2)

/-- Whether an element that is inserted is made twice, because foster parenting is on and does not
apply. -/
def Builder.makesTwice (b : Builder) : Bool := b.foster && !(tableNames.contains b.current.name)

/-- Where foster parenting may be on, there is nothing to pay for, so it can be paid twice. -/
theorem Affords.once {need : Nat} (start : Affords c f k b) (free : f → need = 0) :
    b.makesTwice = true → need = 0 :=
  fun twice => free (start.fostered (Bool.and_eq_true_iff.mp twice).1)

theorem runs_insertWith (once : b.makesTwice = true → sentinelsIn c attrs = 0)
    (start : Affords c f (k + sentinelsIn c attrs) b) :
    Runs c (insertWith name ns attrs) b fun h after =>
      Affords c f k after ∧ Made c name after.dom h := by
  unfold insertWith
  refine .get ?_
  split
  next fostered =>
    refine (runs_createElement start).bind fun h mid _ holds => ?_
    obtain ⟨opened, affords, made⟩ := holds
    refine .get (.ite (fun inside => ?_) fun outside => ?_)
    · refine .get ?_
      obtain ⟨parent, before⟩ := fosterPlace mid
      cases before with
      | none => exact runs_place (fun _ => Dom.spends_append _ _) affords made
      | some ref => exact runs_place (fun _ => Dom.spends_insertBefore _ _ _) affords made
    · -- The element that was made has not been opened, so it is judged by the same current one.
      have twice : b.makesTwice = true := by
        have same : mid.current = b.current := by rw [Builder.current, opened, Builder.current]
        rw [same] at outside
        rw [Builder.makesTwice, fostered, Bool.eq_false_iff.mpr outside]
        rfl
      exact runs_insertPlain ((once twice).symm ▸ affords)
  next => exact runs_insertPlain start

/-! Tags and text -/

/-- The number of sentinels in the attributes of a tag. -/
def StartTag.cost (c : Char) (tag : StartTag) : Nat := sentinelsIn c (rawAttrs tag.attrs)

theorem runs_insertTag {tag : StartTag} (once : b.makesTwice = true → tag.cost c = 0)
    (start : Affords c f (k + tag.cost c) b) :
    Runs c (insertTag tag) b fun h after => Affords c f k after ∧ Made c tag.name after.dom h :=
  .get (runs_insertWith once start)

theorem charges_insertTag {tag : StartTag} (free : f → tag.cost c = 0) :
    Charges c f (k + tag.cost c) (insertTag tag) fun _ => k :=
  fun _ start => (runs_insertTag (start.once free) start).imp fun _ _ holds => holds.1

theorem charges_insertImplied (name : String) :
    Charges c f k (insertImplied name) fun _ => k := by
  have free : f → StartTag.cost c { name } = 0 := fun _ => rfl
  exact charges_insertTag free

theorem charges_insertText (data : List Char) :
    Charges c f (k + data.count c) (insertText data) fun _ => k := by
  intro b start
  refine .get ?_
  have spends (parent : Dom.NodeId) (ref : Option Dom.NodeId) :=
    Dom.spends_insertText start.single parent data ref
  split
  · obtain ⟨parent, before⟩ := fosterPlace b
    exact (runs_onDom (spends parent before) start).imp fun _ _ holds => holds.1
  · exact (runs_onDom (spends _ none) start).imp fun _ _ holds => holds.1

theorem charges_insertComment (parent : Handle) (data : List Char) :
    Charges c f (k + data.count c) (insertComment parent data) fun _ => k := by
  intro b start
  refine (runs_onDom (Dom.spends_newComment start.single data) start).bind fun _ mid _ holds => ?_
  exact charges_onDom (fun _ => Dom.spends_append _ _) mid holds.1

theorem Affords.fostering (start : Affords c f k b) : Affords c True k { b with foster := true } :=
  { start with fostered := fun _ => trivial }

/-- Foster parenting is off again after a move that is made with it. -/
theorem runs_fostering {α : Type} {act : Parse α} {left : α → Nat}
    (runs : Runs c act { b with foster := true } fun a after => Affords c True (left a) after) :
    Runs c (fostering act) b fun a after => Affords c f (left a) after := by
  have on : Runs c (modify fun b => { b with foster := true } : Parse PUnit) b
      fun _ after => after = { b with foster := true } :=
    ⟨.refl _, rfl⟩
  have off (result : α) {after : Builder} (affords : Affords c True (left result) after) :
      Runs c (do modify fun b => { b with foster := false }; return result : Parse α) after
        fun a last => Affords c f (left a) last :=
    ⟨.refl _, { affords with fostered := fun on => by cases on }⟩
  refine on.bind fun _ mid _ same => ?_
  subst same
  exact runs.bind fun result _ _ affords => off result affords

theorem charges_fostering {α : Type} {act : Parse α} {left : α → Nat}
    (charges : Charges c True k act left) : Charges c f k (fostering act) left :=
  fun _ start => runs_fostering (charges _ start.fostering)

end Moves

end HtmlTemplate.Html
