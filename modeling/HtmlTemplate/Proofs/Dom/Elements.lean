import HtmlTemplate.Proofs.Dom.Conservation

/-!
What building costs, and what it leaves alone. An operation takes one directive for each sentinel
that it is given, so it misses none as long as there are enough of them; and it keeps the elements
that are there, with their attributes. A new element has no sentinels left in its attributes, so
that nothing is taken when an element is made once more after its model.
-/

namespace HtmlTemplate.Dom

/-- A directive is missing. -/
def Failure.IsShort (failure : Failure) : Prop :=
  ∃ number, failure = .placeholder (.underflow number)

theorem Failure.IsNotAChild.not_isShort {failure : Failure} (other : failure.IsNotAChild) :
    ¬ failure.IsShort := by
  rintro ⟨number, rfl⟩
  obtain ⟨child, parent, same⟩ := other
  cases same

/-- The elements of a store are elements of another, with the same attributes. -/
def Keeps (s after : Store) : Prop :=
  ∀ id name ns attrs, s.content id = .element name ns attrs →
    after.content id = .element name ns attrs

theorem Keeps.refl (s : Store) : Keeps s s := fun _ _ _ _ same => same

theorem Keeps.trans {s mid after : Store} (first : Keeps s mid) (second : Keeps mid after) :
    Keeps s after :=
  fun id name ns attrs same => second id name ns attrs (first id name ns attrs same)

theorem keeps_of_content {s after : Store} (same : ∀ id, after.content id = s.content id) :
    Keeps s after :=
  fun id _ _ _ element => (same id).trans element

theorem keeps_of_lt {s after : Store}
    (same : ∀ id < s.cells.size, after.content id = s.content id) : Keeps s after :=
  fun id _ _ _ element =>
    (same id (Store.lt_size_of_content (by simp [element]))).trans element

theorem keeps_add (s : Store) (content : Content) : Keeps s (s.add content).2 :=
  keeps_of_lt fun _ inside => Store.content_add_of_lt inside content

/-- A part goes on in a text, or becomes a leaf; neither is an element. -/
theorem keeps_appendPart (parent : NodeId) (part : Part) (s : Store) :
    ∃ after, appendPart parent part s = .ok () after ∧ Keeps s after := by
  rcases appendPart_cases parent part s with ⟨value, id, before, -, -, leaf, step⟩ | ⟨-, step⟩
  · refine ⟨_, step, fun other name ns attrs element => ?_⟩
    have apart : id ≠ other := by
      rintro rfl
      rw [leaf] at element
      cases element
    rw [Store.content_setContent_of_ne apart, element]
  · exact ⟨_, step, keeps_of_lt fun _ inside => Store.content_hang_of_lt inside part⟩

theorem keeps_forM_appendPart (parts : List Part) (parent : NodeId) (s : Store) :
    ∃ after, parts.forM (appendPart parent) s = .ok () after ∧ Keeps s after := by
  apply forM_appendPart_keeps _ (Keeps.refl s)
  intro part _ mid first
  obtain ⟨after, step, second⟩ := keeps_appendPart parent part mid
  exact ⟨after, step, first.trans second⟩

/-! Costs -/

/-- What is left of a store when a number of directives has been taken. -/
structure Spent (need : Nat) (s after : Store) : Prop where
  size : after.queue.size + need = s.queue.size
  setup : after.setup = s.setup
  keeps : Keeps s after

/-- Building that is given enough directives takes them, and if it fails, it is not for want of
one. -/
def Spends {α : Type} (need : Nat) (act : Build α) (s : Store) (post : α → Store → Prop) : Prop :=
  need ≤ s.queue.size →
    match act s with
    | .ok a after => Spent need s after ∧ post a after
    | .error e _ => ¬ e.IsShort

section Spends

variable {α : Type} {need : Nat} {act : Build α} {s : Store} {post : α → Store → Prop}

theorem Draws.spends {drawn : List Tag → α → Store → Prop}
    (draws : Draws need s Failure.IsNotAChild drawn (act s))
    (follows : ∀ taken a after, drawn taken a after → Keeps s after ∧ post a after) :
    Spends need act s post := by
  intro enough
  generalize act s = outcome at draws
  cases draws with
  | done took all holds =>
    obtain ⟨keeps, holds⟩ := follows _ _ _ holds
    exact ⟨⟨by rw [← all, took.pops.size], took.setup, keeps⟩, holds⟩
  | refused took all cause => exact cause.not_isShort
  | short took empty few =>
    -- all directives have been taken, and they were enough
    have size := took.pops.size
    rw [Queue.size, empty] at size
    simp only [List.length_nil, Nat.zero_add] at size
    omega

theorem spends_quiet {a : α} {after : Store} (run : act s = .ok a after)
    (queue : after.queue = s.queue) (setup : after.setup = s.setup) (keeps : Keeps s after)
    (holds : post a after) : Spends 0 act s post := by
  intro _
  rw [run]
  exact ⟨⟨by rw [queue, Nat.add_zero], setup, keeps⟩, holds⟩

theorem spends_append (parent child : NodeId) :
    Spends 0 (append parent child) s fun _ _ => True :=
  spends_quiet rfl rfl rfl (keeps_of_content fun id => by simp) trivial

theorem spends_newNode (content : Content) :
    Spends 0 (newNode content) s fun id after => after.content id = content :=
  spends_quiet rfl rfl rfl (keeps_add s content) (Store.content_add_self s content)

theorem spends_cloneNode {id : NodeId} {name : String} {ns : Option String} {attrs : Attrs}
    (element : s.content id = .element name ns attrs) :
    Spends 0 (cloneNode id) s fun new after => after.content new = .element name ns attrs := by
  rw [Spends, cloneNode_eq, element]
  exact spends_newNode _

theorem spends_insertBefore (parent child ref : NodeId) :
    Spends 0 (insertBefore parent child ref) s fun _ _ => True := by
  rcases insertBefore_cases parent child ref s with ⟨front, back, split, -, run⟩ | ⟨e, cause, fails⟩
  · obtain ⟨after, inserted, queue, setup, content, -⟩ :=
      insertAt_cases parent front (ref :: back) [child] s split
    exact spends_quiet (run.trans inserted) queue setup (keeps_of_content content) trivial
  · intro _
    rw [fails]
    exact cause.not_isShort

theorem spends_remove (parent child : NodeId) :
    Spends 0 (remove parent child) s fun _ _ => True := by
  rcases remove_cases parent child s with ⟨front, back, -, -, run⟩ | ⟨e, cause, fails⟩
  · exact spends_quiet run rfl rfl (keeps_of_content fun id => by simp) trivial
  · intro _
    rw [fails]
    exact cause.not_isShort

theorem spends_reparentChildren (source target : NodeId) :
    Spends 0 (reparentChildren source target) s fun _ _ => True := by
  obtain ⟨mid, run, queue, setup, -, content, -⟩ := forM_append (s.children source) target s
  refine spends_quiet (reparentChildren_eq run) queue setup (keeps_of_content fun id => ?_) trivial
  rw [Store.content_setChildren, content]

variable {c : Char}

theorem spends_insertText (single : s.setup.sentinel = [c]) (parent : NodeId) (data : List Char)
    (ref : Option NodeId) :
    Spends (data.count c) (insertText parent data ref) s fun _ _ => True := by
  have draws : Draws (data.count c) s Failure.IsNotAChild (fun _ _ after => Keeps s after)
      (insertText parent data ref s) := by
    refine Draws.bind (n := 0) (expand_draws single data) ?_
    rintro taken parts _ ⟨⟨queue, rfl⟩, -⟩
    cases ref with
    | none =>
      obtain ⟨after, run, left, setup, -⟩ := forM_appendPart parts parent { s with queue }
      obtain ⟨_, again, keeps⟩ := keeps_forM_appendPart parts parent { s with queue }
      rw [run] at again
      cases again
      show Draws 0 _ _ _ (parts.forM (appendPart parent) { s with queue })
      rw [run]
      exact .quiet left setup keeps
    | some ref =>
      exact (insertParts_draws parts parent ref { s with queue }).imp
        fun _ _ _ _ placed => keeps_of_lt placed.1
  exact draws.spends fun _ _ _ keeps => ⟨keeps, trivial⟩

theorem spends_newComment (single : s.setup.sentinel = [c]) (data : List Char) :
    Spends (data.count c) (newComment data) s fun _ _ => True := by
  have dropped : Draws (data.count c) s (fun _ => False) (fun _ _ after => SameButQueue s after)
      (discard (expand data) s) :=
    Draws.map ((expand_draws single data).imp fun _ _ _ _ holds => holds.1)
  have draws : Draws (data.count c) s Failure.IsNotAChild (fun _ _ after => Keeps s after)
      (newComment data s) := by
    refine Draws.bind (n := 0) dropped ?_
    rintro taken _ _ ⟨queue, rfl⟩
    exact .quiet rfl rfl (keeps_add _ _)
  exact draws.spends fun _ _ _ keeps => ⟨keeps, trivial⟩

/-! Attributes -/

/-- Attributes without sentinels. -/
def Plain (c : Char) (attrs : Attrs) : Prop := ∀ attr ∈ attrs, sentinelsOf c attr.2 = 0

theorem Plain.assign {attrs : Attrs} (plain : Plain c attrs) (name : String) {value : AttrValue}
    (none : sentinelsOf c value = 0) : Plain c (HtmlTemplate.assign name value attrs) := by
  intro attr member
  rcases mem_assign member with rfl | there
  · exact none
  · exact plain attr there

/-- No boolean attribute has the sentinel in its name, so no value becomes one. -/
def Unflagged (c : Char) (booleans : List String) : Prop :=
  ∀ name, isBoolean booleans name = true → c ∉ name.toList

theorem Adapts.none {booleans : List String} {name : String} {raw value : AttrValue}
    {taken : List Tag} (adapts : Adapts c booleans name raw taken value)
    (unflagged : Unflagged c booleans) : sentinelsOf c value = 0 := by
  cases adapts with
  | parts parts => rfl
  | filled sentinel shown => rfl
  | flag boolean => exact List.count_eq_zero.mpr (unflagged name boolean)
  | plain absent kept => exact List.count_eq_zero.mpr absent

theorem plain_adaptAttributes_go (single : s.setup.sentinel = [c])
    (unflagged : Unflagged c s.setup.booleans) {adapted : Attrs} (plain : Plain c adapted)
    (attrs : List (AttrName × AttrValue)) :
    Draws (sentinelsIn c attrs) s (fun _ => False)
      (fun _ result after => SameButQueue s after ∧ Plain c result)
      (adaptAttributes.go adapted attrs s) := by
  induction attrs generalizing adapted s with
  | nil => exact .quiet rfl rfl ⟨⟨_, rfl⟩, plain⟩
  | cons attr rest ih =>
    obtain ⟨name, raw⟩ := attr
    refine Draws.bind (adaptValue_draws single name.flatten raw) ?_
    rintro taken value _ ⟨⟨queue, rfl⟩, adapts⟩
    refine (ih (s := { s with queue }) single unflagged
      (plain.assign name.flatten (adapts.none unflagged))).imp ?_
    rintro more result last - ⟨⟨rest, same⟩, plain⟩
    exact ⟨⟨rest, same⟩, plain⟩

/-- A new element has the attributes that it is given, and no sentinels in them. -/
theorem spends_createElement (single : s.setup.sentinel = [c])
    (unflagged : Unflagged c s.setup.booleans) (name : String) (ns : Option String)
    (attrs : List (AttrName × AttrValue)) :
    Spends (sentinelsIn c attrs) (createElement name ns attrs) s fun id after =>
      ∃ adapted, after.content id = .element name ns adapted ∧ Plain c adapted := by
  have draws : Draws (sentinelsIn c attrs) s Failure.IsNotAChild
      (fun _ id after => Keeps s after ∧
        ∃ adapted, after.content id = .element name ns adapted ∧ Plain c adapted)
      (createElement name ns attrs s) := by
    refine Draws.bind (n := 0)
      (plain_adaptAttributes_go single unflagged (List.forall_mem_nil _) attrs) ?_
    rintro taken adapted _ ⟨⟨queue, rfl⟩, plain⟩
    exact .quiet rfl rfl ⟨keeps_add _ _, adapted, Store.content_add_self .., plain⟩
  exact draws.spends fun _ _ _ holds => holds

end Spends

end HtmlTemplate.Dom
