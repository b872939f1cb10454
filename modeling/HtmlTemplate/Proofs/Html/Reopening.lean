import HtmlTemplate.Html.Formatting
import HtmlTemplate.Proofs.Dom.Elements
import HtmlTemplate.Proofs.Dom.Price

/-!
Attributes that are adapted once more. The parser opens formatting elements again with the
attributes of those that were closed, and these attributes have been adapted before. `Steady` tells
the three kinds of value that adapting leaves as they are: parts, the name of the attribute, and
plain text that is not replaced by the name. All values of adapted attributes are steady and no name
is there twice, so they are adapted to themselves, at no cost. The one thing that could be in the
way is a placeholder in the name of an attribute, because the name may become the value.
-/

namespace HtmlTemplate.Dom

/-- The attributes of an element, as they are handed in to make another one like it. -/
def asRaw (attrs : Attrs) : List (AttrName × AttrValue) :=
  attrs.map fun (name, value) => (.plain name, value)

/-! Steady values -/

/-- A value of an attribute that is not changed by adapting. -/
inductive Steady (setup : Setup) (name : String) : AttrValue → Prop where
  | parts (parts : List Part) : Steady setup name (.parts parts)
  | flag (absent : ¬ Text.occursIn setup.sentinel name.toList = true) :
      Steady setup name (.plain name)
  | plain {text : String} (absent : ¬ Text.occursIn setup.sentinel text.toList = true)
      (kept : ¬ (text.isEmpty && isBoolean setup.booleans name) = true) :
      Steady setup name (.plain text)

section Values

variable {s : Store} {name : String}

theorem Steady.adaptValue {value : AttrValue} (steady : Steady s.setup name value) :
    adaptValue name value s = .ok value s := by
  cases steady with
  | parts parts => rfl
  | flag absent =>
    rw [Dom.adaptValue, get_bind, if_neg absent]
    -- whether or not the name is empty and a flag, the outcome is the name
    split <;> rfl
  | plain absent kept =>
    rw [Dom.adaptValue, get_bind, if_neg absent, if_neg kept]
    rfl

/-- What a value is adapted to is steady, unless it is a name with a placeholder. -/
theorem steady_of_adaptValue {raw value : AttrValue} {after : Store}
    (clear : ¬ Text.occursIn s.setup.sentinel name.toList = true)
    (adapted : adaptValue name raw s = .ok value after) :
    Steady s.setup name value ∧ after.setup = s.setup := by
  cases raw with
  | parts parts =>
    cases adapted
    exact ⟨.parts parts, rfl⟩
  | plain text =>
    rw [adaptValue, get_bind] at adapted
    split at adapted
    next occurs =>
      have paid := expand_pays s text.toList
      cases run : expand text.toList s with
      | error e mid =>
        rw [bind_error run] at adapted
        cases adapted
      | ok parts mid =>
        rw [bind_ok run] at adapted
        rw [run] at paid
        cases adapted
        cases paid
        exact ⟨.parts parts, rfl⟩
    next absent =>
      split at adapted
      next flag =>
        cases adapted
        exact ⟨.flag clear, rfl⟩
      next kept =>
        cases adapted
        exact ⟨.plain absent kept, rfl⟩

end Values

/-! Adapted attributes -/

/-- Attributes that are not changed by adapting: no name twice, and only steady values. -/
structure Adapted (setup : Setup) (attrs : Attrs) : Prop where
  distinct : (attrs.map (·.1)).Nodup
  steady : ∀ attr ∈ attrs, Steady setup attr.1 attr.2

namespace Adapted

variable {setup : Setup} {attrs : Attrs}

theorem nil : Adapted setup [] where
  distinct := List.nodup_nil
  steady := List.forall_mem_nil _

theorem assign (adapted : Adapted setup attrs) {name : String} {value : AttrValue}
    (steady : Steady setup name value) : Adapted setup (assign name value attrs) where
  distinct := nodup_assign adapted.distinct name value
  steady attr member := by
    rcases mem_assign member with rfl | there
    · exact steady
    · exact adapted.steady attr there

end Adapted

section Attributes

variable {s after : Store} {attrs : Attrs}

/-- One attribute after the other is adapted, and what there is stays adapted. -/
theorem adapted_of_go {raw : List (AttrName × AttrValue)} {front : Attrs}
    (before : Adapted s.setup front)
    (clear : ∀ attr ∈ raw, ¬ Text.occursIn s.setup.sentinel attr.1.flatten.toList = true)
    (run : adaptAttributes.go front raw s = .ok attrs after) :
    Adapted s.setup attrs ∧ after.setup = s.setup := by
  induction raw generalizing front s with
  | nil =>
    cases run
    exact ⟨before, rfl⟩
  | cons attr rest ih =>
    obtain ⟨name, value⟩ := attr
    obtain ⟨first, others⟩ := List.forall_mem_cons.mp clear
    rw [adaptAttributes.go] at run
    cases one : adaptValue name.flatten value s with
    | error e mid =>
      rw [bind_error one] at run
      cases run
    | ok value mid =>
      rw [bind_ok one] at run
      obtain ⟨steady, setup⟩ := steady_of_adaptValue first one
      rw [← setup] at before steady others ⊢
      exact ih (before.assign steady) others run

/-- Adapted attributes are adapted to themselves, at no cost. -/
theorem Adapted.adaptAttributes (adapted : Adapted s.setup attrs) :
    adaptAttributes (asRaw attrs) s = .ok attrs s := by
  -- the induction is on what is still to be adapted, behind what has been
  have go (front back : Attrs) (whole : Adapted s.setup (front ++ back)) :
      adaptAttributes.go front (asRaw back) s = .ok (front ++ back) s := by
    induction back generalizing front with
    | nil =>
      rw [List.append_nil]
      rfl
    | cons attr rest ih =>
      obtain ⟨name, value⟩ := attr
      have steady := whole.steady (name, value) (by simp)
      have new : name ∉ front.map (·.1) := by
        intro member
        have distinct := whole.distinct
        rw [List.map_append] at distinct
        exact (List.nodup_append.mp distinct).2.2 _ member _ List.mem_cons_self rfl
      have split : front ++ (name, value) :: rest = front ++ [(name, value)] ++ rest := by simp
      rw [split] at whole ⊢
      show (Dom.adaptValue name value >>= fun value =>
        adaptAttributes.go (HtmlTemplate.assign name value front) (asRaw rest)) s = _
      rw [bind_ok steady.adaptValue, assign_of_notMem value new]
      exact ih _ whole
  exact go [] attrs adapted

theorem Adapted.createElement (adapted : Adapted s.setup attrs) (name : String)
    (ns : Option String) :
    createElement name ns (asRaw attrs) s =
      .ok s.cells.size (s.add (.element name ns attrs)).2 := by
  rw [Dom.createElement, bind_ok adapted.adaptAttributes]
  rfl

theorem attrsOf_element {id : NodeId} {name : String} {ns : Option String}
    (element : s.content id = .element name ns attrs) : s.attrsOf id = attrs := by
  rw [Store.attrsOf, element]

end Attributes

end HtmlTemplate.Dom

namespace HtmlTemplate.Html

open Dom (Adapted asRaw)

/-! Opening elements again -/

/-- How it ends to open an element with given attributes at no cost. It can be refused only where
foster parenting looks for the table that the element goes in front of. -/
inductive Recreates (b : Builder) (name : String) (ns : Option String) (attrs : Dom.Attrs) :
    EStateM.Result Dom.Failure Builder Handle → Prop where
  | opened {new : Handle} {after : Builder} (queue : after.dom.queue = b.dom.queue)
      (element : after.dom.content new.id = .element name ns attrs) :
      Recreates b name ns attrs (.ok new after)
  | refused {e : Dom.Failure} {after : Builder} (fostered : b.foster = true)
      (queue : after.dom.queue = b.dom.queue) : Recreates b name ns attrs (.error e after)

section Moves

variable {b : Builder} {attrs : Dom.Attrs} {name : String} {ns : Option String}

/-- The builder when an element has been made that hangs from nothing yet. -/
def Builder.made (b : Builder) (name : String) (ns : Option String) (attrs : Dom.Attrs) : Builder :=
  { b with dom := (b.dom.add (.element name ns attrs)).2 }

theorem createElement_of_adapted (adapted : Adapted b.dom.setup attrs) :
    createElement name ns (asRaw attrs) b =
      .ok { id := b.dom.cells.size, name, ns } (b.made name ns attrs) := by
  have run : onDom (Dom.createElement name ns (asRaw attrs)) b =
      .ok b.dom.cells.size (b.made name ns attrs) := by
    simp only [onDom, adapted.createElement name ns, Builder.made]
  rw [createElement, bind_ok run]
  rfl

theorem content_made :
    (b.made name ns attrs).dom.content b.dom.cells.size = .element name ns attrs :=
  Dom.Store.content_add_self ..

/-- An element that has been made is put into the tree and opened. -/
theorem recreates_place {h : Handle} {mid : Builder} {act : Dom.Build Unit} {dom : Dom.Store}
    (run : act mid.dom = .ok () dom) (queue : dom.queue = b.dom.queue)
    (element : dom.content h.id = .element name ns attrs) :
    Recreates b name ns attrs
      ((onDom act >>= fun _ => push h >>= fun _ => pure h : Parse Handle) mid) := by
  have placed : onDom act mid = .ok () { mid with dom } := by simp only [onDom, run]
  rw [bind_ok placed]
  show Recreates b name ns attrs (.ok h { mid with dom, opened := h :: mid.opened })
  exact .opened queue element

theorem recreates_append {h : Handle} {mid : Builder} (queue : mid.dom.queue = b.dom.queue)
    (element : mid.dom.content h.id = .element name ns attrs) (parent : Dom.NodeId) :
    Recreates b name ns attrs
      ((onDom (Dom.append parent h.id) >>= fun _ => push h >>= fun _ => pure h : Parse Handle)
        mid) :=
  recreates_place rfl queue (by simpa using element)

/-- An element is put in front of another one if that one is found. -/
theorem recreates_insertBefore {h : Handle} {mid : Builder} (fostered : b.foster = true)
    (queue : mid.dom.queue = b.dom.queue)
    (element : mid.dom.content h.id = .element name ns attrs) (parent ref : Dom.NodeId) :
    Recreates b name ns attrs
      ((onDom (Dom.insertBefore parent h.id ref) >>= fun _ => push h >>= fun _ => pure h :
        Parse Handle) mid) := by
  rcases Dom.insertBefore_cases parent h.id ref mid.dom with
    ⟨front, back, split, -, run⟩ | ⟨e, -, fails⟩
  · obtain ⟨dom, inserted, kept, -, content, -⟩ :=
      Dom.insertAt_cases parent front (ref :: back) [h.id] mid.dom split
    exact recreates_place (run.trans inserted) (kept.trans queue) ((content h.id).trans element)
  · have refused : onDom (Dom.insertBefore parent h.id ref) mid = .error e mid := by
      simp only [onDom, fails]
    rw [bind_error refused]
    exact .refused fostered queue

theorem recreates_insertPlain {mid : Builder} (adapted : Adapted mid.dom.setup attrs)
    (queue : mid.dom.queue = b.dom.queue) :
    Recreates b name ns attrs (insertPlain name ns (asRaw attrs) mid) := by
  rw [insertPlain, bind_ok (createElement_of_adapted adapted), get_bind]
  have made : (mid.made name ns attrs).dom.queue = b.dom.queue := queue
  exact recreates_append made content_made _

/-- With adapted attributes it does not matter that an element may be made twice. -/
theorem recreates_insertWith (adapted : Adapted b.dom.setup attrs) :
    Recreates b name ns attrs (insertWith name ns (asRaw attrs) b) := by
  have queue : (b.made name ns attrs).dom.queue = b.dom.queue := rfl
  have again : Adapted (b.made name ns attrs).dom.setup attrs := adapted
  have element : (b.made name ns attrs).dom.content
      ({ id := b.dom.cells.size, name, ns } : Handle).id = .element name ns attrs := content_made
  rw [insertWith, get_bind]
  split
  next fostered =>
    rw [bind_ok (createElement_of_adapted adapted), currentName, bind_assoc, get_bind, pure_bind]
    split
    next =>
      rw [get_bind]
      obtain ⟨parent, before⟩ := fosterPlace (b.made name ns attrs)
      cases before with
      | none => exact recreates_append queue element parent
      | some ref => exact recreates_insertBefore fostered queue element parent ref
    next => exact recreates_insertPlain again queue
  next => exact recreates_insertPlain adapted rfl

/-- An element that is opened again has the attributes of the one that was closed. -/
theorem recreates_reopen {h : Handle} (adapted : Adapted b.dom.setup (b.dom.attrsOf h.id)) :
    Recreates b h.name h.ns (b.dom.attrsOf h.id) (reopen h b) := by
  rw [reopen, get_bind]
  exact recreates_insertWith adapted

end Moves

open Dom (AttrName AttrValue Attrs Store adaptAttributes)

/-- What attributes are adapted to is adapted to itself, and takes no directive, if no name has the
placeholder in it. So a clone of an element hands on its attributes as they are, and an element that
is made from them, or opened again by the parser, has the same names with the same values in the
same order, while the queue stays as it is. -/
theorem adaptAttributes_idempotent (s after : Store) (raw : List (AttrName × AttrValue))
    (attrs : Attrs) (clear : ∀ attr ∈ raw, ¬ s.setup.sentinel <:+: attr.1.flatten.toList)
    (run : adaptAttributes raw s = .ok attrs after) :
    after.setup = s.setup ∧
    (∀ t : Store, t.setup = s.setup → adaptAttributes (asRaw attrs) t = .ok attrs t) ∧
    (∀ (t : Store) id name ns, t.setup = s.setup → t.content id = .element name ns attrs →
      ∃ clone mid new last, Dom.cloneNode id t = .ok clone mid ∧
        mid.content clone = .element name ns attrs ∧ mid.queue = t.queue ∧
        adaptAttributes (asRaw (mid.attrsOf clone)) mid = .ok attrs mid ∧
        Dom.createElement name ns (asRaw (mid.attrsOf clone)) mid = .ok new last ∧
        last.content new = .element name ns attrs ∧ last.queue = t.queue) ∧
    ∀ (b : Builder) h, b.dom.setup = s.setup → b.dom.attrsOf h.id = attrs →
      Recreates b h.name h.ns attrs (reopen h b) := by
  have absent : ∀ attr ∈ raw, ¬ Text.occursIn s.setup.sentinel attr.1.flatten.toList = true := by
    intro attr member
    rw [Text.occursIn_iff]
    exact clear attr member
  obtain ⟨adapted, setup⟩ := Dom.adapted_of_go .nil absent run
  refine ⟨setup, ?_, ?_, ?_⟩
  · intro t same
    rw [← same] at adapted
    exact adapted.adaptAttributes
  · intro t id name ns same element
    rw [← same] at adapted
    -- the clone is a new node with the content of the other, in a store that is otherwise the same
    let mid := (t.add (.element name ns attrs)).2
    have cloned : Dom.cloneNode id t = .ok t.cells.size mid := by
      rw [Dom.cloneNode_eq, element]
      rfl
    have content : mid.content t.cells.size = .element name ns attrs := Store.content_add_self ..
    have again : Adapted mid.setup attrs := adapted
    refine ⟨_, mid, mid.cells.size, (mid.add (.element name ns attrs)).2, cloned, content, rfl,
      ?_, ?_, Store.content_add_self .., rfl⟩
    · rw [Dom.attrsOf_element content]
      exact again.adaptAttributes
    · rw [Dom.attrsOf_element content]
      exact again.createElement name ns
  · rintro b h same rfl
    rw [← same] at adapted
    exact recreates_reopen adapted

/-- A check box in foreign content, with one directive, marked by two number signs. -/
def checkbox : Store :=
  { setup := { sentinel := ['#', '#'], booleans := ["checked"], ns := none }
    queue := .ofList [.expression (.variable "title")] }

/-- Attributes of all kinds: a flag, a value with a placeholder, and two that have the same name
once it is flattened. -/
def checkboxAttrs : List (AttrName × AttrValue) :=
  [(.plain "Checked", .plain ""), (.qualified (some "xlink") "title" none, .plain ""),
    (.plain "alt", .plain "a##"), (.plain "xlink:title", .plain "b")]

/-- The flag becomes its name, the placeholder becomes the directive, and of the two equal names the
first gives the place and the last the value. When they are adapted again nothing changes, although
no directive is left. -/
theorem adaptAttributes_idempotent_checkbox :
    (∀ attr ∈ checkboxAttrs, ¬ checkbox.setup.sentinel <:+: attr.1.flatten.toList) ∧
      ∃ attrs, adaptAttributes checkboxAttrs checkbox =
          .ok attrs { checkbox with queue := { popped := 1 } } ∧
        attrs = [("Checked", .plain "Checked"), ("xlink:title", .plain "b"),
          ("alt", .parts [.text "a", .tag (.expression (.variable "title"))])] ∧
        adaptAttributes (asRaw attrs) { checkbox with queue := { popped := 1 } } =
          .ok attrs { checkbox with queue := { popped := 1 } } := by
  have clear : ∀ attr ∈ checkboxAttrs, ¬ checkbox.setup.sentinel <:+: attr.1.flatten.toList := by
    decide
  have run : adaptAttributes checkboxAttrs checkbox = .ok [("Checked", .plain "Checked"),
      ("xlink:title", .plain "b"),
      ("alt", .parts [.text "a", .tag (.expression (.variable "title"))])]
      { checkbox with queue := { popped := 1 } } := by
    rfl
  obtain ⟨setup, again, -⟩ := adaptAttributes_idempotent _ _ _ _ clear run
  exact ⟨clear, _, run, rfl, again _ setup⟩

end HtmlTemplate.Html
