import HtmlTemplate.Markup
import HtmlTemplate.Proofs.Text.Scan
import HtmlTemplate.Text.Blank
import Mathlib.Data.List.Basic

/-!
Markup is read back. A plain reader takes a start tag, an end tag, a reference or a character off
the front of a text, and so gives the events that the text is made of. What is rendered for a value
is read as the events of the value, whatever its texts and the values of its properties look like:
they are escaped, so no tag can start or end in them. Only names are written as they are.
-/

namespace HtmlTemplate.Markup

/-- What a reader of markup meets. -/
inductive Event where
  | start (tag : String) (attrs : List (String × String))
  | stop (tag : String)
  | text (value : String)
  deriving DecidableEq, Repr

/-- Puts a text in front of events. It joins a text that stands first, and leaves no trace if it is
empty. -/
def prependText (s : String) : List Event → List Event
  | .text t :: rest => .text (s ++ t) :: rest
  | rest => if s = "" then rest else .text s :: rest

def push : Event → List Event → List Event
  | .text s, events => prependText s events
  | event, events => event :: events

/-- Events with adjacent texts joined and empty ones left out. -/
def joinTexts (events : List Event) : List Event := events.foldr push []

/-! Reading -/

/-- What a name is made of: neither blanks nor the characters that markup is written with. -/
def isNameChar (c : Char) : Bool :=
  !(Text.isBlank c || ['"', '\'', '<', '>', '=', '/', '&'].contains c)

def isName (s : String) : Bool := !s.isEmpty && s.toList.all isNameChar

def references : List (List Char × Char) :=
  [("&amp;".toList, '&'), ("&lt;".toList, '<'), ("&gt;".toList, '>'), ("&quot;".toList, '"'),
    ("&#x27;".toList, '\'')]

/-- The character that a reference at the front of a text stands for, and what follows it. -/
def readReference? (s : List Char) : Option (Char × List Char) :=
  (references.find? fun reference => reference.1.isPrefixOf s).map fun reference =>
    (reference.2, s.drop reference.1.length)

/-- A text with its references replaced. `skip` is the number of characters still to pass of the
reference that was met last. -/
def decodeFrom : (skip : Nat) → List Char → List Char
  | _, [] => []
  | skip + 1, _ :: rest => decodeFrom skip rest
  | 0, c :: rest =>
    match readReference? (c :: rest) with
    | some (d, left) => d :: decodeFrom (rest.length - left.length) rest
    | none => c :: decodeFrom 0 rest

/-- Reads an attribute with the space in front of it. -/
def readAttr? : List Char → Option ((String × String) × List Char)
  | ' ' :: s =>
    let name := String.ofList (s.takeWhile isNameChar)
    match s.dropWhile isNameChar with
    | '=' :: '"' :: s =>
      match s.dropWhile (· != '"') with
      | '"' :: rest =>
        if isName name then
          some ((name, String.ofList (decodeFrom 0 (s.takeWhile (· != '"')))), rest)
        else none
      | _ => none
    | _ => none
  | _ => none

def readAttrs : (fuel : Nat) → List Char → List (String × String) × List Char
  | 0, s => ([], s)
  | fuel + 1, s =>
    match readAttr? s with
    | some (attr, rest) =>
      let (attrs, rest) := readAttrs fuel rest
      (attr :: attrs, rest)
    | none => ([], s)

/-- Reads a start tag or an end tag at the front of a text. -/
def readTag? : List Char → Option (Event × List Char)
  | '<' :: '/' :: s =>
    let name := String.ofList (s.takeWhile isNameChar)
    match s.dropWhile isNameChar with
    | '>' :: rest => if isName name then some (.stop name, rest) else none
    | _ => none
  | '<' :: s =>
    let name := String.ofList (s.takeWhile isNameChar)
    match readAttrs s.length (s.dropWhile isNameChar) with
    | (attrs, '>' :: rest) => if isName name then some (.start name attrs, rest) else none
    | _ => none
  | _ => none

/-- The events of a text; what is no tag is text. `skip` is the number of characters still to pass
of the tag or reference that was met last. -/
def readFrom : (skip : Nat) → List Char → List Event
  | _, [] => []
  | skip + 1, _ :: rest => readFrom skip rest
  | 0, c :: rest =>
    match readTag? (c :: rest) with
    | some (event, left) => event :: readFrom (rest.length - left.length) rest
    | none =>
      match readReference? (c :: rest) with
      | some (d, left) => prependText d.toString (readFrom (rest.length - left.length) rest)
      | none => prependText c.toString (readFrom 0 rest)

def read (markup : String) : List Event := readFrom 0 markup.toList

/-! The events of a value -/

/-- The attribute that a property is shown as: none for the key and for a property without a value;
a boolean attribute is shown without a value, if it is true. -/
def shownProp (prop : String × Value) : Option (String × String) :=
  if prop.1 = "key" then none
  else
    match prop.2 with
    | .none => none
    | value =>
      if booleanAttributes.contains (Text.lower (attributeName prop.1)) then
        if value.truth then some (attributeName prop.1, "") else none
      else some (attributeName prop.1, value.text)

mutual

def events : Value → List Event
  | .none => []
  | .bool _ => []
  | .list items => eventsAll items
  | .tuple items => eventsAll items
  | .vnode tag props children =>
    .start tag (props.filterMap shownProp) ::
      if voidElements.contains tag then [] else events children ++ [.stop tag]
  | value => [.text value.text]
termination_by structural value => value

def eventsAll : List Value → List Event
  | [] => []
  | item :: rest => events item ++ eventsAll rest
termination_by structural items => items

end

mutual

/-- Whether the elements that a value shows have names for tags and properties. -/
def wellNamed : Value → Bool
  | .list items => allWellNamed items
  | .tuple items => allWellNamed items
  | .vnode tag props children =>
    isName tag && props.all (fun prop => isName prop.1) && wellNamed children
  | _ => true
termination_by structural value => value

def allWellNamed : List Value → Bool
  | [] => true
  | item :: rest => wellNamed item && allWellNamed rest
termination_by structural items => items

end

/-! Joining -/

theorem prependText_empty (events : List Event) : prependText "" events = events := by
  match events with
  | .text t :: rest => simp [prependText]
  | .start .. :: rest => rfl
  | .stop _ :: rest => rfl
  | [] => rfl

theorem prependText_prependText (s t : String) (events : List Event) :
    prependText s (prependText t events) = prependText (s ++ t) events := by
  by_cases empty : t = ""
  · rw [empty, prependText_empty, String.append_empty]
  · match events with
    | .text u :: rest => simp [prependText, String.append_assoc]
    | .start .. :: rest => simp [prependText, empty]
    | .stop _ :: rest => simp [prependText, empty]
    | [] => simp [prependText, empty]

/-! References -/

theorem readReference?_of_mem {reference : List Char × Char} (member : reference ∈ references)
    (rest : List Char) : readReference? (reference.1 ++ rest) = some (reference.2, rest) := by
  simp only [references, List.mem_cons, List.not_mem_nil, or_false] at member
  rcases member with rfl | rfl | rfl | rfl | rfl <;> rfl

theorem head?_reference : ∀ reference ∈ references, reference.1.head? = some '&' := by
  decide

theorem readReference?_of_ne {c : Char} (other : c ≠ '&') (rest : List Char) :
    readReference? (c :: rest) = none := by
  have apart : ∀ reference ∈ references, ¬ reference.1 <+: c :: rest := by
    rintro reference member ⟨tail, whole⟩
    have first : (reference.1 ++ tail).head? = some c := by rw [whole]; rfl
    rw [List.head?_append, head?_reference reference member] at first
    exact other (Option.some.inj first).symm
  rw [readReference?, List.find?_eq_none.mpr (by simpa using apart), Option.map_none]

theorem decodeFrom_skip (passed rest : List Char) :
    decodeFrom passed.length (passed ++ rest) = decodeFrom 0 rest := by
  induction passed with
  | nil => rfl
  | cons c passed ih => simpa [decodeFrom] using ih

theorem decodeFrom_reference {reference : List Char × Char} (member : reference ∈ references)
    (rest : List Char) :
    decodeFrom 0 (reference.1 ++ rest) = reference.2 :: decodeFrom 0 rest := by
  have found := readReference?_of_mem member rest
  obtain ⟨written, c⟩ := reference
  cases written with
  | nil => simp [references] at member
  | cons first written =>
    rw [List.cons_append] at found ⊢
    simp only [decodeFrom, found, List.length_append, Nat.add_sub_cancel, decodeFrom_skip]

theorem decodeFrom_escapeAttr (c : Char) (rest : List Char) :
    decodeFrom 0 (escapeAttr c ++ rest) = c :: decodeFrom 0 rest := by
  unfold escapeAttr escapeText
  split
  next same => subst same; exact decodeFrom_reference (by decide : (_, '"') ∈ references) rest
  split
  next same => subst same; exact decodeFrom_reference (by decide : (_, '\'') ∈ references) rest
  split
  next same => subst same; exact decodeFrom_reference (by decide : (_, '&') ∈ references) rest
  next ampersand =>
    split
    next same => subst same; exact decodeFrom_reference (by decide : (_, '<') ∈ references) rest
    split
    next same => subst same; exact decodeFrom_reference (by decide : (_, '>') ∈ references) rest
    simp only [List.singleton_append, decodeFrom, readReference?_of_ne ampersand]

/-- The value of an attribute is decoded to what was escaped. -/
theorem decodeFrom_escape (s : List Char) : decodeFrom 0 (s.flatMap escapeAttr) = s := by
  induction s with
  | nil => rfl
  | cons c s ih => rw [List.flatMap_cons, decodeFrom_escapeAttr, ih]

theorem quote_notMem_escapeAttr (c : Char) : '"' ∉ escapeAttr c := by
  unfold escapeAttr escapeText
  split
  next => decide
  next other =>
    split
    next => decide
    split
    next => decide
    split
    next => decide
    split
    next => decide
    simpa using Ne.symm other

/-! Tags -/

/-- A name is read up to a character that cannot stand in it. -/
theorem name_run {name : String} (named : isName name = true) (rest : List Char)
    (stops : ∀ c ∈ rest.head?, isNameChar c = false) :
    (name.toList ++ rest).takeWhile isNameChar = name.toList ∧
      (name.toList ++ rest).dropWhile isNameChar = rest := by
  have inside : ∀ c ∈ name.toList, isNameChar c = true := by
    rw [isName, Bool.and_eq_true_iff] at named
    exact List.all_eq_true.mp named.2
  exact ⟨Text.takeWhile_run inside stops, Text.dropWhile_run inside stops⟩

/-- An attribute as it is written, with the space in front of it. -/
def attrText (attr : String × String) : List Char :=
  ' ' :: (attr.1.toList ++ '=' :: '"' :: (attr.2.toList.flatMap escapeAttr ++ ['"']))

theorem readAttr?_attrText {attr : String × String} (named : isName attr.1 = true)
    (rest : List Char) : readAttr? (attrText attr ++ rest) = some (attr, rest) := by
  obtain ⟨name, value⟩ := attr
  obtain ⟨taken, left⟩ := name_run named
    ('=' :: '"' :: (value.toList.flatMap escapeAttr ++ '"' :: rest)) (by simp; decide)
  have inside : ∀ c ∈ value.toList.flatMap escapeAttr, (c != '"') = true := by
    intro c member
    obtain ⟨d, -, written⟩ := List.mem_flatMap.mp member
    rw [bne_iff_ne]
    rintro rfl
    exact quote_notMem_escapeAttr d written
  have stops : ∀ c ∈ ('"' :: rest).head?, (c != '"') = false := by simp
  have text : attrText (name, value) ++ rest =
      ' ' :: (name.toList ++ '=' :: '"' :: (value.toList.flatMap escapeAttr ++ '"' :: rest)) := by
    simp [attrText]
  rw [text]
  simp only [readAttr?, taken, left, Text.takeWhile_run inside stops,
    Text.dropWhile_run inside stops, String.ofList_toList, named, if_true, decodeFrom_escape]

theorem readAttr?_end (rest : List Char) : readAttr? ('>' :: rest) = none := rfl

theorem readAttrs_attrText {attrs : List (String × String)}
    (named : ∀ attr ∈ attrs, isName attr.1 = true) {fuel : Nat} (enough : attrs.length < fuel)
    (rest : List Char) :
    readAttrs fuel (attrs.flatMap attrText ++ '>' :: rest) = (attrs, '>' :: rest) := by
  induction attrs generalizing fuel with
  | nil =>
    obtain ⟨fuel, rfl⟩ := Nat.exists_eq_add_of_lt enough
    simp [readAttrs, readAttr?_end]
  | cons attr attrs ih =>
    obtain ⟨first, later⟩ := List.forall_mem_cons.mp named
    match fuel with
    | fuel + 1 =>
      rw [List.flatMap_cons, List.append_assoc, readAttrs, readAttr?_attrText first]
      simp only [ih later (Nat.lt_of_succ_lt_succ enough)]

theorem length_le_attrText (attrs : List (String × String)) :
    attrs.length ≤ (attrs.flatMap attrText).length := by
  induction attrs with
  | nil => exact le_rfl
  | cons attr attrs ih =>
    simp only [List.flatMap_cons, List.length_cons, List.length_append, attrText]
    omega

theorem exists_cons_of_isName {name : String} (named : isName name = true) :
    ∃ c rest, name.toList = c :: rest ∧ isNameChar c = true := by
  rw [isName, Bool.and_eq_true_iff, List.all_eq_true] at named
  cases letters : name.toList with
  | nil => simp_all
  | cons c rest => exact ⟨c, rest, rfl, named.2 c (by simp [letters])⟩

theorem readTag?_start {tag : String} (named : isName tag = true)
    {attrs : List (String × String)} (attrsNamed : ∀ attr ∈ attrs, isName attr.1 = true)
    (rest : List Char) :
    readTag? ('<' :: (tag.toList ++ (attrs.flatMap attrText ++ '>' :: rest))) =
      some (.start tag attrs, rest) := by
  have stops : ∀ c ∈ (attrs.flatMap attrText ++ '>' :: rest).head?, isNameChar c = false := by
    cases attrs with
    | nil => simp; decide
    | cons attr attrs => simp [attrText]; decide
  obtain ⟨taken, left⟩ := name_run named (attrs.flatMap attrText ++ '>' :: rest) stops
  have enough : attrs.length < (tag.toList ++ (attrs.flatMap attrText ++ '>' :: rest)).length := by
    have atLeast := length_le_attrText attrs
    simp only [List.length_append, List.length_cons]
    omega
  have attributes := readAttrs_attrText attrsNamed enough rest
  -- A name does not start with a slash, so this is no end tag.
  obtain ⟨c, letters, split, first⟩ := exists_cons_of_isName named
  have noSlash : c ≠ '/' := by
    rintro rfl
    exact absurd first (by decide)
  rw [readTag?]
  · simp only [taken, left, attributes, String.ofList_toList, named, if_true]
  · intro s same
    rw [split] at same
    exact noSlash (List.cons.inj same).1

theorem readTag?_stop {tag : String} (named : isName tag = true) (rest : List Char) :
    readTag? ('<' :: '/' :: (tag.toList ++ '>' :: rest)) = some (.stop tag, rest) := by
  obtain ⟨taken, left⟩ := name_run named ('>' :: rest) (by simp; decide)
  simp only [readTag?, taken, left, String.ofList_toList, named, if_true]

theorem readFrom_skip (passed rest : List Char) :
    readFrom passed.length (passed ++ rest) = readFrom 0 rest := by
  induction passed with
  | nil => rfl
  | cons c passed ih => simpa [readFrom] using ih

/-- A tag at the front of a text is one event, and reading goes on behind it. -/
theorem readFrom_tag {c : Char} {written rest : List Char} {event : Event}
    (found : readTag? (c :: (written ++ rest)) = some (event, rest)) :
    readFrom 0 (c :: (written ++ rest)) = event :: readFrom 0 rest := by
  simp only [readFrom, found, List.length_append, Nat.add_sub_cancel, readFrom_skip]

theorem readTag?_of_ne {c : Char} (other : c ≠ '<') (rest : List Char) :
    readTag? (c :: rest) = none := by
  rw [readTag?] <;> simp [other]

theorem readFrom_reference {reference : List Char × Char} (member : reference ∈ references)
    (rest : List Char) :
    readFrom 0 (reference.1 ++ rest) = prependText reference.2.toString (readFrom 0 rest) := by
  have found := readReference?_of_mem member rest
  have first := head?_reference reference member
  obtain ⟨written, c⟩ := reference
  obtain ⟨written, rfl⟩ : ∃ tail, written = '&' :: tail := List.head?_eq_some_iff.mp first
  rw [List.cons_append] at found ⊢
  simp only [readFrom, readTag?_of_ne (by decide : '&' ≠ '<'), found, List.length_append,
    Nat.add_sub_cancel, readFrom_skip]

theorem readFrom_escapeText (c : Char) (rest : List Char) :
    readFrom 0 (escapeText c ++ rest) = prependText c.toString (readFrom 0 rest) := by
  unfold escapeText
  split
  next same => subst same; exact readFrom_reference (by decide : (_, '&') ∈ references) rest
  next ampersand =>
    split
    next same => subst same; exact readFrom_reference (by decide : (_, '<') ∈ references) rest
    next bracket =>
      split
      next same => subst same; exact readFrom_reference (by decide : (_, '>') ∈ references) rest
      simp only [List.singleton_append, readFrom, readTag?_of_ne bracket,
        readReference?_of_ne ampersand]

/-- An escaped text is read as one text, whatever it looks like. -/
theorem readFrom_escape (s : List Char) (rest : List Char) :
    readFrom 0 (s.flatMap escapeText ++ rest) =
      prependText (String.ofList s) (readFrom 0 rest) := by
  induction s with
  | nil => exact (prependText_empty _).symm
  | cons c s ih =>
    rw [List.flatMap_cons, List.append_assoc, readFrom_escapeText, ih, prependText_prependText,
      String.ofList_cons]
    rfl

/-! Values -/

theorem isName_attributeName {name : String} (named : isName name = true) :
    isName (attributeName name) = true := by
  unfold attributeName
  split
  · decide
  split
  · decide
  · exact named

theorem toList_attribute (name value : String) :
    (" " ++ name ++ "=\"" ++ escape escapeAttr value ++ "\"").toList = attrText (name, value) := by
  simp [attrText, escape]

/-- A property is written as the attribute that it is shown as. -/
theorem toList_renderProp (prop : String × Value) :
    (renderProp prop.1 prop.2).toList = (shownProp prop).toList.flatMap attrText := by
  obtain ⟨name, value⟩ := prop
  by_cases key : name = "key"
  · simp [renderProp, shownProp, key]
  by_cases missing : value = .none
  · simp [renderProp, shownProp, missing]
  have rendered : renderProp name value =
      if booleanAttributes.contains (Text.lower (attributeName name)) then
        if value.truth then " " ++ attributeName name ++ "=\"\"" else ""
      else " " ++ attributeName name ++ "=\"" ++ escape escapeAttr value.text ++ "\"" := by
    unfold renderProp
    rw [if_neg key]
    split
    next => exact absurd rfl missing
    next => rfl
  have shown : shownProp (name, value) =
      if booleanAttributes.contains (Text.lower (attributeName name)) then
        if value.truth then some (attributeName name, "") else none
      else some (attributeName name, value.text) := by
    unfold shownProp
    rw [if_neg key]
    split
    next none => exact absurd none missing
    next => rfl
  rw [rendered, shown]
  split
  · split
    · simp [attrText]
    · rfl
  · simp only [toList_attribute, Option.toList_some, List.flatMap_singleton]

theorem toList_renderProps (props : List (String × Value)) :
    (renderProps props).toList = (props.filterMap shownProp).flatMap attrText := by
  have joined : (renderProps props).toList =
      props.flatMap fun prop => (shownProp prop).toList.flatMap attrText := by
    simp only [renderProps, String.toList_join, List.flatMap_map]
    exact List.flatMap_congr fun prop _ => toList_renderProp prop
  rw [joined, List.filterMap_eq_flatMap_toList, List.flatMap_assoc]

theorem isName_of_shown {props : List (String × Value)}
    (named : ∀ prop ∈ props, isName prop.1 = true) :
    ∀ attr ∈ props.filterMap shownProp, isName attr.1 = true := by
  intro attr member
  obtain ⟨prop, known, shown⟩ := List.mem_filterMap.mp member
  have name : attr.1 = attributeName prop.1 := by
    unfold shownProp at shown
    split at shown
    · cases shown
    split at shown
    · cases shown
    split at shown
    · split at shown
      · cases shown; rfl
      · cases shown
    · cases shown; rfl
  rw [name]
  exact isName_attributeName (named prop known)

theorem readFrom_scalar (value : Value) (rest : List Char) :
    readFrom 0 ((escape escapeText value.text).toList ++ rest) =
      [Event.text value.text].foldr push (readFrom 0 rest) := by
  rw [escape, String.toList_ofList, readFrom_escape, String.ofList_toList]
  rfl

theorem readFrom_element {tag : String} {props : List (String × Value)} (named : isName tag = true)
    (propsNamed : ∀ prop ∈ props, isName prop.1 = true) (rest : List Char) :
    readFrom 0 (("<" ++ tag ++ renderProps props ++ ">").toList ++ rest) =
      .start tag (props.filterMap shownProp) :: readFrom 0 rest := by
  let attrs := props.filterMap shownProp
  let written := tag.toList ++ (attrs.flatMap attrText ++ ['>'])
  have text :
      ("<" ++ tag ++ renderProps props ++ ">").toList ++ rest = '<' :: (written ++ rest) := by
    simp [written, attrs, toList_renderProps]
  have found : readTag? ('<' :: (written ++ rest)) = some (.start tag attrs, rest) := by
    rw [List.append_assoc, List.append_assoc]
    exact readTag?_start named (isName_of_shown propsNamed) rest
  rw [text, readFrom_tag found]

theorem readFrom_end {tag : String} (named : isName tag = true) (rest : List Char) :
    readFrom 0 (("</" ++ tag ++ ">").toList ++ rest) = .stop tag :: readFrom 0 rest := by
  let written := '/' :: (tag.toList ++ ['>'])
  have text : ("</" ++ tag ++ ">").toList ++ rest = '<' :: (written ++ rest) := by
    simp [written]
  have found : readTag? ('<' :: (written ++ rest)) = some (.stop tag, rest) := by
    rw [List.cons_append, List.append_assoc]
    exact readTag?_stop named rest
  rw [text, readFrom_tag found]

-- The recursion is that of rendering: into the children of an element, and along a list.
mutual

/-- What is rendered for a value is read as its events, in front of the events of what follows. -/
theorem readFrom_render (value : Value) (named : wellNamed value = true) (rest : List Char) :
    readFrom 0 ((render value).toList ++ rest) = (events value).foldr push (readFrom 0 rest) := by
  match value with
  | .none => rfl
  | .bool _ => rfl
  | .int n =>
    simp only [render, events]
    exact readFrom_scalar _ rest
  | .float x =>
    simp only [render, events]
    exact readFrom_scalar _ rest
  | .str s =>
    simp only [render, events]
    exact readFrom_scalar _ rest
  | .dict entries =>
    simp only [render, events]
    exact readFrom_scalar _ rest
  | .list items =>
    rw [wellNamed] at named
    rw [render, events, readFrom_renderAll items named]
  | .tuple items =>
    rw [wellNamed] at named
    rw [render, events, readFrom_renderAll items named]
  | .vnode tag props children =>
    rw [wellNamed, Bool.and_eq_true_iff, Bool.and_eq_true_iff, List.all_eq_true] at named
    obtain ⟨⟨tagNamed, propsNamed⟩, childrenNamed⟩ := named
    rw [render, events]
    split
    · rw [readFrom_element tagNamed propsNamed]
      rfl
    · have parts (start inside : String) : (start ++ inside ++ "</" ++ tag ++ ">").toList ++ rest =
          start.toList ++ (inside.toList ++ (("</" ++ tag ++ ">").toList ++ rest)) := by
        simp
      rw [parts, readFrom_element tagNamed propsNamed, readFrom_render children childrenNamed,
        readFrom_end tagNamed, List.foldr_cons, List.foldr_append]
      rfl
termination_by structural value

theorem readFrom_renderAll (items : List Value) (named : allWellNamed items = true)
    (rest : List Char) :
    readFrom 0 ((renderAll items).toList ++ rest) =
      (eventsAll items).foldr push (readFrom 0 rest) := by
  match items with
  | [] => rfl
  | item :: items =>
    rw [allWellNamed, Bool.and_eq_true_iff] at named
    rw [renderAll, eventsAll, String.toList_append, List.append_assoc,
      readFrom_render item named.1, readFrom_renderAll items named.2, List.foldr_append]
termination_by structural items

end

/-- What is rendered for a value is read as the events of the value: no text and no property makes
or hides a tag. -/
theorem read_render_eq_events (value : Value) (named : wellNamed value = true) :
    read (render value) = joinTexts (events value) := by
  have whole := readFrom_render value named []
  rwa [List.append_nil] at whole

/-- An item with a forged tag for a title and for a text, next to elements without an end tag. -/
def forged : Value :=
  .tuple
    [.str "a < ", .none, .str "b",
      .vnode "li"
        [("key", .str "0"), ("className", .str "x\" y='<li>"), ("hidden", .str "hidden"),
          ("disabled", .str ""), ("title", .none)]
        (.list [.str "</li><li>&amp;", .vnode "br" [] (.str "never shown"), .bool true])]

theorem read_render_forged :
    wellNamed forged = true ∧ read (render forged) = joinTexts (events forged) ∧
      joinTexts (events forged) =
        [.text "a < b", .start "li" [("class", "x\" y='<li>"), ("hidden", "")],
          .text "</li><li>&amp;", .start "br" [], .stop "li"] :=
  have named : wellNamed forged = true := by decide
  ⟨named, read_render_eq_events forged named, by decide⟩

end HtmlTemplate.Markup
