import HtmlTemplate.Proofs.Dom.Chunks

/-!
Text in front of a child. Text that is appended goes on in a text that stands last, but text that is
inserted in front of a child becomes nodes of its own, whatever stands there. So the children before
the one that was referred to are those that appending would have given just when no text meets a text
there, and text in two chunks is text in one just when the cut does not fall inside a text.
-/

namespace HtmlTemplate.Dom

/-! Lists in which no text stands next to a text -/

section Texts

/-- The text of a part that is one. -/
def textOfPart? : Part → Option String
  | .text value => some value
  | .tag _ => none

theorem textOfPart?_eq_some_iff {part : Part} {value : String} :
    textOfPart? part = some value ↔ part = .text value := by
  cases part <;> simp [textOfPart?]

theorem startsText_iff_map {parts : List Part} :
    StartsText parts ↔ ∃ text, (parts.map textOfPart?).head? = some (some text) := by
  simp [StartsText, List.head?_map, textOfPart?_eq_some_iff]

theorem endsText_iff_map {parts : List Part} :
    EndsText parts ↔ ∃ text, (parts.map textOfPart?).getLast? = some (some text) := by
  simp [EndsText, List.getLast?_map, textOfPart?_eq_some_iff]

/-- At most one of two neighbours is a text. -/
def OneText (left right : Option String) : Prop := left = none ∨ right = none

theorem apart_iff_map {parts : List Part} :
    Apart parts ↔ (parts.map textOfPart?).IsChain OneText := by
  rw [List.isChain_map]
  apply List.IsChain.iff
  intro left right
  cases left <;> cases right <;> simp [OneText, textOfPart?]

theorem Store.textsApart_iff_map {s : Store} {ids : List NodeId} :
    s.TextsApart ids ↔ (ids.map s.textOf?).IsChain OneText :=
  (List.isChain_map (R := OneText) s.textOf?).symm

/-- A row goes on in front of a place and behind it if what is put there fits on both sides. -/
theorem isChain_insert_iff {α : Type} {fits : α → α → Prop} {front back added : List α} {ref : α}
    (whole : (front ++ ref :: back).IsChain fits) (inner : added.IsChain fits)
    (filled : added ≠ []) :
    (front ++ added ++ ref :: back).IsChain fits ↔
      (∀ left ∈ front.getLast?, ∀ right ∈ added.head?, fits left right) ∧
        ∀ left ∈ added.getLast?, ∀ right ∈ some ref, fits left right := by
  obtain ⟨before, behind, -⟩ := List.isChain_append.mp whole
  have last : (front ++ added).getLast? = added.getLast? := by
    rw [List.getLast?_append_of_ne_nil _ filled]
  rw [List.isChain_append, List.isChain_append, last]
  simp [before, behind, inner]

theorem forall_oneText_iff {left right : Option (Option String)} :
    (∀ l ∈ left, ∀ r ∈ right, OneText l r) ↔
      ¬ ((∃ text, left = some (some text)) ∧ ∃ text, right = some (some text)) := by
  rcases left with _ | _ | text <;> rcases right with _ | _ | text <;> simp [OneText]

end Texts

/-! Where text would be joined -/

namespace Store

/-- The last of a list of nodes is a text. -/
def EndsInText (s : Store) (ids : List NodeId) : Prop :=
  ∃ id text, ids.getLast? = some id ∧ s.textOf? id = some text

/-- A child as it is told from others: a leaf by the part it holds, another node by itself. -/
def seen (s : Store) (id : NodeId) : NodeId ⊕ Part :=
  match s.content id with
  | .leaf part => .inr part
  | _ => .inl id

variable {s after : Store} {parent id : NodeId}

theorem seen_congr (same : after.content id = s.content id) : after.seen id = s.seen id := by
  rw [seen, seen, same]

theorem endsInText_iff_map {ids : List NodeId} :
    s.EndsInText ids ↔ ∃ text, (ids.map s.textOf?).getLast? = some (some text) := by
  simp only [EndsInText, List.getLast?_map, Option.map_eq_some_iff]
  exact exists_comm

theorem openText_of_endsInText (ends : s.EndsInText (s.children parent)) :
    ∃ id before, s.openText parent = [id] ∧ s.content id = .leaf (.text before) := by
  obtain ⟨id, before, last, text⟩ := ends
  exact ⟨id, before, by simp [openText, last, text], textOf?_eq_some_iff.mp text⟩

theorem openText_of_not_endsInText (free : ¬ s.EndsInText (s.children parent)) :
    s.openText parent = [] := by
  cases last : (s.children parent).getLast? with
  | none => simp [openText, last]
  | some id =>
    cases text : s.textOf? id with
    | none => simp [openText, last, text]
    | some value => exact absurd ⟨id, value, last, text⟩ free

end Store

section Append

variable {s : Store} {parent : NodeId} {parts : List Part}

/-- Parts that meet no text are planted behind all children. -/
theorem forM_appendPart_of_free (apart : Apart parts) (inside : parent < s.cells.size)
    (free : ¬ (s.EndsInText (s.children parent) ∧ StartsText parts)) :
    parts.forM (appendPart parent) s =
      .ok () (s.plantAll parent (s.children parent) [] parts) := by
  apply forM_appendPart_planted apart _ inside
  intro value head
  apply Store.openText_of_not_endsInText
  intro ends
  exact free ⟨ends, value, head⟩

/-- Where a text meets a text there is one child less than there are parts to append. -/
theorem forM_appendPart_of_meeting (apart : Apart parts) (inside : parent < s.cells.size)
    (ends : s.EndsInText (s.children parent)) (starts : StartsText parts) :
    ∃ after, parts.forM (appendPart parent) s = .ok () after ∧
      (after.children parent).length + 1 = (s.children parent).length + parts.length := by
  obtain ⟨id, before, opens, leaf⟩ := Store.openText_of_endsInText ends
  obtain ⟨value, head⟩ := starts
  cases parts with
  | nil => cases head
  | cons part rest =>
    cases Option.some.inj head
    obtain ⟨next, others⟩ := List.isChain_cons.mp apart
    -- The first text goes on in the old one, and what comes behind it is no text.
    have still : parent < (s.setContent id (.leaf (.text (before ++ value)))).cells.size := by
      simpa using inside
    have run := forM_appendPart_of_free others still (by
      rintro ⟨-, other, second⟩
      exact next _ second value other rfl rfl)
    refine ⟨_, (forM_appendPart_cons (appendPart_of_open opens leaf value) rest).trans run, ?_⟩
    rw [Store.children_plantAll (List.append_nil _).symm still, Store.children_setContent]
    simp [Nat.add_assoc]

end Append

section Before

variable {c : Char} {s : Store} {parent ref : NodeId} {front back : List NodeId}
  {data : List Char} {parts : List Part} {taken : List Tag} {r : Queue}

/-- New leaves are seen behind the children that stand in front of them. -/
theorem map_seen_plantAll (listed : ∀ id ∈ front, id < s.cells.size) (parts : List Part) :
    (front ++ List.range' s.cells.size parts.length).map
        (s.plantAll parent front back parts).seen =
      front.map s.seen ++ parts.map .inr := by
  rw [List.map_append]
  congr 1
  · apply List.map_congr_left
    intro id member
    exact Store.seen_congr (Store.content_plantAll_of_lt (listed id member) parts)
  · apply Store.map_plantAll Store.seen
    intro s id part leaf
    rw [Store.seen, leaf]

/-- Planted leaves are what appending the parts to the children in front gives, unless a text meets
a text. -/
theorem map_seen_planted_iff {appended : Store} (back : List NodeId) (apart : Apart parts)
    (inside : parent < s.cells.size) (listed : ∀ id ∈ front, id < s.cells.size)
    (run : parts.forM (appendPart parent) (s.setChildren parent front) = .ok () appended) :
    (front ++ List.range' s.cells.size parts.length).map
        (s.plantAll parent front back parts).seen =
      (appended.children parent).map appended.seen ↔
      ¬ (s.EndsInText front ∧ StartsText parts) := by
  have still : parent < (s.setChildren parent front).cells.size := by simpa using inside
  have children : (s.setChildren parent front).children parent = front :=
    Store.children_setChildren_self inside front
  have same (id : NodeId) : (s.setChildren parent front).content id = s.content id :=
    Store.content_setChildren ..
  have ends : (s.setChildren parent front).EndsInText front ↔ s.EndsInText front := by
    simp only [Store.EndsInText, Store.textOf?_congr (same _)]
  by_cases meeting : s.EndsInText front ∧ StartsText parts
  · -- Appending joins two texts, so it gives one child less.
    obtain ⟨_, again, shorter⟩ := forM_appendPart_of_meeting apart still
      (by rw [children, ends]; exact meeting.1) meeting.2
    rw [run] at again
    cases again
    rw [children] at shorter
    refine iff_of_false (fun same => ?_) (not_not_intro meeting)
    have lengths := congrArg List.length same
    simp only [List.length_map, List.length_append, List.length_range'] at lengths
    omega
  · -- Appending plants the same leaves, and there is nothing behind them.
    have planted := forM_appendPart_of_free apart still (by rwa [children, ends])
    rw [run, children] at planted
    cases planted
    refine iff_of_true ?_ meeting
    rw [Store.children_plantAll (children.trans (List.append_nil _).symm) still, List.append_nil,
      map_seen_plantAll listed, map_seen_plantAll (by simpa using listed)]
    congr 1
    apply List.map_congr_left
    intro id _
    exact (Store.seen_congr (same id)).symm

/-- Leaves that are planted in front of a child keep texts apart if no text meets a text on either
side of them. -/
theorem textsApart_planted_iff (apart : Apart parts)
    (split : s.children parent = front ++ ref :: back)
    (listed : ∀ id ∈ s.children parent, id < s.cells.size)
    (before : s.TextsApart (s.children parent)) :
    (s.plantAll parent front (ref :: back) parts).TextsApart
        (front ++ List.range' s.cells.size parts.length ++ ref :: back) ↔
      ¬ (s.EndsInText front ∧ StartsText parts) ∧
        ¬ (EndsText parts ∧ ∃ text, s.textOf? ref = some text) := by
  have old (id : NodeId) (member : id ∈ s.children parent) :
      (s.plantAll parent front (ref :: back) parts).textOf? id = s.textOf? id :=
    Store.textOf?_congr (Store.content_plantAll_of_lt (listed id member) parts)
  have new : (List.range' s.cells.size parts.length).map
      (s.plantAll parent front (ref :: back) parts).textOf? = parts.map textOfPart? := by
    apply Store.map_plantAll Store.textOf?
    intro s id part leaf
    cases part <;> simp [Store.textOf?, leaf, textOfPart?]
  rw [split] at old
  obtain ⟨oldFront, oldBack⟩ := List.forall_mem_append.mp old
  -- Only which nodes are texts counts, and of that there is a list before and after.
  have texts : (front ++ List.range' s.cells.size parts.length ++ ref :: back).map
      (s.plantAll parent front (ref :: back) parts).textOf? =
        front.map s.textOf? ++ parts.map textOfPart? ++ s.textOf? ref :: back.map s.textOf? := by
    rw [List.map_append, List.map_append, new, List.map_congr_left oldFront,
      List.map_congr_left oldBack, List.map_cons]
  rw [Store.textsApart_iff_map, split, List.map_append, List.map_cons] at before
  rw [Store.textsApart_iff_map, texts]
  rw [apart_iff_map] at apart
  cases parts with
  | nil =>
    have none : ¬ StartsText [] ∧ ¬ EndsText [] := by simp [StartsText, EndsText]
    simpa [none] using before
  | cons part rest =>
    rw [isChain_insert_iff before apart (by simp), forall_oneText_iff, forall_oneText_iff,
      ← Store.endsInText_iff_map, ← startsText_iff_map, ← endsText_iff_map]
    simp

/-- Leaves that are planted in two goes are those planted in one just when no text meets a text
between them. -/
theorem plantAll_twice_iff {more : List Part} (first : Apart parts) (second : Apart more) :
    ({ s.plantAll parent front back (parts ++ more) with queue := r } : Store) =
        { s.plantAll parent front back (more.foldl addPart parts) with queue := r } ↔
      ¬ (EndsText parts ∧ StartsText more) := by
  constructor
  · rintro same ⟨ends, starts⟩
    have fewer := length_foldl_addPart_lt ends starts
    have sizes := congrArg (·.cells.size) same
    simp only [Store.size_plantAll, List.length_append] at sizes
    omega
  · intro free
    rw [(foldl_addPart_eq_append_iff first second).mpr free]

/-- Text in front of a child is planted there, as the parts it expands to. -/
theorem insertText_before_of_pops (single : s.setup.sentinel = [c]) (inside : parent < s.cells.size)
    (split : s.children parent = front ++ ref :: back) (first : ref ∉ front)
    (pops : s.queue.Pops taken r) (all : taken.length = data.count c) :
    ∃ parts, Normal parts ∧ marks parts = fill c data taken ∧
      insertText parent data (some ref) s =
        .ok () { s.plantAll parent front (ref :: back) parts with queue := r } := by
  obtain ⟨parts, expanded, normal, shown⟩ := expand_single single pops all
  exact ⟨parts, normal, shown, insertText_before split first inside expanded⟩

/-- Text in two chunks, each in front of the child, is planted as the parts of the one behind those
of the other. -/
theorem insertText_before_append (single : s.setup.sentinel = [c]) (inside : parent < s.cells.size)
    (split : s.children parent = front ++ ref :: back) (first : ref ∉ front)
    (known : ref < s.cells.size) {a b : List Char} (pops : s.queue.Pops taken r)
    (all : taken.length = (a ++ b).count c) (normal : Normal parts)
    (shown : marks parts = fill c (a ++ b) taken) :
    ∃ mine yours, parts = List.foldl addPart mine yours ∧ Normal mine ∧ Normal yours ∧
      (EndsText mine ↔ EndsPlain c a) ∧ (StartsText yours ↔ StartsPlain c b) ∧
      (do insertText parent a (some ref); insertText parent b (some ref)) s =
        .ok () { s.plantAll parent front (ref :: back) (mine ++ yours) with queue := r } := by
  obtain ⟨before, behind, mid, rfl, countFront, countBack, popsFront, popsBack⟩ := pops.divide all
  obtain ⟨mine, normalMine, shownMine, runMine⟩ :=
    insertText_before_of_pops single inside split first popsFront countFront
  have still : (s.plantAll parent front (ref :: back) mine).setup.sentinel = [c] := by
    rw [Store.setup_plantAll, single]
  have within : parent < (s.plantAll parent front (ref :: back) mine).cells.size := by
    rw [Store.size_plantAll]
    exact Nat.lt_add_right _ inside
  -- The new leaves are other nodes than the child, so this is still the first place of it.
  have apart : ref ∉ front ++ List.range' s.cells.size mine.length := by
    simp [first, known]
  obtain ⟨yours, normalYours, shownYours, runYours⟩ :=
    insertText_before_of_pops
      (s := { s.plantAll parent front (ref :: back) mine with queue := mid }) still within
      (Store.children_plantAll split inside mine) apart popsBack countBack
  refine ⟨mine, yours, ?_, normalMine, normalYours, endsText_iff normalMine shownMine countFront,
    startsText_iff normalYours shownYours countBack, ?_⟩
  · apply normal.eq_foldl_addPart normalMine normalYours
    rw [shown, shownMine, shownYours, fill_append countFront]
  · rw [bind_ok runMine, runYours, Store.plantAll_queue, Store.plantAll_append]

end Before

/-- Text in front of a child is joined to nothing. If there is a directive for each sentinel, it is
inserted between the children before the child and the child itself. Those before it are then what
appending the text to them gives, unless a text stands last among them and the text does not start
with a sentinel. If no text stood next to a text, none does afterwards, unless a text meets a text in
front of what was inserted or behind it. And the text may come in two chunks, unless the cut falls
between two characters that are not sentinels. -/
theorem insertText_before_joins_nothing {c : Char} {s : Store} {parent ref : NodeId}
    {front back : List NodeId} {data : List Char} (single : s.setup.sentinel = [c])
    (container : s.isContainer parent = true)
    (listed : ∀ id ∈ s.children parent, id < s.cells.size)
    (split : s.children parent = front ++ ref :: back) (first : ref ∉ front)
    (enough : data.count c ≤ s.queue.size) :
    ∃ added after appended, insertText parent data (some ref) s = .ok () after ∧
      after.children parent = front ++ added ++ ref :: back ∧
      insertText parent data none (s.setChildren parent front) = .ok () appended ∧
      after.queue = appended.queue ∧
      ((front ++ added).map after.seen = (appended.children parent).map appended.seen ↔
        ¬ (s.EndsInText front ∧ StartsPlain c data)) ∧
      (s.TextsApart (s.children parent) →
        (after.TextsApart (after.children parent) ↔
          ¬ (s.EndsInText front ∧ StartsPlain c data) ∧
            ¬ (EndsPlain c data ∧ ∃ text, s.textOf? ref = some text))) ∧
      ∀ a b, data = a ++ b →
        ((do insertText parent a (some ref); insertText parent b (some ref)) s = .ok () after ↔
          ¬ (EndsPlain c a ∧ StartsPlain c b)) := by
  have inside := Store.lt_size_of_isContainer container
  have members : (∀ id ∈ front, id < s.cells.size) ∧ ∀ id ∈ ref :: back, id < s.cells.size := by
    rw [split] at listed
    exact List.forall_mem_append.mp listed
  obtain ⟨taken, r, pops, all⟩ := Queue.exists_pops_of_le enough
  obtain ⟨parts, normal, shown, run⟩ :=
    insertText_before_of_pops single inside split first pops all
  -- The text expands to the same parts when it is appended.
  obtain ⟨others, appended, normalOthers, shownOthers, appends, runAppend⟩ :=
    insertText_of_pops (s := s.setChildren parent front) parent single pops all
  obtain rfl := normalOthers.unique normal (shownOthers.trans shown.symm)
  have starts := startsText_iff normal shown all
  have ends := endsText_iff normal shown all
  have children := Store.children_plantAll split inside others
  refine ⟨_, _, _, run, children, runAppend, rfl, ?_, ?_, ?_⟩
  · rw [← starts]
    have seen := map_seen_planted_iff (ref :: back) normal.apart inside members.1 appends
    exact seen
  · intro before
    rw [← starts, ← ends]
    have apart := textsApart_planted_iff normal.apart split listed before
    rw [← children] at apart
    exact apart
  · rintro a b rfl
    obtain ⟨mine, yours, rfl, normalMine, normalYours, endsMine, startsYours, twice⟩ :=
      insertText_before_append single inside split first (members.2 ref List.mem_cons_self) pops all
        normal shown
    rw [twice, ← endsMine, ← startsYours, EStateM.Result.ok.injEq]
    simp only [true_and]
    exact plantAll_twice_iff normalMine.apart normalYours.apart

/-- A paragraph with a text and then a table, and a directive marked by a number sign. -/
def tableBehindText : Store :=
  { setup := { sentinel := ['#'], booleans := [], ns := none }
    queue := .ofList [.expression (.variable "title")]
    cells := #[{ content := .element "p" none [], children := [1, 2] },
      { content := .leaf (.text "a"), owner := some (.node 0) },
      { content := .element "table" none [], owner := some (.node 0) }] }

theorem textsApart_tableBehindText : tableBehindText.TextsApart [1, 2] :=
  .cons_cons (.inr rfl) (.singleton _)

/-- The first character stands next to the old text, and the cut in front of the sentinel joins
nothing. -/
theorem insertText_before_joins_nothing_table :
    tableBehindText.isContainer 0 = true ∧ tableBehindText.children 0 = [1] ++ 2 :: [] ∧
      ∃ after, insertText 0 ['b', '#', 'c'] (some 2) tableBehindText = .ok () after ∧
        ¬ after.TextsApart (after.children 0) ∧
        (do insertText 0 ['b'] (some 2); insertText 0 ['#', 'c'] (some 2)) tableBehindText =
          .ok () after := by
  have container : tableBehindText.isContainer 0 = true := by decide +kernel
  have split : tableBehindText.children 0 = [1] ++ 2 :: [] := rfl
  have meeting : tableBehindText.EndsInText [1] ∧ StartsPlain '#' ['b', '#', 'c'] :=
    ⟨⟨1, "a", rfl, rfl⟩, 'b', rfl, by decide⟩
  obtain ⟨added, after, appended, run, -, -, -, -, apart, chunks⟩ :=
    @insertText_before_joins_nothing '#' tableBehindText 0 2 [1] [] ['b', '#', 'c'] rfl container
      (by decide +kernel) split (by decide) (by decide +kernel)
  refine ⟨container, split, after, run, ?_, ?_⟩
  · rw [apart textsApart_tableBehindText]
    exact fun free => free.1 meeting
  · apply (chunks ['b'] ['#', 'c'] rfl).mpr
    rintro ⟨-, d, head, plain⟩
    cases Option.some.inj head
    exact plain rfl

/-- Text in front of a table is not joined to the text before it, as it would be if it was
appended, nor to text that was inserted there just before. -/
theorem insertText_before_table_keeps_texts :
    tableBehindText.TextsApart (tableBehindText.children 0) ∧
      ∃ one two whole appended,
        insertText 0 ['b'] (some 2) tableBehindText = .ok () one ∧
        (one.children 0).map one.seen = [.inr (.text "a"), .inr (.text "b"), .inl 2] ∧
        insertText 0 ['b'] none (tableBehindText.setChildren 0 [1]) = .ok () appended ∧
        (appended.children 0).map appended.seen = [.inr (.text "ab")] ∧
        insertText 0 ['c'] (some 2) one = .ok () two ∧
        insertText 0 ['b', 'c'] (some 2) tableBehindText = .ok () whole ∧
        (two.children 0).map two.seen ≠ (whole.children 0).map whole.seen := by
  refine ⟨textsApart_tableBehindText, _, _, _, _, rfl, rfl, rfl, rfl, rfl, rfl, ?_⟩
  intro same
  have lengths := congrArg List.length same
  revert lengths
  decide +kernel

end HtmlTemplate.Dom
