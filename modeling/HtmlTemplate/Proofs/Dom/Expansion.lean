import HtmlTemplate.Proofs.Dom.Store
import HtmlTemplate.Proofs.Text.Pieces

/-!
Expansion takes directives from the front of the queue, one for each sentinel, and puts them where
the sentinels stand. `Draws` says how a piece of building that needs a number of directives ends:
with just these taken, or with none left and one missing. It is kept when pieces of building follow
one another, so each operation is followed from what it expands.
-/

namespace HtmlTemplate

namespace Queue

/-- Taking tags from a queue, one by one. -/
inductive Pops : Queue → List Tag → Queue → Prop where
  | none (q : Queue) : Pops q [] q
  | next {q r last : Queue} {tag : Tag} {tags : List Tag} (first : q.pop = .ok (tag, r))
      (later : Pops r tags last) : Pops q (tag :: tags) last

theorem pop_eq_ok_iff {q r : Queue} {tag : Tag} :
    q.pop = .ok (tag, r) ↔ q.tags = tag :: r.tags ∧ r.popped = q.popped + 1 := by
  obtain ⟨tags, popped⟩ := q
  obtain ⟨rest, count⟩ := r
  cases tags with
  | nil => simp [pop]
  | cons first tags =>
    simp only [pop, Except.ok.injEq, Prod.mk.injEq, Queue.mk.injEq, List.cons.injEq]
    grind

/-- What is taken stood at the front of the queue, and is counted. -/
theorem pops_iff {q r : Queue} {taken : List Tag} :
    q.Pops taken r ↔ taken ++ r.tags = q.tags ∧ r.popped = q.popped + taken.length := by
  constructor
  · intro pops
    induction pops with
    | none q => simp
    | next first later ih =>
      obtain ⟨front, count⟩ := pop_eq_ok_iff.mp first
      obtain ⟨rest, total⟩ := ih
      refine ⟨by rw [List.cons_append, rest, front], ?_⟩
      rw [total, count, List.length_cons]
      omega
  · rintro ⟨front, count⟩
    induction taken generalizing q with
    | nil =>
      obtain ⟨tags, popped⟩ := q
      obtain ⟨rest, total⟩ := r
      simp only [List.nil_append, List.length_nil, Nat.add_zero] at front count
      subst front count
      exact .none _
    | cons tag taken ih =>
      refine .next (r := { tags := taken ++ r.tags, popped := q.popped + 1 })
        (pop_eq_ok_iff.mpr ⟨front.symm, rfl⟩) (ih rfl ?_)
      rw [count, List.length_cons, Nat.add_assoc, Nat.add_comm 1]

theorem Pops.trans {q r last : Queue} {taken more : List Tag} (first : q.Pops taken r)
    (second : r.Pops more last) : q.Pops (taken ++ more) last := by
  obtain ⟨front, count⟩ := pops_iff.mp first
  obtain ⟨rest, total⟩ := pops_iff.mp second
  refine pops_iff.mpr ⟨by rw [List.append_assoc, rest, front], ?_⟩
  rw [total, count, List.length_append, Nat.add_assoc]

/-- What is taken in two parts is taken one part after the other. -/
theorem Pops.split {q last : Queue} {taken more : List Tag} (pops : q.Pops (taken ++ more) last) :
    ∃ r, q.Pops taken r ∧ r.Pops more last := by
  obtain ⟨front, count⟩ := pops_iff.mp pops
  refine ⟨{ tags := more ++ last.tags, popped := q.popped + taken.length }, ?_, ?_⟩
  · exact pops_iff.mpr ⟨by rw [← front, List.append_assoc], rfl⟩
  · exact pops_iff.mpr ⟨rfl, by rw [count, List.length_append, Nat.add_assoc]⟩

/-- The directives of a text are those of its front, and then those of its back. -/
theorem Pops.divide {c : Char} {q last : Queue} {taken : List Tag} (pops : q.Pops taken last)
    {a b : List Char} (all : taken.length = (a ++ b).count c) :
    ∃ first second mid, taken = first ++ second ∧ first.length = a.count c ∧
      second.length = b.count c ∧ q.Pops first mid ∧ mid.Pops second last := by
  rw [List.count_append] at all
  have whole := List.take_append_drop (a.count c) taken
  rw [← whole] at pops
  obtain ⟨mid, popsFirst, popsSecond⟩ := pops.split
  refine ⟨_, _, mid, whole.symm, ?_, ?_, popsFirst, popsSecond⟩
  · rw [List.length_take]
    omega
  · rw [List.length_drop]
    omega

theorem Pops.size {q r : Queue} {taken : List Tag} (pops : q.Pops taken r) :
    r.size + taken.length = q.size := by
  obtain ⟨front, -⟩ := pops_iff.mp pops
  rw [Queue.size, Queue.size, ← front, List.length_append, Nat.add_comm]

/-- The queue when its first tags are taken, or all if there are no more. -/
def skip (q : Queue) (count : Nat) : Queue :=
  { tags := q.tags.drop count, popped := q.popped + min count q.size }

theorem pops_skip (q : Queue) (count : Nat) : q.Pops (q.tags.take count) (q.skip count) := by
  simp [pops_iff, skip, size]

theorem tags_skip_of_few {q : Queue} {count : Nat} (few : q.size < count) :
    (q.skip count).tags = [] :=
  List.drop_eq_nil_of_le (Nat.le_of_lt few)

theorem exists_pops_of_le {q : Queue} {count : Nat} (enough : count ≤ q.size) :
    ∃ taken r, q.Pops taken r ∧ taken.length = count :=
  ⟨_, _, q.pops_skip count, List.length_take_of_le enough⟩

end Queue

namespace Dom

/-- What stands at one place of a node: a character, a directive, or a node of its own. -/
inductive Mark where
  | char (c : Char)
  | tag (tag : Tag)
  | node (id : NodeId)

def partMarks : Part → List Mark
  | .text value => value.toList.map .char
  | .tag tag => [.tag tag]

/-- What parts show, place by place. -/
def marks (parts : List Part) : List Mark := parts.flatMap partMarks

/-- A text with tags in the places of its sentinels, up to the first sentinel without a tag. -/
def fill (sentinel : Char) : List Char → List Tag → List Mark
  | [], _ => []
  | c :: text, tags =>
    if c = sentinel then
      match tags with
      | [] => []
      | tag :: tags => .tag tag :: fill sentinel text tags
    else .char c :: fill sentinel text tags

/-- Pieces of text with a tag between any two. -/
def weave : List (List Char) → List Tag → List Mark
  | [], _ => []
  | piece :: _, [] => piece.map .char
  | piece :: rest, tag :: tags => piece.map .char ++ .tag tag :: weave rest tags

theorem marks_textPart (piece : List Char) :
    marks (joinPieces.textPart piece) = piece.map .char := by
  cases piece <;> simp [joinPieces.textPart, marks, partMarks]

theorem joinPieces_cons {q r : Queue} {tag : Tag} (first : q.pop = .ok (tag, r))
    (piece next : List Char) (rest : List (List Char)) :
    joinPieces (piece :: next :: rest) q =
      (((joinPieces (next :: rest) r).1.map fun parts =>
        joinPieces.textPart piece ++ .tag tag :: parts), (joinPieces (next :: rest) r).2) := by
  rw [joinPieces]
  · simp only [first]
  · simp

theorem joinPieces_enough {q r : Queue} {taken : List Tag} (pops : q.Pops taken r)
    {pieces : List (List Char)} (count : pieces.length = taken.length + 1) :
    ∃ parts, joinPieces pieces q = (.ok parts, r) ∧ marks parts = weave pieces taken := by
  induction pops generalizing pieces with
  | none q =>
    obtain ⟨piece, rfl⟩ := List.length_eq_one_iff.mp count
    exact ⟨_, rfl, by rw [marks_textPart, weave]⟩
  | next first later ih =>
    match pieces with
    | piece :: next :: rest =>
      obtain ⟨parts, joined, shown⟩ := @ih (next :: rest) (by simpa using count)
      refine ⟨_, by rw [joinPieces_cons first, joined]; rfl, ?_⟩
      rw [weave, ← shown, ← marks_textPart]
      simp [marks, partMarks]

theorem joinPieces_short {q r : Queue} {taken : List Tag} (pops : q.Pops taken r)
    (none : r.tags = []) {pieces : List (List Char)} (few : taken.length + 1 < pieces.length) :
    joinPieces pieces q = (.error (.underflow (r.popped + 1)), r) := by
  induction pops generalizing pieces with
  | none q =>
    match pieces with
    | piece :: next :: rest =>
      have empty : q.pop = .error (.underflow (q.popped + 1)) := by simp [Queue.pop, none]
      rw [joinPieces]
      · simp only [empty]
      · simp
  | next first later ih =>
    match pieces with
    | piece :: next :: rest =>
      have fewer := @ih none (next :: rest) (by simpa using few)
      rw [joinPieces_cons first, fewer]
      rfl

theorem weave_modifyHead (c : Char) {pieces : List (List Char)} (filled : pieces ≠ [])
    (tags : List Tag) : weave (pieces.modifyHead (c :: ·)) tags = .char c :: weave pieces tags := by
  cases pieces with
  | nil => exact absurd rfl filled
  | cons piece rest => cases tags <;> simp [weave]

/-- The pieces of a text are woven to the text with its sentinels replaced. -/
theorem weave_pieces (c : Char) (text : List Char) (tags : List Tag)
    (count : tags.length = text.count c) :
    weave (Text.pieces [c] text) tags = fill c text tags := by
  induction text generalizing tags with
  | nil =>
    cases tags with
    | nil => rfl
    | cons tag tags => simp at count
  | cons d text ih =>
    by_cases same : d = c
    · subst same
      rw [List.count_cons_self] at count
      obtain ⟨tag, tags, rfl⟩ := List.exists_cons_of_length_eq_add_one count
      rw [Text.pieces_cons_self, weave, ih tags (by simpa using count)]
      simp [fill]
    · rw [List.count_cons_of_ne same] at count
      -- A character that is no sentinel goes to the front of the first piece.
      have filled : Text.pieces [c] text ≠ [] := Text.piecesFrom_ne_nil [c] 0 text
      rw [Text.pieces_cons_of_ne c text same, weave_modifyHead d filled, ih tags count]
      simp [fill, same]

/-- Tags have been taken from the queue of a store, whose setup is still the same. -/
structure Took (s : Store) (taken : List Tag) (after : Store) : Prop where
  pops : s.queue.Pops taken after.queue
  setup : after.setup = s.setup

theorem Took.trans {s mid after : Store} {taken more : List Tag} (first : Took s taken mid)
    (second : Took mid more after) : Took s (taken ++ more) after where
  pops := first.pops.trans second.pops
  setup := second.setup.trans first.setup

theorem Took.none {s after : Store} (queue : after.queue = s.queue)
    (setup : after.setup = s.setup) : Took s [] after where
  pops := by rw [queue]; exact .none _
  setup := setup

/-- How building that needs a number of directives ends. It has taken all of them, whether or not
it then fails for another cause; or it has taken all that there were and misses the next. -/
inductive Draws {α : Type} (need : Nat) (s : Store) (mayFail : Failure → Prop)
    (post : List Tag → α → Store → Prop) : EStateM.Result Failure Store α → Prop where
  | done {a : α} {after : Store} {taken : List Tag} (took : Took s taken after)
      (all : taken.length = need) (holds : post taken a after) :
      Draws need s mayFail post (.ok a after)
  | refused {e : Failure} {after : Store} {taken : List Tag} (took : Took s taken after)
      (all : taken.length = need) (cause : mayFail e) : Draws need s mayFail post (.error e after)
  | short {after : Store} {taken : List Tag} (took : Took s taken after)
      (empty : after.queue.tags = []) (few : taken.length < need) :
      Draws need s mayFail post (.error (.placeholder (.underflow (after.queue.popped + 1))) after)

namespace Draws

variable {α β : Type} {s : Store} {m n : Nat} {mayFail : Failure → Prop}

/-- Building that takes no directives draws none. -/
theorem quiet {post : List Tag → α → Store → Prop} {a : α} {after : Store}
    (queue : after.queue = s.queue) (setup : after.setup = s.setup) (holds : post [] a after) :
    Draws 0 s mayFail post (.ok a after) :=
  .done (.none queue setup) rfl holds

/-- What follows takes its directives behind those that are taken already. -/
theorem bind {first : Build α} {next : α → Build β} {mid : List Tag → α → Store → Prop}
    {post : List Tag → β → Store → Prop} (front : Draws m s (fun _ => False) mid (first s))
    (back : ∀ taken a after, mid taken a after →
      Draws n after mayFail (fun more b last => post (taken ++ more) b last) (next a after)) :
    Draws (m + n) s mayFail post ((first >>= next) s) := by
  show Draws (m + n) s mayFail post (EStateM.bind first next s)
  unfold EStateM.bind
  generalize first s = outcome at front
  cases front with
  | @done a after taken took all holds =>
    have later := back taken a after holds
    simp only
    generalize next a after = last at later
    cases later with
    | done more count holds =>
      exact .done (took.trans more) (by rw [List.length_append, all, count]) holds
    | refused more count cause =>
      exact .refused (took.trans more) (by rw [List.length_append, all, count]) cause
    | short more empty few =>
      exact .short (took.trans more) empty (by rw [List.length_append]; omega)
  -- What comes first can fail for want of a directive only.
  | refused took all cause => exact cause.elim
  | short took empty few => exact .short took empty (Nat.lt_add_right n few)

/-- What holds of a result may be replaced by what follows from it. -/
theorem imp {post weaker : List Tag → α → Store → Prop} {outcome : EStateM.Result Failure Store α}
    (draws : Draws m s mayFail post outcome)
    (follows : ∀ taken a after, taken.length = m → post taken a after → weaker taken a after) :
    Draws m s mayFail weaker outcome := by
  cases draws with
  | done took all holds => exact .done took all (follows _ _ _ all holds)
  | refused took all cause => exact .refused took all cause
  | short took empty few => exact .short took empty few

/-- Building may fail for other causes than it does. -/
theorem widen {post : List Tag → α → Store → Prop} {outcome : EStateM.Result Failure Store α}
    {others : Failure → Prop} (draws : Draws m s mayFail post outcome)
    (among : ∀ e, mayFail e → others e) : Draws m s others post outcome := by
  cases draws with
  | done took all holds => exact .done took all holds
  | refused took all cause => exact .refused took all (among _ cause)
  | short took empty few => exact .short took empty few

theorem map {f : α → β} {build : Build α} {post : List Tag → β → Store → Prop}
    (draws : Draws m s mayFail (fun taken a after => post taken (f a) after) (build s)) :
    Draws m s mayFail post ((f <$> build) s) := by
  show Draws m s mayFail post (EStateM.map f build s)
  unfold EStateM.map
  generalize build s = outcome at draws
  cases draws with
  | done took all holds => exact .done took all holds
  | refused took all cause => exact .refused took all cause
  | short took empty few => exact .short took empty few

end Draws

/-- Whether two stores differ in nothing but the queue. -/
def SameButQueue (s after : Store) : Prop := ∃ queue, after = { s with queue }

section Expand

variable {s : Store} {text : List Char}

/-- Where there are enough directives, each sentinel takes one. -/
theorem expand_enough (marked : s.setup.sentinel ≠ []) {taken : List Tag} {r : Queue}
    (pops : s.queue.Pops taken r) (all : taken.length = Text.countOf s.setup.sentinel text) :
    ∃ parts, expand text s = .ok parts { s with queue := r } ∧
      joinPieces (Text.pieces s.setup.sentinel text) s.queue = (.ok parts, r) ∧
      marks parts = weave (Text.pieces s.setup.sentinel text) taken := by
  obtain ⟨parts, joined, shown⟩ :=
    joinPieces_enough pops ((Text.length_pieces_eq s.setup.sentinel text).trans (by rw [all]))
  exact ⟨parts, by simp [expand, marked, joined], joined, shown⟩

/-- Where there are not, all are taken, and the next one is missing. -/
theorem expand_short (marked : s.setup.sentinel ≠ []) {taken : List Tag} {r : Queue}
    (pops : s.queue.Pops taken r) (none : r.tags = [])
    (few : taken.length < Text.countOf s.setup.sentinel text) :
    expand text s = .error (.placeholder (.underflow (r.popped + 1))) { s with queue := r } := by
  have joined : joinPieces (Text.pieces s.setup.sentinel text) s.queue = _ :=
    joinPieces_short pops none (by rw [Text.length_pieces_eq]; omega)
  simp [expand, marked, joined]

theorem expand_unmarked (empty : s.setup.sentinel = []) :
    expand text s = .error .emptySentinel s := by
  simp [expand, empty]

theorem expand_nil (marked : s.setup.sentinel ≠ []) : expand [] s = .ok [] s := by
  simp [expand, marked, Text.pieces, Text.piecesFrom, joinPieces, joinPieces.textPart]

/-- Expansion takes a directive for each sentinel and puts it in the place of the sentinel. -/
theorem expand_draws {c : Char} (single : s.setup.sentinel = [c]) (text : List Char) :
    Draws (text.count c) s (fun _ => False)
      (fun taken parts after => SameButQueue s after ∧ marks parts = fill c text taken)
      (expand text s) := by
  have marked : s.setup.sentinel ≠ [] := by simp [single]
  have count : Text.countOf s.setup.sentinel text = text.count c := by
    rw [single, Text.countOf_singleton]
  have pops := s.queue.pops_skip (text.count c)
  rcases Nat.lt_or_ge s.queue.size (text.count c) with few | enough
  · have none := Queue.tags_skip_of_few few
    have fewer : (s.queue.tags.take (text.count c)).length < text.count c :=
      (List.length_take_le' ..).trans_lt few
    rw [expand_short marked pops none (count ▸ fewer)]
    have took : Took s _ { s with queue := s.queue.skip (text.count c) } := ⟨pops, rfl⟩
    exact .short took none fewer
  · have all : (s.queue.tags.take (text.count c)).length = text.count c :=
      List.length_take_of_le enough
    obtain ⟨parts, ends, -, shown⟩ := expand_enough marked pops (all.trans count.symm)
    rw [single, weave_pieces c text _ all] at shown
    rw [ends]
    exact .done ⟨pops, rfl⟩ all ⟨⟨_, rfl⟩, shown⟩

end Expand

/-! Attributes -/

/-- The number of sentinels in a value that is still to be adapted. -/
def sentinelsOf (c : Char) : AttrValue → Nat
  | .plain text => text.toList.count c
  | .parts _ => 0

def sentinelsIn (c : Char) : List (AttrName × AttrValue) → Nat
  | [] => 0
  | attr :: rest => sentinelsOf c attr.2 + sentinelsIn c rest

/-- A value as it is adapted: tags stand where it had sentinels; without any it is kept, but for the
empty value of a boolean attribute. -/
inductive Adapts (c : Char) (booleans : List String) (name : String) :
    AttrValue → List Tag → AttrValue → Prop where
  | parts (parts : List Part) : Adapts c booleans name (.parts parts) [] (.parts parts)
  | filled {text : String} {taken : List Tag} {parts : List Part} (sentinel : c ∈ text.toList)
      (shown : marks parts = fill c text.toList taken) :
      Adapts c booleans name (.plain text) taken (.parts parts)
  | flag (boolean : isBoolean booleans name = true) :
      Adapts c booleans name (.plain "") [] (.plain name)
  | plain {text : String} (absent : c ∉ text.toList)
      (kept : text = "" → isBoolean booleans name = false) :
      Adapts c booleans name (.plain text) [] (.plain text)

/-- Attributes as they are adapted, each with tags of its own, in their order. -/
inductive AdaptsAll (c : Char) (booleans : List String) :
    List (AttrName × AttrValue) → List Tag → Attrs → Prop where
  | nil : AdaptsAll c booleans [] [] []
  | cons {name : AttrName} {raw value : AttrValue} {rest : List (AttrName × AttrValue)}
      {taken more : List Tag} {attrs : Attrs}
      (first : Adapts c booleans name.flatten raw taken value)
      (later : AdaptsAll c booleans rest more attrs) :
      AdaptsAll c booleans ((name, raw) :: rest) (taken ++ more) ((name.flatten, value) :: attrs)

section Assign

variable {α β : Type} [BEq α] [LawfulBEq α] {name : α} {entries : List (α × β)}

theorem assign_of_notMem (value : β) (new : name ∉ entries.map (·.1)) :
    assign name value entries = entries ++ [(name, value)] := by
  induction entries with
  | nil => rfl
  | cons entry rest ih =>
    rw [List.map_cons, List.mem_cons, not_or] at new
    have other : (entry.1 == name) = false := beq_eq_false_iff_ne.mpr (Ne.symm new.1)
    simp [assign, other, ih new.2]

theorem mem_assign {value : β} {entry : α × β} (member : entry ∈ assign name value entries) :
    entry = (name, value) ∨ entry ∈ entries := by
  induction entries with
  | nil => exact .inl (List.mem_singleton.mp member)
  | cons first rest ih =>
    rw [assign] at member
    split at member
    next same =>
      rcases List.mem_cons.mp member with rfl | later
      · rw [eq_of_beq same]
        exact .inl rfl
      · exact .inr (List.mem_cons_of_mem _ later)
    next =>
      rcases List.mem_cons.mp member with rfl | later
      · exact .inr List.mem_cons_self
      · rcases ih later with here | there
        · exact .inl here
        · exact .inr (List.mem_cons_of_mem _ there)

/-- Assigning to a name that is there keeps the names, and any other name goes last. -/
theorem nodup_assign (distinct : (entries.map (·.1)).Nodup) (name : α) (value : β) :
    ((assign name value entries).map (·.1)).Nodup := by
  induction entries with
  | nil => simp [assign]
  | cons first rest ih =>
    obtain ⟨new, later⟩ := List.nodup_cons.mp distinct
    rw [assign]
    split
    next => exact distinct
    next other =>
      rw [List.map_cons]
      refine List.nodup_cons.mpr ⟨?_, ih later⟩
      intro member
      obtain ⟨entry, found, same⟩ := List.mem_map.mp member
      -- The first name is not the one assigned to, and no other entry had it before.
      rcases mem_assign found with rfl | there
      · exact other (beq_iff_eq.mpr same.symm)
      · exact new (List.mem_map.mpr ⟨entry, there, same⟩)

end Assign

section Attributes

variable {c : Char} {s : Store}

theorem adaptValue_draws (single : s.setup.sentinel = [c]) (name : String) (raw : AttrValue) :
    Draws (sentinelsOf c raw) s (fun _ => False)
      (fun taken value after =>
        SameButQueue s after ∧ Adapts c s.setup.booleans name raw taken value)
      (adaptValue name raw s) := by
  cases raw with
  | parts parts => exact .quiet rfl rfl ⟨⟨_, rfl⟩, .parts parts⟩
  | plain text =>
    have given : adaptValue name (.plain text) s =
        (if Text.occursIn s.setup.sentinel text.toList then do
          return .parts (← expand text.toList)
        else if text.isEmpty && isBoolean s.setup.booleans name then return .plain name
        else return .plain text : Build AttrValue) s := rfl
    by_cases sentinel : c ∈ text.toList
    · have occurs : Text.occursIn s.setup.sentinel text.toList = true := by
        rw [single]
        exact (Text.occursIn_singleton c _).mpr sentinel
      rw [given, if_pos occurs]
      refine Draws.bind (n := 0) (expand_draws single text.toList) ?_
      rintro taken parts after ⟨kept, shown⟩
      refine .quiet rfl rfl ⟨kept, ?_⟩
      rw [List.append_nil]
      exact .filled sentinel shown
    · have absent : ¬ Text.occursIn s.setup.sentinel text.toList = true := by
        rw [single, Text.occursIn_singleton]
        exact sentinel
      have none : sentinelsOf c (.plain text) = 0 := List.count_eq_zero.mpr sentinel
      rw [given, if_neg absent, none]
      by_cases flag : text.isEmpty && isBoolean s.setup.booleans name
      · obtain ⟨empty, boolean⟩ := Bool.and_eq_true_iff.mp flag
        obtain rfl : text = "" := String.isEmpty_iff.mp empty
        rw [if_pos flag]
        exact .quiet rfl rfl ⟨⟨_, rfl⟩, .flag boolean⟩
      · rw [if_neg flag]
        refine .quiet rfl rfl ⟨⟨_, rfl⟩, .plain sentinel ?_⟩
        rintro rfl
        simpa using flag

/-- Attributes are adapted one after the other, behind those that are adapted already. -/
theorem adaptAttributes_go_draws (single : s.setup.sentinel = [c]) (adapted : Attrs)
    (attrs : List (AttrName × AttrValue)) :
    Draws (sentinelsIn c attrs) s (fun _ => False)
      (fun taken result after => SameButQueue s after ∧
        ((adapted.map (·.1) ++ attrs.map (·.1.flatten)).Nodup →
          ∃ new, result = adapted ++ new ∧ AdaptsAll c s.setup.booleans attrs taken new))
      (adaptAttributes.go adapted attrs s) := by
  induction attrs generalizing adapted s with
  | nil => exact .quiet rfl rfl ⟨⟨_, rfl⟩, fun _ => ⟨[], (List.append_nil _).symm, .nil⟩⟩
  | cons attr rest ih =>
    obtain ⟨name, raw⟩ := attr
    refine Draws.bind (adaptValue_draws single name.flatten raw) ?_
    rintro taken value _ ⟨⟨queue, rfl⟩, adapts⟩
    refine (ih (s := { s with queue }) single (assign name.flatten value adapted)).imp ?_
    rintro more result last - ⟨⟨rest, same⟩, placed⟩
    refine ⟨⟨rest, same⟩, fun distinct => ?_⟩
    -- A name that is not there yet goes last, so the attributes keep their order.
    have new : name.flatten ∉ adapted.map (·.1) := by
      intro member
      exact (List.nodup_append.mp distinct).2.2 _ member _ List.mem_cons_self rfl
    rw [assign_of_notMem value new] at placed
    obtain ⟨behind, rfl, adaptsRest⟩ := placed (by simpa using distinct)
    exact ⟨(name.flatten, value) :: behind, by simp, .cons adapts adaptsRest⟩

theorem adaptAttributes_draws (single : s.setup.sentinel = [c])
    (attrs : List (AttrName × AttrValue)) :
    Draws (sentinelsIn c attrs) s (fun _ => False)
      (fun taken result after => SameButQueue s after ∧
        ((attrs.map (·.1.flatten)).Nodup → AdaptsAll c s.setup.booleans attrs taken result))
      (adaptAttributes attrs s) := by
  refine (adaptAttributes_go_draws single [] attrs).imp ?_
  rintro taken result after - ⟨kept, placed⟩
  refine ⟨kept, fun distinct => ?_⟩
  obtain ⟨new, rfl, adapts⟩ := placed distinct
  exact adapts

end Attributes

end Dom

end HtmlTemplate
