import HtmlTemplate.Proofs.Dom.Parts
import HtmlTemplate.Proofs.Dom.Price
import HtmlTemplate.Settings

/-!
Expansion splits a text faithfully. Nothing of the text is lost: with the placeholder written again
for each directive the parts are the text. And nothing of the queue is lost: the directives among
the parts are those that were popped, as many as there are placeholders in the text, in their order.
Empty stretches of text are left out, which moves no directive.
-/

namespace HtmlTemplate.Dom

/-- The directive of a part that is one. -/
def tagOfPart? : Part → Option Tag
  | .text _ => none
  | .tag tag => some tag

/-- The directives among parts. -/
def tagsOf (parts : List Part) : List Tag := parts.filterMap tagOfPart?

/-- What a part stands for in a text where directives are marked by a placeholder. -/
def partSource (sentinel : List Char) : Part → List Char
  | .text value => value.toList
  | .tag _ => sentinel

/-- The text that parts were split from. -/
def sourceOf (sentinel : List Char) (parts : List Part) : List Char :=
  parts.flatMap (partSource sentinel)

section Marks

/-! What is told of parts here can be read off from their marks, and of these it is known how they
are woven. -/

def tagOfMark? : Mark → Option Tag
  | .tag tag => some tag
  | _ => none

def markSource (sentinel : List Char) : Mark → List Char
  | .char c => [c]
  | .tag _ => sentinel
  | .node _ => []

variable (sentinel : List Char)

theorem filterMap_tagOfMark?_chars (text : List Char) :
    (text.map Mark.char).filterMap tagOfMark? = [] := by
  simp [List.filterMap_map, Function.comp_def, tagOfMark?]

theorem flatMap_markSource_chars (text : List Char) :
    (text.map Mark.char).flatMap (markSource sentinel) = text := by
  simp [List.flatMap_map, markSource]

theorem tagsOf_eq_marks (parts : List Part) : tagsOf parts = (marks parts).filterMap tagOfMark? := by
  induction parts with
  | nil => rfl
  | cons part rest ih =>
    rw [tagsOf] at ih
    rw [tagsOf, marks, List.flatMap_cons, List.filterMap_append, ← marks, ← ih]
    cases part with
    | text value =>
      rw [partMarks, filterMap_tagOfMark?_chars]
      rfl
    | tag tag => rfl

theorem sourceOf_eq_marks (parts : List Part) :
    sourceOf sentinel parts = (marks parts).flatMap (markSource sentinel) := by
  rw [sourceOf, marks, List.flatMap_assoc]
  congr 1
  funext part
  cases part with
  | text value => exact (flatMap_markSource_chars sentinel value.toList).symm
  | tag tag => simp [partSource, partMarks, markSource]

/-- The tags that are woven between pieces, if there is one for each place between two. -/
theorem filterMap_tagOfMark?_weave {pieces : List (List Char)} {tags : List Tag}
    (all : pieces.length = tags.length + 1) : (weave pieces tags).filterMap tagOfMark? = tags := by
  induction tags generalizing pieces with
  | nil =>
    obtain ⟨piece, rfl⟩ := List.length_eq_one_iff.mp all
    exact filterMap_tagOfMark?_chars piece
  | cons tag tags ih =>
    obtain ⟨piece, rest, rfl⟩ := List.exists_cons_of_length_eq_add_one all
    have later := @ih rest (by simpa using all)
    have first : tagOfMark? (.tag tag) = some tag := rfl
    rw [weave, List.filterMap_append, filterMap_tagOfMark?_chars, List.filterMap_cons_some first,
      later, List.nil_append]

/-- Where tags are woven between pieces, the placeholder stood between them. -/
theorem flatMap_markSource_weave {pieces : List (List Char)} {tags : List Tag}
    (all : pieces.length = tags.length + 1) :
    (weave pieces tags).flatMap (markSource sentinel) = sentinel.intercalate pieces := by
  induction tags generalizing pieces with
  | nil =>
    obtain ⟨piece, rfl⟩ := List.length_eq_one_iff.mp all
    simp [weave, flatMap_markSource_chars]
  | cons tag tags ih =>
    obtain ⟨piece, others, rfl⟩ := List.exists_cons_of_length_eq_add_one all
    have left : others.length = tags.length + 1 := by simpa using all
    have later := ih left
    -- there is a tag, so a piece follows, and the sentinel stands in front of it
    obtain ⟨next, rest, rfl⟩ := List.exists_cons_of_length_eq_add_one left
    rw [weave, List.flatMap_append, flatMap_markSource_chars, List.flatMap_cons, later,
      List.intercalate_cons_cons, markSource, List.append_assoc]

end Marks

section Shape

variable {parts : List Part}

theorem Solid.empty_notMem (solid : Solid parts) : .text "" ∉ parts := by
  intro member
  exact solid _ member rfl

/-- Two texts never stand side by side. -/
theorem Apart.ne_append (apart : Apart parts) (front back : List Part) (before value : String) :
    parts ≠ front ++ .text before :: .text value :: back := by
  rintro rfl
  obtain ⟨-, behind, -⟩ := List.isChain_append.mp apart
  exact (List.isChain_cons_cons.mp behind).1 before value rfl rfl

end Shape

/-- A text is split at each placeholder that a reader from the left meets, and this is also how
often placeholders are counted. If the queue has a tag for each of them, so many tags are popped,
and these are the directives among the parts, in their order. No part is an empty text, no text
follows a text, and with the placeholder in the place of each tag the parts are the text. If the
queue has fewer tags, all of them are popped, and the message gives the number of the first
placeholder without a tag. -/
theorem expand_splits_faithfully (settings : Settings) (placeholder : String) (s : Store)
    (text : List Char) (filled : placeholder ≠ "")
    (chosen : s.setup.sentinel = placeholder.toList) :
    Text.Counts placeholder.toList text (settings.count text (some placeholder)) ∧
    (settings.count text (some placeholder) ≤ s.queue.size →
      ∃ parts queue, expand text s = .ok parts { s with queue } ∧
        s.queue.Pops (tagsOf parts) queue ∧
        (tagsOf parts).length = settings.count text (some placeholder) ∧
        .text "" ∉ parts ∧
        (∀ front back before value, parts ≠ front ++ .text before :: .text value :: back) ∧
        sourceOf placeholder.toList parts = text) ∧
    (s.queue.size < settings.count text (some placeholder) →
      ∃ e queue, expand text s = .error (.placeholder e) { s with queue } ∧
        s.queue.Pops s.queue.tags queue ∧
        queue.tags = [] ∧
        e.message = "Placeholder #" ++ Decimal.writeInt (queue.popped + 1 : Nat)
          ++ " has no directive; the template contains more sentinel characters than directives") := by
  have marked : s.setup.sentinel ≠ [] := by simpa [chosen] using filled
  have count : settings.count text (some placeholder) = Text.countOf s.setup.sentinel text := by
    simp [Settings.count, chosen, filled]
  rw [count, ← chosen]
  have pops := s.queue.pops_skip (Text.countOf s.setup.sentinel text)
  refine ⟨Text.counts_countOf marked text, ?_, ?_⟩
  · intro enough
    have all := List.length_take_of_le enough
    obtain ⟨parts, run, joined, shown⟩ := expand_enough marked pops all
    -- there is one piece more than there are tags, so the tags stand between the pieces
    have between : (Text.pieces s.setup.sentinel text).length = (s.queue.tags.take _).length + 1 :=
      (Text.length_pieces_eq s.setup.sentinel text).trans (congrArg (· + 1) all.symm)
    have tags := (tagsOf_eq_marks parts).trans (shown ▸ filterMap_tagOfMark?_weave between)
    refine ⟨parts, _, run, ?_, ?_, ?_, ?_, ?_⟩
    · rw [tags]
      exact pops
    · rw [tags]
      exact all
    · exact (solid_joinPieces joined).empty_notMem
    · exact (apart_joinPieces joined).ne_append
    · rw [sourceOf_eq_marks, shown, flatMap_markSource_weave _ between,
        Text.intercalate_pieces marked]
  · intro few
    have none := Queue.tags_skip_of_few few
    have fewer :=
      (List.length_take_le' (Text.countOf s.setup.sentinel text) s.queue.tags).trans_lt few
    have taken : s.queue.tags.take (Text.countOf s.setup.sentinel text) = s.queue.tags :=
      List.take_of_length_le (Nat.le_of_lt few)
    refine ⟨_, _, expand_short marked pops none fewer, ?_, none, rfl⟩
    rwa [taken] at pops

/-- An empty tree with one directive, marked by a doubled letter. -/
def doubled : Store :=
  { setup := { sentinel := ['a', 'a'], booleans := [], ns := none }
    queue := .ofList [.expression (.variable "title")] }

/-- Three letters in a row hold one placeholder, not two, and the letter that is left over stays. In
four letters there are two placeholders, for which there is one directive. -/
theorem expand_splits_overlapping :
    "aa" ≠ "" ∧ doubled.setup.sentinel = "aa".toList ∧
      ({} : Settings).count ['a', 'a', 'a', 'b'] (some "aa") ≤ doubled.queue.size ∧
      doubled.queue.size < ({} : Settings).count ['a', 'a', 'a', 'a'] (some "aa") ∧
      (∃ parts queue, expand ['a', 'a', 'a', 'b'] doubled = .ok parts { doubled with queue } ∧
        (tagsOf parts).length = 1 ∧ sourceOf "aa".toList parts = ['a', 'a', 'a', 'b']) ∧
      ∃ e queue, expand ['a', 'a', 'a', 'a'] doubled =
          .error (.placeholder e) { doubled with queue } ∧
        doubled.queue.Pops doubled.queue.tags queue := by
  have filled : "aa" ≠ "" := by decide
  obtain ⟨-, enough, -⟩ :=
    expand_splits_faithfully {} "aa" doubled ['a', 'a', 'a', 'b'] filled rfl
  obtain ⟨-, -, few⟩ := expand_splits_faithfully {} "aa" doubled ['a', 'a', 'a', 'a'] filled rfl
  have one : ({} : Settings).count ['a', 'a', 'a', 'b'] (some "aa") ≤ doubled.queue.size := by
    decide +kernel
  have two : doubled.queue.size < ({} : Settings).count ['a', 'a', 'a', 'a'] (some "aa") := by
    decide +kernel
  refine ⟨filled, rfl, one, two, ?_, ?_⟩
  · obtain ⟨parts, queue, run, -, count, -, -, source⟩ := enough one
    exact ⟨parts, queue, run, count.trans (by decide +kernel), source⟩
  · obtain ⟨e, queue, run, pops, -, -⟩ := few two
    exact ⟨e, queue, run, pops⟩

end HtmlTemplate.Dom
