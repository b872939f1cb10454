import HtmlTemplate.Proofs.Dom.Parts

/-!
The parts of two texts in a row. Parts that a text expands to are settled by what they show, since
none of them is empty and no text follows a text. So a text that is cut in two expands to the parts
of its front with those of its back added one by one: if the cut falls inside a stretch of characters,
the last of the ones and the first of the others are one text, and otherwise nothing is joined.
-/

namespace HtmlTemplate.Dom

/-- The first part is a text. -/
def StartsText (parts : List Part) : Prop := ∃ value, parts.head? = some (.text value)

/-- The last part is a text. -/
def EndsText (parts : List Part) : Prop := ∃ value, parts.getLast? = some (.text value)

/-- A text starts with a character that is not the sentinel. -/
def StartsPlain (c : Char) (data : List Char) : Prop := ∃ d, data.head? = some d ∧ d ≠ c

/-- A text ends with a character that is not the sentinel. -/
def EndsPlain (c : Char) (data : List Char) : Prop := ∃ d, data.getLast? = some d ∧ d ≠ c

/-! Normal parts -/

section Normal

variable {parts front back : List Part}

theorem Normal.foldl_addMark (normal : Normal parts) : (marks parts).foldl addMark [] = parts := by
  have apart : Apart ([] ++ parts) := normal.apart
  rw [← foldl_addPart normal.solid, foldl_addPart_of_apart apart, List.nil_append]

theorem Normal.unique {parts others : List Part} (normal : Normal parts) (again : Normal others)
    (same : marks parts = marks others) : parts = others := by
  rw [← normal.foldl_addMark, same, again.foldl_addMark]

/-- What shows the same as two lists of parts in a row is the one with the parts of the other
added. -/
theorem Normal.eq_foldl_addPart (normal : Normal parts) (first : Normal front)
    (second : Normal back) (same : marks parts = marks front ++ marks back) :
    parts = back.foldl addPart front := by
  calc parts
    _ = (marks front ++ marks back).foldl addMark [] := by rw [← same, normal.foldl_addMark]
    _ = (marks back).foldl addMark front := by rw [List.foldl_append, first.foldl_addMark]
    _ = back.foldl addPart front := (foldl_addPart second.solid front).symm

theorem length_addPart_le (parts : List Part) (part : Part) :
    (addPart parts part).length ≤ parts.length + 1 := by
  rcases closed_or_text parts with closed | ⟨front, before, rfl⟩
  · rw [addPart_of_closed closed]
    simp
  · cases part with
    | tag tag => simp [addPart]
    | text value =>
      rw [addPart_text_text]
      simp

theorem length_foldl_addPart_le (parts more : List Part) :
    (more.foldl addPart parts).length ≤ parts.length + more.length := by
  induction more generalizing parts with
  | nil => simp
  | cons part rest ih =>
    have later := ih (addPart parts part)
    have step := length_addPart_le parts part
    simp only [List.foldl_cons, List.length_cons]
    omega

/-- Where a text meets a text the two become one part, so there is one less. -/
theorem length_foldl_addPart_lt (ends : EndsText front) (starts : StartsText back) :
    (back.foldl addPart front).length < front.length + back.length := by
  obtain ⟨before, last⟩ := ends
  obtain ⟨value, first⟩ := starts
  obtain ⟨rest, rfl⟩ : ∃ rest, back = .text value :: rest := by
    cases back with
    | nil => cases first
    | cons part rest =>
      cases Option.some.inj first
      exact ⟨rest, rfl⟩
  rw [List.foldl_cons, ← List.dropLast_append_getLast? _ last, addPart_text_text]
  have bound := length_foldl_addPart_le (front.dropLast ++ [.text (before ++ value)]) rest
  simp only [List.length_append, List.length_cons, List.length_nil] at bound ⊢
  omega

/-- Parts are added without a change just when no text meets a text. -/
theorem foldl_addPart_eq_append_iff (first : Apart front) (second : Apart back) :
    back.foldl addPart front = front ++ back ↔ ¬ (EndsText front ∧ StartsText back) := by
  constructor
  · rintro same ⟨ends, starts⟩
    have fewer := length_foldl_addPart_lt ends starts
    rw [same, List.length_append] at fewer
    exact Nat.lt_irrefl _ fewer
  · intro free
    apply foldl_addPart_of_apart
    apply List.isChain_append.mpr ⟨first, second, _⟩
    rintro left last right head before value rfl rfl
    exact free ⟨⟨before, last⟩, ⟨value, head⟩⟩

end Normal

/-! Where a text starts and ends -/

section Ends

variable {c : Char} {parts : List Part} {data : List Char} {taken : List Tag}

theorem startsText_iff_marks (solid : Solid parts) :
    StartsText parts ↔ ∃ d, (marks parts).head? = some (.char d) := by
  cases parts with
  | nil => simp [StartsText, marks]
  | cons part rest =>
    cases part with
    | tag tag => simp [StartsText, marks, partMarks]
    | text value =>
      -- a text that shows something has a first character
      have filled : value.toList ≠ [] := fun empty =>
        solid _ List.mem_cons_self (by simp [partMarks, empty])
      obtain ⟨d, others, chars⟩ := List.exists_cons_of_ne_nil filled
      simp [StartsText, marks, partMarks, chars]

theorem endsText_iff_marks (solid : Solid parts) :
    EndsText parts ↔ ∃ d, (marks parts).getLast? = some (.char d) := by
  rcases List.eq_nil_or_concat parts with rfl | ⟨front, part, rfl⟩
  · simp [EndsText, marks]
  · cases part with
    | tag tag => simp [EndsText, marks, partMarks]
    | text value =>
      have filled : value.toList ≠ [] := fun empty =>
        solid (.text value) (by simp) (by simp [partMarks, empty])
      obtain ⟨others, d, chars⟩ := (List.eq_nil_or_concat value.toList).resolve_left filled
      simp [EndsText, marks, partMarks, chars]

/-- A text that is filled starts with a character just when the text starts with no sentinel. -/
theorem head?_fill (all : taken.length = data.count c) :
    (∃ d, (fill c data taken).head? = some (.char d)) ↔ StartsPlain c data := by
  cases data with
  | nil => simp [fill, StartsPlain]
  | cons d rest =>
    by_cases same : d = c
    · subst same
      rw [List.count_cons_self] at all
      obtain ⟨tag, tags, rfl⟩ := List.exists_cons_of_length_eq_add_one all
      simp [fill, StartsPlain]
    · simp [fill, StartsPlain, same]

theorem getLast?_fill (all : taken.length = data.count c) :
    (∃ d, (fill c data taken).getLast? = some (.char d)) ↔ EndsPlain c data := by
  rcases List.eq_nil_or_concat data with rfl | ⟨front, d, rfl⟩
  · simp [fill, EndsPlain]
  · rw [List.concat_eq_append] at all ⊢
    by_cases same : d = c
    · subst same
      rcases List.eq_nil_or_concat taken with rfl | ⟨before, tag, rfl⟩
      · simp at all
      · rw [List.concat_eq_append] at all ⊢
        -- The last tag belongs to the last sentinel, so the others fill what is in front of it.
        have fewer : before.length = front.count d := by simpa using all
        rw [fill_append fewer]
        simp [fill, EndsPlain]
    · have none : taken.length = front.count c := by
        simpa [List.count_append, List.count_singleton, same] using all
      rw [← List.append_nil taken, fill_append none]
      simp [fill, EndsPlain, same]

theorem startsText_iff (normal : Normal parts) (shown : marks parts = fill c data taken)
    (all : taken.length = data.count c) : StartsText parts ↔ StartsPlain c data := by
  rw [startsText_iff_marks normal.solid, shown, head?_fill all]

theorem endsText_iff (normal : Normal parts) (shown : marks parts = fill c data taken)
    (all : taken.length = data.count c) : EndsText parts ↔ EndsPlain c data := by
  rw [endsText_iff_marks normal.solid, shown, getLast?_fill all]

end Ends

end HtmlTemplate.Dom
