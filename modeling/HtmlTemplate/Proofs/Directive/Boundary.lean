import HtmlTemplate.Proofs.Directive.Meaning

/-!
Where a directive ends does not depend on what stands around it. A text that goes on behind a
directive is an error that marks the end of the directive; since no directive is the beginning of
another, that end is the only one, and a directive is read the same with or without a text behind
it.
-/

namespace HtmlTemplate.Directive

theorem shaped_prefix_unique {a b restA restB : List Char} (shapedA : Shaped a) (shapedB : Shaped b)
    (same : a ++ restA = b ++ restB) : a = b := by
  obtain ⟨shapeA, fitsA⟩ := shapedA
  obtain ⟨shapeB, fitsB⟩ := shapedB
  exact (fits_unique fitsA fitsB same).1

theorem parse_shaped_append {d rest : List Char} (shaped : Shaped d) (filled : rest ≠ []) :
    parse (d ++ rest) = .error (.trailing (d ++ rest) d.length) := by
  obtain ⟨shape, fits⟩ := shaped
  simp [parse, fits.readShape?_append rest, filled]

/-- The errors of a text that is shaped, or that does not start with a shaped text. -/
theorem isTrailing_eq_false {text : List Char} {e : DirectiveError}
    (whole : ∀ front rest, text = front ++ rest → Shaped front → rest = [])
    (failed : parse text = .error e) : e.isTrailing = false := by
  rcases parse_cases text with ⟨shape, fits, outcome⟩ | ⟨front, rest, shaped, filled, cut, -⟩ |
    ⟨-, rule, offset, outcome⟩
  · rw [outcome] at failed
    cases given : shape.tag with
    | ok tag => simp [given, Except.mapError] at failed
    | error digits =>
      rw [given] at failed
      cases failed
      rfl
  · exact absurd (whole front rest cut shaped) filled
  · rw [outcome] at failed
    cases failed
    rfl

theorem parse_trailing_iff (text : List Char) :
    (∃ e, parse text = .error e ∧ e.isTrailing = true) ↔
      ∃ front rest, text = front ++ rest ∧ rest ≠ [] ∧ Shaped front := by
  constructor
  · rintro ⟨e, failed, trailing⟩
    by_contra unmarked
    have whole : ∀ front rest, text = front ++ rest → Shaped front → rest = [] := by
      intro front rest cut shaped
      by_contra filled
      exact unmarked ⟨front, rest, cut, filled, shaped⟩
    rw [isTrailing_eq_false whole failed] at trailing
    cases trailing
  · rintro ⟨front, rest, rfl, filled, shaped⟩
    exact ⟨_, parse_shaped_append shaped filled, rfl⟩

theorem parseFront_shaped_append {d : List Char} (shaped : Shaped d) (rest : List Char) :
    parseFront (d ++ rest) = (parse d).map (·, d.length) := by
  cases rest with
  | nil =>
    rw [List.append_nil, parseFront]
    cases parsed : parse d with
    | ok tag => rfl
    | error e =>
      -- Only an error about what follows is acted on, and nothing follows here.
      have settled : e.isTrailing = false := by
        apply isTrailing_eq_false _ parsed
        intro front rest cut shapedFront
        have same := shaped_prefix_unique shaped shapedFront (by rw [List.append_nil]; exact cut)
        simpa [same] using cut
      cases e with
      | trailing => cases settled
      | invalid | badNumber => rfl
  | cons c rest =>
    have failed := parse_shaped_append shaped (List.cons_ne_nil c rest)
    simp [parseFront, failed]

/-- The directive at an offset is read as it is read by itself. -/
theorem bound_shaped {d : List Char} (shaped : Shaped d) (before after : List Char) :
    bound (before ++ d ++ after) before.length =
      (parse d).map (·, before.length + d.length) := by
  rw [bound, List.append_assoc, List.drop_left, parseFront_shaped_append shaped]
  cases parse d <;> rfl

theorem bound_unshaped {text : List Char} {position : Nat}
    (unshaped : ∀ front rest, text.drop position = front ++ rest → ¬ Shaped front) :
    ∃ e, bound text position = .error e ∧ e.isTrailing = false := by
  rcases parse_cases (text.drop position) with ⟨shape, fits, -⟩ | ⟨front, rest, shaped, -, cut, -⟩ |
    ⟨-, rule, offset, outcome⟩
  · exact absurd ⟨shape, fits⟩ (unshaped _ [] (List.append_nil _).symm)
  · exact absurd shaped (unshaped front rest cut)
  · refine ⟨.invalid (text.drop position) rule offset, ?_, rfl⟩
    simp [bound, parseFront, outcome, Except.map]

/-- The end of a directive is found in the same place whatever stands around it. -/
theorem boundary_context_independent :
    (∀ text, (∃ e, parse text = .error e ∧ e.isTrailing = true) ↔
      ∃ front rest, text = front ++ rest ∧ rest ≠ [] ∧ Shaped front) ∧
    (∀ text e, parse text = .error e → e.isTrailing = true →
      ∃ front rest, text = front ++ rest ∧ rest ≠ [] ∧ Shaped front ∧
        e.expected = "end" ∧ e.location.2 - 1 = front.length ∧
        ∀ other more, text = other ++ more → Shaped other → other = front) ∧
    (∀ a b, Shaped a → Shaped b → a <+: b → a = b) ∧
    (∀ before d after, Shaped d →
      (∃ tag, parse d = .ok tag ∧ bound (before ++ d ++ after) before.length =
        .ok (tag, before.length + d.length)) ∨
      (∃ digits, Misnumbered d digits ∧ parse d = .error (.badNumber d digits) ∧
        bound (before ++ d ++ after) before.length = .error (.badNumber d digits))) ∧
    (∀ text position, (∀ front rest, text.drop position = front ++ rest → ¬ Shaped front) →
      ∃ e, bound text position = .error e ∧ e.isTrailing = false) := by
  refine ⟨parse_trailing_iff, ?_, ?_, ?_, fun text position => bound_unshaped⟩
  · intro text e failed trailing
    obtain ⟨front, rest, rfl, filled, shaped⟩ := (parse_trailing_iff text).mp ⟨e, failed, trailing⟩
    rw [parse_shaped_append shaped filled] at failed
    -- The error is now known, and its place is the length of the directive.
    cases failed
    refine ⟨front, rest, rfl, filled, shaped, rfl, rfl, ?_⟩
    intro other more cut shapedOther
    exact (shaped_prefix_unique shaped shapedOther cut).symm
  · rintro a b shapedA shapedB ⟨rest, rfl⟩
    exact shaped_prefix_unique shapedA shapedB (List.append_nil _).symm
  · intro before d after shaped
    rw [bound_shaped shaped]
    rcases reads_or_misnumbered shaped with ⟨tag, reads⟩ | ⟨digits, misnumbered⟩
    · have parsed := (parse_eq_ok_iff d tag).mpr reads
      exact .inl ⟨tag, parsed, by rw [parsed]; rfl⟩
    · have failed := parse_misnumbered misnumbered
      exact .inr ⟨digits, misnumbered, failed, by rw [failed]; rfl⟩

end HtmlTemplate.Directive
