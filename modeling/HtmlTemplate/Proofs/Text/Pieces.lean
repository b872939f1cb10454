import HtmlTemplate.Text.Pieces
import Mathlib.Data.List.Infix

/-!
Where one text occurs in another, and how a text is cut at each occurrence of another, or of a
character. Cutting and counting meet the same occurrences, those that a reader from the left meets
who passes each as a whole, and with the separators put back the pieces are the text.
-/

namespace HtmlTemplate.Text

theorem indexOf?_eq_none_iff (sought text : List Char) :
    indexOf? sought text = none ↔ ¬ sought <:+: text := by
  induction text with
  | nil => cases sought <;> simp [indexOf?]
  | cons c text ih =>
    rw [indexOf?, List.infix_cons_iff]
    by_cases front : sought.isPrefixOf (c :: text)
    · simp [front, List.isPrefixOf_iff_prefix.mp front]
    · have apart : ¬ sought <+: c :: text :=
        fun found => front (List.isPrefixOf_iff_prefix.mpr found)
      simp [front, apart, ih]

theorem occursIn_iff (sought text : List Char) : occursIn sought text = true ↔ sought <:+: text := by
  rw [occursIn, ← Option.ne_none_iff_isSome, ne_eq, indexOf?_eq_none_iff, not_not]

theorem occursIn_singleton (c : Char) (text : List Char) :
    occursIn [c] text = true ↔ c ∈ text := by
  rw [occursIn_iff, List.singleton_infix_iff]

section Separator

variable (sep : List Char)

/-- A separator that does not occur is not counted. -/
theorem countOf_of_not_occursIn {text : List Char} (absent : ¬ occursIn sep text = true) :
    countOf sep text = 0 := by
  induction text with
  | nil => rfl
  | cons c rest ih =>
    rw [occursIn, indexOf?] at absent
    split at absent
    · exact absurd rfl absent
    · rename_i apart
      have later : ¬ occursIn sep rest = true := by simpa [occursIn] using absent
      rw [countOf, pieces, piecesFrom, if_neg apart, List.length_modifyHead]
      exact ih later

theorem piecesFrom_ne_nil (skip : Nat) (text : List Char) : piecesFrom sep skip text ≠ [] := by
  fun_induction piecesFrom sep skip text with
  | case1 => simp
  | case2 _ _ _ ih => exact ih
  | case3 => simp
  | case4 c rest _ ih =>
    cases tail : piecesFrom sep 0 rest with
    | nil => exact absurd tail ih
    | cons piece others => simp

theorem length_pieces_eq (text : List Char) : (pieces sep text).length = countOf sep text + 1 := by
  have filled : 0 < (pieces sep text).length :=
    List.length_pos_iff.mpr (piecesFrom_ne_nil sep 0 text)
  rw [countOf]
  omega

/-- A text with one piece has no separator. -/
theorem eq_of_pieces_singleton {text piece : List Char} (one : pieces sep text = [piece]) :
    piece = text := by
  induction text generalizing piece with
  | nil =>
    cases one
    rfl
  | cons c rest ih =>
    rw [pieces, piecesFrom] at one
    split at one
    · exact absurd (List.cons.inj one).2 (piecesFrom_ne_nil sep _ rest)
    · cases tail : piecesFrom sep 0 rest with
      | nil => exact absurd tail (piecesFrom_ne_nil sep 0 rest)
      | cons first others =>
        rw [tail, List.modifyHead_cons] at one
        cases one
        rw [ih tail]

end Separator

/-! Reading from the left -/

/-- How often a separator is met when a text is read from the left. One that is met is passed as a
whole, so that the next can only start behind it; where none starts, one character is passed. -/
inductive Counts (sep : List Char) : List Char → Nat → Prop where
  | done : Counts sep [] 0
  | met {rest : List Char} {n : Nat} (later : Counts sep rest n) : Counts sep (sep ++ rest) (n + 1)
  | passed {c : Char} {rest : List Char} {n : Nat} (apart : ¬ sep <+: c :: rest)
      (later : Counts sep rest n) : Counts sep (c :: rest) n

section Counts

variable {sep : List Char}

/-- What is left of a separator is passed. -/
theorem piecesFrom_eq_drop (skip : Nat) (text : List Char) :
    piecesFrom sep skip text = pieces sep (text.drop skip) := by
  induction text generalizing skip with
  | nil => simp [pieces, piecesFrom]
  | cons c rest ih =>
    cases skip with
    | zero => rfl
    | succ skip => rw [piecesFrom, ih, List.drop_succ_cons]

theorem pieces_append_sep (filled : sep ≠ []) (rest : List Char) :
    pieces sep (sep ++ rest) = [] :: pieces sep rest := by
  obtain ⟨c, more, rfl⟩ := List.exists_cons_of_ne_nil filled
  have starts : (c :: more).isPrefixOf (c :: (more ++ rest)) = true :=
    List.isPrefixOf_iff_prefix.mpr (List.prefix_append (c :: more) rest)
  rw [pieces, List.cons_append, piecesFrom, if_pos starts, piecesFrom_eq_drop]
  simp

theorem pieces_cons_of_apart {c : Char} {rest : List Char} (apart : ¬ sep <+: c :: rest) :
    pieces sep (c :: rest) = (pieces sep rest).modifyHead (c :: ·) := by
  have starts : ¬ sep.isPrefixOf (c :: rest) = true :=
    fun found => apart (List.isPrefixOf_iff_prefix.mp found)
  rw [pieces, piecesFrom, if_neg starts, pieces]

/-- Every text can be read to its end. -/
theorem exists_counts (filled : sep ≠ []) (text : List Char) : ∃ n, Counts sep text n := by
  -- the separator is passed as a whole, so the induction is on the length of what is left
  induction size : text.length using Nat.strong_induction_on generalizing text with
  | _ length ih =>
    subst size
    cases text with
    | nil => exact ⟨0, .done⟩
    | cons c rest =>
      by_cases starts : sep <+: c :: rest
      · obtain ⟨behind, split⟩ := starts
        have shorter : behind.length < (c :: rest).length := by
          rw [← split, List.length_append]
          exact Nat.lt_add_of_pos_left (List.length_pos_iff.mpr filled)
        obtain ⟨n, later⟩ := ih _ shorter behind rfl
        exact ⟨n + 1, split ▸ .met later⟩
      · obtain ⟨n, later⟩ := ih rest.length (by simp) rest rfl
        exact ⟨n, .passed starts later⟩

/-- Reading a text and cutting it agree on the separators in it. -/
theorem Counts.length_pieces (filled : sep ≠ []) {text : List Char} {n : Nat}
    (counts : Counts sep text n) : (pieces sep text).length = n + 1 := by
  induction counts with
  | done => rfl
  | met later ih => rw [pieces_append_sep filled, List.length_cons, ih]
  | passed apart later ih => rw [pieces_cons_of_apart apart, List.length_modifyHead, ih]

theorem counts_countOf (filled : sep ≠ []) (text : List Char) :
    Counts sep text (countOf sep text) := by
  obtain ⟨n, counts⟩ := exists_counts filled text
  have same : countOf sep text = n := by
    rw [countOf, counts.length_pieces filled, Nat.add_sub_cancel]
  rw [same]
  exact counts

/-- The pieces of a text, with the separator between any two, are the text. -/
theorem intercalate_pieces (filled : sep ≠ []) (text : List Char) :
    sep.intercalate (pieces sep text) = text := by
  obtain ⟨n, counts⟩ := exists_counts filled text
  induction counts with
  | done => rfl
  | @met rest n later ih =>
    obtain ⟨piece, others, cut⟩ := List.exists_cons_of_ne_nil (piecesFrom_ne_nil sep 0 rest)
    rw [pieces] at ih
    rw [pieces_append_sep filled, pieces, cut, List.intercalate_cons_cons, ← cut, ih]
    simp
  | @passed c rest n apart later ih =>
    obtain ⟨piece, others, cut⟩ := List.exists_cons_of_ne_nil (piecesFrom_ne_nil sep 0 rest)
    rw [pieces, cut] at ih
    rw [pieces_cons_of_apart apart, pieces, cut, List.modifyHead_cons]
    cases others with
    | nil => simpa using ih
    | cons next others =>
      rw [List.intercalate_cons_cons] at ih ⊢
      rw [← ih]
      simp

end Counts

section Single

variable (c : Char) {d : Char} (text : List Char)

theorem pieces_cons_self : pieces [c] (c :: text) = [] :: pieces [c] text := by
  simp [pieces, piecesFrom]

theorem pieces_cons_of_ne (other : d ≠ c) :
    pieces [c] (d :: text) = (pieces [c] text).modifyHead (d :: ·) := by
  simp [pieces, piecesFrom, other.symm]

theorem length_pieces : (pieces [c] text).length = text.count c + 1 := by
  induction text with
  | nil => rfl
  | cons d text ih =>
    by_cases same : d = c
    · subst same
      rw [pieces_cons_self, List.length_cons, ih, List.count_cons_self]
    · rw [pieces_cons_of_ne c text same, List.length_modifyHead, ih, List.count_cons_of_ne same]

theorem countOf_singleton : countOf [c] text = text.count c := by
  rw [countOf, length_pieces, Nat.add_sub_cancel]

end Single

end HtmlTemplate.Text
