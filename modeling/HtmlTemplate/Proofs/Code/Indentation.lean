import Mathlib.Data.List.Basic

/-!
Reading lines by their indentation. Lines that stand one below the other form a forest: each line
has the lines of its block, and is followed by the lines on its own level. A forest is laid out with
each block four columns deeper than the line it belongs to, and is read back from that layout.
-/

namespace HtmlTemplate.Code

/-- Lines one below the other, each with the lines of its block. -/
inductive Forest (α : Type) where
  | nil
  | cons (line : α) (body rest : Forest α)

namespace Forest

variable {α β : Type}

def append : Forest α → Forest α → Forest α
  | .nil, back => back
  | .cons line body rest, back => .cons line body (rest.append back)

instance : Append (Forest α) := ⟨append⟩

def map (f : α → β) : Forest α → Forest β
  | .nil => .nil
  | .cons line body rest => .cons (f line) (body.map f) (rest.map f)

/-- The lines of a forest from top to bottom, each with its indentation. -/
def lines (indent : Nat) : Forest α → List (Nat × α)
  | .nil => []
  | .cons line body rest => (indent, line) :: (body.lines (indent + 4) ++ rest.lines indent)

/-- Exactly the lines that open a block have one. -/
def Headed (opens : α → Bool) : Forest α → Prop
  | .nil => True
  | .cons line body rest =>
    (opens line = true ↔ body ≠ .nil) ∧ body.Headed opens ∧ rest.Headed opens

theorem lines_append (front back : Forest α) (indent : Nat) :
    (front ++ back).lines indent = front.lines indent ++ back.lines indent := by
  induction front with
  | nil => rfl
  | cons line body rest _ ih =>
    show (indent, line) :: (body.lines (indent + 4) ++ (rest ++ back).lines indent) = _
    rw [ih, lines, List.cons_append, List.append_assoc]

theorem lines_map (f : α → β) (forest : Forest α) (indent : Nat) :
    (forest.map f).lines indent = (forest.lines indent).map fun line => (line.1, f line.2) := by
  induction forest generalizing indent with
  | nil => rfl
  | cons line body rest inner later => simp only [map, lines, inner, later, List.map_cons,
      List.map_append]

theorem Headed.append {opens : α → Bool} {front back : Forest α} (first : front.Headed opens)
    (second : back.Headed opens) : (front ++ back).Headed opens := by
  induction front with
  | nil => exact second
  | cons line body rest _ ih => exact ⟨first.1, first.2.1, ih first.2.2⟩

theorem Headed.map {opens : β → Bool} {f : α → β} {forest : Forest α}
    (headed : forest.Headed (opens ∘ f)) : (forest.map f).Headed opens := by
  induction forest with
  | nil => trivial
  | cons line body rest inner later =>
    refine ⟨headed.1.trans (not_congr ?_), inner headed.2.1, later headed.2.2⟩
    cases body <;> simp [Forest.map]

end Forest

section Reading

variable {α : Type} (opens : α → Bool)

/-- Reads lines at an indentation, up to a line that is less deep; gives also the lines from there
on. A line that opens a block is followed by deeper lines, which are its block; no other line is. A
block ends where a line has the indentation of the line it belongs to, or of one further out. -/
def readForest (indent : Nat) (lines : List (Nat × α)) :
    (fuel : Nat) → Option (Forest α × List (Nat × α))
  | 0 => none
  | fuel + 1 =>
    match lines with
    | [] => some (.nil, [])
    | (depth, line) :: rest =>
      if depth < indent then some (.nil, lines)
      else if depth > indent then none
      else if opens line then
        match rest with
        | [] => none
        | (inner, _) :: _ =>
          if inner ≤ indent then none
          else
            (readForest inner rest fuel).bind fun (body, rest) =>
              (readForest indent rest fuel).map fun (later, rest) => (.cons line body later, rest)
      else
        (readForest indent rest fuel).map fun (later, rest) => (.cons line .nil later, rest)

/-- Reads lines that start at the margin. -/
def readLines (lines : List (Nat × α)) : Option (Forest α) :=
  match readForest opens 0 lines (lines.length + 1) with
  | some (forest, []) => some forest
  | _ => none

variable {opens}

theorem readForest_outdented {indent fuel : Nat} {after : List (Nat × α)}
    (ends : ∀ line ∈ after.head?, line.1 < indent) :
    readForest opens indent after (fuel + 1) = some (.nil, after) := by
  cases after with
  | nil => rfl
  | cons line rest =>
    have less := ends line rfl
    simp only [readForest, if_pos less]

theorem readForest_line {indent fuel : Nat} {line : α} (plain : opens line = false)
    (rest : List (Nat × α)) :
    readForest opens indent ((indent, line) :: rest) (fuel + 1) =
      (readForest opens indent rest fuel).map
        fun (later, rest) => (.cons line .nil later, rest) := by
  simp [readForest, plain]

theorem readForest_block {indent inner fuel : Nat} {line first : α} {rest : List (Nat × α)}
    (header : opens line = true) (starts : rest.head? = some (inner, first))
    (deeper : indent < inner) :
    readForest opens indent ((indent, line) :: rest) (fuel + 1) =
      (readForest opens inner rest fuel).bind fun (body, rest) =>
        (readForest opens indent rest fuel).map
          fun (later, rest) => (.cons line body later, rest) := by
  cases rest with
  | nil => cases starts
  | cons second rest =>
    cases starts
    simp [readForest, header, Nat.not_le.mpr deeper]

/-- A forest is read back from its layout, up to a line that is less deep. -/
theorem readForest_lines {forest : Forest α} (headed : forest.Headed opens) (indent fuel : Nat)
    (after : List (Nat × α)) (ends : ∀ line ∈ after.head?, line.1 < indent)
    (enough : (forest.lines indent).length < fuel) :
    readForest opens indent (forest.lines indent ++ after) fuel = some (forest, after) := by
  induction forest generalizing indent fuel after with
  | nil =>
    obtain ⟨fuel, rfl⟩ := Nat.exists_eq_succ_of_ne_zero (Nat.ne_of_gt enough)
    exact readForest_outdented ends
  | cons line body rest inner later =>
    obtain ⟨heads, headedBody, headedRest⟩ := headed
    -- There is fuel for this line, and what is left is enough for the lines under and behind it.
    obtain ⟨fuel, rfl⟩ := Nat.exists_eq_succ_of_ne_zero (Nat.ne_of_gt (Nat.zero_lt_of_lt enough))
    simp only [Forest.lines, List.length_cons, List.length_append] at enough
    have readRest := later headedRest indent fuel after ends (by omega)
    cases body with
    | nil =>
      -- A line without a block is no header, so nothing is looked for under it.
      have plain : opens line = false := by
        rw [← Bool.not_eq_true, heads]
        exact not_not.mpr rfl
      show readForest opens indent ((indent, line) :: (rest.lines indent ++ after)) (fuel + 1) = _
      rw [readForest_line plain, readRest]
      rfl
    | cons first under beside =>
      have header : opens line = true := heads.mpr (by simp)
      -- Behind the block stands a line on the level of its header, or what ends that level.
      have outside : ∀ line ∈ (rest.lines indent ++ after).head?, line.1 < indent + 4 := by
        cases rest with
        | nil => exact fun line member => Nat.lt_add_right 4 (ends line member)
        | cons second under beside =>
          rintro _ ⟨⟩
          exact Nat.lt_add_of_pos_right (by decide)
      have readBody := inner headedBody (indent + 4) fuel (rest.lines indent ++ after) outside
        (by omega)
      rw [Forest.lines, List.cons_append, List.append_assoc,
        readForest_block header rfl (Nat.lt_add_of_pos_right (by decide)), readBody]
      show (readForest opens indent (rest.lines indent ++ after) fuel).map _ = _
      rw [readRest]
      rfl

theorem readLines_lines {forest : Forest α} (headed : forest.Headed opens) :
    readLines opens (forest.lines 0) = some forest := by
  have read := readForest_lines headed 0 ((forest.lines 0).length + 1) [] (by simp) (by omega)
  rw [List.append_nil] at read
  rw [readLines, read]

/-- A forest is known by its layout. -/
theorem Forest.eq_of_lines {first second : Forest α} (headedFirst : first.Headed opens)
    (headedSecond : second.Headed opens) (same : first.lines 0 = second.lines 0) :
    first = second := by
  have read := readLines_lines headedFirst
  rw [same, readLines_lines headedSecond] at read
  exact (Option.some.inj read).symm

end Reading

end HtmlTemplate.Code
