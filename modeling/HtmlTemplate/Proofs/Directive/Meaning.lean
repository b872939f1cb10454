import HtmlTemplate.Directive.Parse
import HtmlTemplate.Proofs.Directive.Grammar
import HtmlTemplate.Proofs.Sequence

/-!
What the texts of the grammar mean, and that parsing accepts exactly these texts with exactly this
meaning. Every other text is an error; the one kind of error that a text of the grammar can give is
a run of digits and points that is not a number.
-/

namespace HtmlTemplate.Directive

/-- A run of digits and points that is a number: it has a digit and at most one point. -/
def Numeric (digits : List Char) : Prop :=
  (∃ c ∈ digits, c.isDigit = true) ∧ digits.count '.' ≤ 1

instance (digits : List Char) : Decidable (Numeric digits) :=
  inferInstanceAs (Decidable (_ ∧ _))

/-- The number with the digits before and after the point. -/
def numberValue (digits : List Char) : Float :=
  Decimal.Parts.toFloat
    { whole := digits.takeWhile (· != '.')
      part := (digits.dropWhile (· != '.')).tail
      exponent := 0 }

/-- The expression that an operand stands for. -/
inductive Operand.Means : Operand → Expr → Prop
  | word (value : Bool) : Means (.word value) (.literal (.bool value))
  | quoted (inside : List Char) : Means (.quoted inside) (.literal (.str (String.ofList inside)))
  | number {digits : List Char} (numeric : Numeric digits) :
      Means (.number digits) (.literal (.float (numberValue digits)))
  | name (letters : List Char) : Means (.name letters) (.variable (String.ofList letters))

/-- A text without the white space at its two ends. -/
def Stripped (body text : List Char) : Prop :=
  ∃ before after, body = before ++ text ++ after ∧
    (∀ c ∈ before, Text.isBlank c = true) ∧ (∀ c ∈ after, Text.isBlank c = true) ∧
    (∀ c ∈ text.head?, Text.isBlank c = false) ∧ (∀ c ∈ text.getLast?, Text.isBlank c = false)

/-- The directive that a shape stands for. -/
inductive Shape.Means : Shape → Tag → Prop
  | ifs {condition : Operand} {e : Expr} (meaning : condition.Means e) :
      Means (.ifShape condition) (.ifTag e)
  | elifs {condition : Operand} {e : Expr} (meaning : condition.Means e) :
      Means (.elifShape condition) (.elifTag e)
  | elses : Means .elseShape .elseTag
  | endIfs : Means .endIfShape .endIfTag
  | expression {body : Operand} {e : Expr} (meaning : body.Means e) :
      Means (.expression body) (.expression e)
  | comment {body text : List Char} (stripped : Stripped body text) :
      Means (.comment body) (.comment (String.ofList text))

/-- A text of the grammar with its meaning. -/
def Reads (text : List Char) (tag : Tag) : Prop := ∃ shape, Fits shape text ∧ shape.Means tag

/-- The operand of a shape that has one. -/
def Shape.operand? : Shape → Option Operand
  | .ifShape condition => some condition
  | .elifShape condition => some condition
  | .expression body => some body
  | _ => none

/-- A text of the grammar but for its number, which is a run of digits and points that is none. -/
def Misnumbered (text digits : List Char) : Prop :=
  ∃ shape, Fits shape text ∧ shape.operand? = some (.number digits) ∧ ¬ Numeric digits

/-- A run of digits and points is all digits, or is cut at its first point. -/
theorem split_point {digits : List Char} (plain : ∀ c ∈ digits, c.isDigit = true ∨ c = '.') :
    (∀ c ∈ digits, c.isDigit = true) ∨ ∃ whole part, digits = whole ++ '.' :: part ∧
      (∀ c ∈ whole, c.isDigit = true) ∧ ∀ c ∈ part, c.isDigit = true ∨ c = '.' := by
  induction digits with
  | nil => simp
  | cons c digits ih =>
    have later : ∀ d ∈ digits, d.isDigit = true ∨ d = '.' :=
      fun d member => plain d (List.mem_cons_of_mem c member)
    rcases plain c (by simp) with digit | rfl
    · rcases ih later with all | ⟨whole, part, rfl, front, back⟩
      · left
        simpa [digit] using all
      · right
        exact ⟨c :: whole, part, rfl, by simpa [digit] using front, back⟩
    · right
      exact ⟨[], digits, rfl, by simp, later⟩

theorem point_stops {s : List Char} : ∀ c ∈ ('.' :: s).head?, c.isDigit = false := by
  simp

theorem ne_point_of_isDigit {digits : List Char} (all : ∀ c ∈ digits, c.isDigit = true) :
    ∀ c ∈ digits, (c != '.') = true := by
  intro c member
  have digit := all c member
  rw [bne_iff_ne]
  rintro rfl
  revert digit
  decide

theorem count_point_eq_zero {digits : List Char} (all : ∀ c ∈ digits, c.isDigit = true) :
    digits.count '.' = 0 := by
  apply List.count_eq_zero.mpr
  intro member
  simpa using ne_point_of_isDigit all '.' member

theorem exists_isDigit_iff {digits : List Char} (all : ∀ c ∈ digits, c.isDigit = true) :
    (∃ c ∈ digits, c.isDigit = true) ↔ digits.isEmpty = false := by
  cases digits with
  | nil => simp
  | cons c digits => simp [all c (by simp)]

theorem readPlain?_digits {digits : List Char} (all : ∀ c ∈ digits, c.isDigit = true) :
    Decimal.readPlain? digits = if Numeric digits then some (numberValue digits) else none := by
  have read : Decimal.readMantissa? digits =
      if digits.isEmpty then none else some (digits, [], []) := by
    have taken := List.takeWhile_eq_self_iff.mpr all
    have dropped := List.dropWhile_eq_nil_iff.mpr all
    simp [Decimal.readMantissa?, taken, dropped]
  have value : numberValue digits = Decimal.Parts.toFloat ⟨digits, [], 0⟩ := by
    have taken := List.takeWhile_eq_self_iff.mpr (ne_point_of_isDigit all)
    have dropped := List.dropWhile_eq_nil_iff.mpr (ne_point_of_isDigit all)
    simp [numberValue, taken, dropped]
  have numeric : Numeric digits ↔ digits.isEmpty = false := by
    simp [Numeric, exists_isDigit_iff all, count_point_eq_zero all]
  rw [value, if_congr numeric rfl rfl]
  cases empty : digits.isEmpty <;>
    simp [Decimal.readPlain?, Decimal.readParts?, read, empty, Decimal.readExponent?]

theorem readPlain?_point {whole part : List Char} (front : ∀ c ∈ whole, c.isDigit = true)
    (back : ∀ c ∈ part, c.isDigit = true) :
    Decimal.readPlain? (whole ++ '.' :: part) =
      if Numeric (whole ++ '.' :: part) then some (numberValue (whole ++ '.' :: part))
      else none := by
  have value : numberValue (whole ++ '.' :: part) = Decimal.Parts.toFloat ⟨whole, part, 0⟩ := by
    have stops : ∀ c ∈ ('.' :: part).head?, (c != '.') = false := by simp
    have taken := Text.takeWhile_run (ne_point_of_isDigit front) stops
    have dropped := Text.dropWhile_run (ne_point_of_isDigit front) stops
    simp [numberValue, taken, dropped]
  have numeric : Numeric (whole ++ '.' :: part) ↔ (whole.isEmpty && part.isEmpty) = false := by
    simp only [Numeric, List.mem_append, List.mem_cons, or_and_right, exists_or,
      List.count_append, List.count_cons_self, count_point_eq_zero front,
      count_point_eq_zero back, exists_isDigit_iff front, exists_isDigit_iff back]
    simp [imp_iff_not_or]
  have taken := Text.takeWhile_run front (point_stops (s := part))
  have dropped := Text.dropWhile_run front (point_stops (s := part))
  have takenPart := List.takeWhile_eq_self_iff.mpr back
  have droppedPart := List.dropWhile_eq_nil_iff.mpr back
  rw [value, if_congr numeric rfl rfl]
  cases empty : whole.isEmpty && part.isEmpty <;>
    simp [Decimal.readPlain?, Decimal.readParts?, Decimal.readMantissa?, taken, dropped, takenPart,
      droppedPart, empty, Decimal.readExponent?]

/-- A second point stands where only an exponent may start. -/
theorem readPlain?_points {whole middle more : List Char}
    (front : ∀ c ∈ whole, c.isDigit = true) (inner : ∀ c ∈ middle, c.isDigit = true) :
    Decimal.readPlain? (whole ++ '.' :: (middle ++ '.' :: more)) = none := by
  have taken := Text.takeWhile_run front (point_stops (s := middle ++ '.' :: more))
  have dropped := Text.dropWhile_run front (point_stops (s := middle ++ '.' :: more))
  have rest := Text.dropWhile_run inner (point_stops (s := more))
  simp [Decimal.readPlain?, Decimal.readParts?, Decimal.readMantissa?, taken, dropped, rest,
    Decimal.readExponent?]

/-- A run of digits and points is read as a number exactly when it is one. -/
theorem readPlain?_eq {digits : List Char} (plain : ∀ c ∈ digits, c.isDigit = true ∨ c = '.') :
    Decimal.readPlain? digits = if Numeric digits then some (numberValue digits) else none := by
  rcases split_point plain with all | ⟨whole, part, rfl, front, later⟩
  · exact readPlain?_digits all
  rcases split_point later with all | ⟨middle, more, rfl, inner, -⟩
  · exact readPlain?_point front all
  · have several : ¬ Numeric (whole ++ '.' :: (middle ++ '.' :: more)) := by
      intro numeric
      have count := numeric.2
      simp only [List.count_append, List.count_cons_self] at count
      omega
    rw [if_neg several, readPlain?_points front inner]

theorem Operand.expr_eq_ok_iff {operand : Operand} {text : List Char}
    (spelled : Spells operand text) (e : Expr) : operand.expr = .ok e ↔ operand.Means e := by
  constructor
  · intro given
    cases spelled with
    | yes => cases given; exact .word true
    | no => cases given; exact .word false
    | quoted => cases given; exact .quoted _
    | name => cases given; exact .name _
    | number filled plain =>
      simp only [Operand.expr, readPlain?_eq plain] at given
      split at given
      next x read =>
        obtain ⟨numeric, same⟩ := Option.ite_none_right_eq_some.mp read
        cases same
        cases given
        exact .number numeric
      · cases given
  · intro meaning
    cases meaning with
    | word | quoted | name => rfl
    | number numeric =>
      cases spelled with
      | number filled plain => simp [Operand.expr, readPlain?_eq plain, numeric]

theorem Operand.expr_eq_error_iff {operand : Operand} {text : List Char}
    (spelled : Spells operand text) (digits : List Char) :
    operand.expr = .error digits ↔ operand = .number digits ∧ ¬ Numeric digits := by
  cases spelled with
  | yes | no | quoted | name => simp [Operand.expr]
  | number filled plain =>
    simp only [Operand.expr, readPlain?_eq plain, Operand.number.injEq]
    by_cases numeric : Numeric text
    · simp only [if_pos numeric, reduceCtorEq, false_iff, not_and, not_not]
      rintro rfl
      exact numeric
    · simp only [if_neg numeric, Except.error.injEq]
      constructor
      · rintro rfl
        exact ⟨rfl, numeric⟩
      · exact And.left

theorem Stripped.eq_trim {body text : List Char} (stripped : Stripped body text) :
    text = Text.trim body := by
  obtain ⟨before, after, rfl, left, right, first, last⟩ := stripped
  unfold Text.trim
  cases text with
  | nil =>
    -- Nothing is left, so the first of the two passes already takes everything.
    have all : ∀ c ∈ before ++ [] ++ after, Text.isBlank c = true := by
      intro c member
      rcases List.mem_append.mp member with front | back
      · exact left c (by simpa using front)
      · exact right c back
    rw [List.dropWhile_eq_nil_iff.mpr all]
    rfl
  | cons c text =>
    have front : (before ++ (c :: text ++ after)).dropWhile Text.isBlank = c :: text ++ after :=
      Text.dropWhile_run left (by simpa using first)
    have back : (after.reverse ++ (c :: text).reverse).dropWhile Text.isBlank =
        (c :: text).reverse :=
      Text.dropWhile_run (by simpa using right) (by rw [List.head?_reverse]; exact last)
    rw [List.append_assoc, front, List.reverse_append, back, List.reverse_reverse]

theorem head_dropWhile_isBlank (s : List Char) :
    ∀ c ∈ (s.dropWhile Text.isBlank).head?, Text.isBlank c = false := by
  intro c first
  have stop := List.head?_dropWhile_not Text.isBlank s
  rwa [Option.mem_def.mp first] at stop

theorem stripped_trim (body : List Char) : Stripped body (Text.trim body) := by
  unfold Text.trim
  generalize inner : body.dropWhile Text.isBlank = rest
  have front : body.takeWhile Text.isBlank ++ rest = body := by
    rw [← inner, List.takeWhile_append_dropWhile]
  have back : (rest.reverse.dropWhile Text.isBlank).reverse ++
      (rest.reverse.takeWhile Text.isBlank).reverse = rest := by
    rw [← List.reverse_append, List.takeWhile_append_dropWhile, List.reverse_reverse]
  refine ⟨body.takeWhile Text.isBlank, (rest.reverse.takeWhile Text.isBlank).reverse, ?_, ?_, ?_,
    ?_, ?_⟩
  · rw [List.append_assoc, back, front]
  · exact fun c member => List.mem_takeWhile_imp member
  · exact fun c member => List.mem_takeWhile_imp (List.mem_reverse.mp member)
  · intro c first
    -- The second pass works from the other end and leaves the first character in place.
    have head : c ∈ rest.head? := by
      rw [← back, List.head?_append, Option.mem_def.mp first]
      rfl
    rw [← inner] at head
    exact head_dropWhile_isBlank body c head
  · intro c last
    rw [List.getLast?_reverse] at last
    exact head_dropWhile_isBlank rest.reverse c last

theorem Fits.operand_spelled {shape : Shape} {text : List Char} {operand : Operand}
    (fits : Fits shape text) (has : shape.operand? = some operand) :
    ∃ spelling, Spells operand spelling := by
  cases fits with
  | expression left spelled right => cases has; exact ⟨_, spelled⟩
  | comment => cases has
  | statement left stated right =>
    cases stated with
    | ifs spaces filled spelled | elifs spaces filled spelled => cases has; exact ⟨_, spelled⟩
    | elses | endIfs => cases has

theorem Shape.tag_eq_ok_iff {shape : Shape} {text : List Char} (fits : Fits shape text)
    (tag : Tag) : shape.tag = .ok tag ↔ shape.Means tag := by
  -- The operand is spelled somewhere in the text, which is all that its own meaning asks for.
  have means {operand : Operand} (has : shape.operand? = some operand) (e : Expr) :
      operand.expr = .ok e ↔ operand.Means e :=
    Operand.expr_eq_ok_iff (fits.operand_spelled has).choose_spec e
  constructor
  · intro given
    cases shape with
    | ifShape condition =>
      obtain ⟨e, operand, rfl⟩ := (map_eq_ok_iff _ _ _).mp given
      exact .ifs ((means rfl e).mp operand)
    | elifShape condition =>
      obtain ⟨e, operand, rfl⟩ := (map_eq_ok_iff _ _ _).mp given
      exact .elifs ((means rfl e).mp operand)
    | expression body =>
      obtain ⟨e, operand, rfl⟩ := (map_eq_ok_iff _ _ _).mp given
      exact .expression ((means rfl e).mp operand)
    | elseShape => cases given; exact .elses
    | endIfShape => cases given; exact .endIfs
    | comment body => cases given; exact .comment (stripped_trim body)
  · intro meaning
    cases meaning with
    | ifs meaning | elifs meaning | expression meaning =>
      exact (map_eq_ok_iff _ _ _).mpr ⟨_, (means rfl _).mpr meaning, rfl⟩
    | elses | endIfs => rfl
    | comment stripped => rw [stripped.eq_trim]; rfl

theorem Shape.tag_eq_error_iff {shape : Shape} {text : List Char} (fits : Fits shape text)
    (digits : List Char) :
    shape.tag = .error digits ↔ shape.operand? = some (.number digits) ∧ ¬ Numeric digits := by
  have fails {operand : Operand} (has : shape.operand? = some operand) :
      operand.expr = .error digits ↔ operand = .number digits ∧ ¬ Numeric digits :=
    Operand.expr_eq_error_iff (fits.operand_spelled has).choose_spec digits
  cases shape with
  | ifShape operand | elifShape operand | expression operand =>
    rw [Shape.tag, map_eq_error_iff, fails rfl, Shape.operand?, Option.some.injEq]
  | elseShape | endIfShape | comment => simp [Shape.tag, Shape.operand?]

/-- How parsing ends, by what the grammar says of the text. -/
theorem parse_cases (text : List Char) :
    (∃ shape, Fits shape text ∧ parse text = shape.tag.mapError (.badNumber text)) ∨
    (∃ front rest, Shaped front ∧ rest ≠ [] ∧ text = front ++ rest ∧
      parse text = .error (.trailing text front.length)) ∨
    ((∀ front rest, text = front ++ rest → ¬ Shaped front) ∧
      ∃ rule offset, parse text = .error (.invalid text rule offset)) := by
  unfold parse
  cases read : readShape? text with
  | none => exact .inr (.inr ⟨(readShape?_eq_none_iff text).mp read, _, _, rfl⟩)
  | some found =>
    obtain ⟨shape, rest⟩ := found
    obtain ⟨front, fits, rfl⟩ := (readShape?_eq_some_iff _ _ _).mp read
    cases rest with
    | nil =>
      left
      exact ⟨shape, by simpa using fits, rfl⟩
    | cons c rest =>
      right; left
      exact ⟨front, c :: rest, ⟨shape, fits⟩, by simp, rfl, by simp⟩

/-- Two readings of one text are the same reading. -/
theorem reads_unique {text : List Char} {a b : Tag} (readsA : Reads text a)
    (readsB : Reads text b) : a = b := by
  obtain ⟨shapeA, fitsA, meansA⟩ := readsA
  obtain ⟨shapeB, fitsB, meansB⟩ := readsB
  obtain ⟨-, rfl, -⟩ := fits_unique fitsA fitsB (rfl : text ++ [] = text ++ [])
  have tagA := (Shape.tag_eq_ok_iff fitsA a).mpr meansA
  rw [(Shape.tag_eq_ok_iff fitsA b).mpr meansB] at tagA
  exact (Except.ok.inj tagA).symm

theorem parse_eq_of_fits {shape : Shape} {text : List Char} (fits : Fits shape text) :
    parse text = shape.tag.mapError (.badNumber text) := by
  have read := fits.readShape?_append []
  rw [List.append_nil] at read
  simp [parse, read]

theorem parse_eq_ok_iff (text : List Char) (tag : Tag) :
    parse text = .ok tag ↔ Reads text tag := by
  constructor
  · intro parsed
    rcases parse_cases text with ⟨shape, fits, outcome⟩ | ⟨_, _, -, -, -, outcome⟩ |
      ⟨-, _, _, outcome⟩
    · refine ⟨shape, fits, (Shape.tag_eq_ok_iff fits tag).mp ?_⟩
      rw [outcome] at parsed
      cases given : shape.tag with
      | ok found => simpa [given, Except.mapError] using parsed
      | error digits => simp [given, Except.mapError] at parsed
    · rw [outcome] at parsed
      cases parsed
    · rw [outcome] at parsed
      cases parsed
  · rintro ⟨shape, fits, means⟩
    rw [parse_eq_of_fits fits, (Shape.tag_eq_ok_iff fits tag).mpr means]
    rfl

theorem parse_misnumbered {text digits : List Char} (misnumbered : Misnumbered text digits) :
    parse text = .error (.badNumber text digits) := by
  obtain ⟨shape, fits, number, bad⟩ := misnumbered
  rw [parse_eq_of_fits fits, (Shape.tag_eq_error_iff fits digits).mpr ⟨number, bad⟩]
  rfl

theorem reads_or_misnumbered {text : List Char} (shaped : Shaped text) :
    (∃ tag, Reads text tag) ∨ ∃ digits, Misnumbered text digits := by
  obtain ⟨shape, fits⟩ := shaped
  cases given : shape.tag with
  | ok tag => exact .inl ⟨tag, shape, fits, (Shape.tag_eq_ok_iff fits tag).mp given⟩
  | error digits => exact .inr ⟨digits, shape, fits, (Shape.tag_eq_error_iff fits digits).mp given⟩

/-- Parsing accepts the texts of the grammar, each with its one meaning, and no other text. What has
the form of a directive is refused only for its number; what does not is refused for its form. -/
theorem parse_accepts_exactly_grammar (text : List Char) :
    (∀ tag, parse text = .ok tag ↔ Reads text tag) ∧
    (∀ a b, Fits a text → Fits b text → a = b) ∧
    (∀ a b, Reads text a → Reads text b → a = b) ∧
    ((∀ tag, ¬ Reads text tag) → ∃ e, parse text = .error e) ∧
    (Shaped text → (∃ tag, Reads text tag) ∨ ∃ digits, Misnumbered text digits) ∧
    (∀ digits, Misnumbered text digits →
      ∃ e, parse text = .error e ∧ e = .badNumber text digits ∧ e.expected = "float" ∧
        e.location = (0, text.length) ∧ e.isTrailing = false) ∧
    (¬ Shaped text → (∃ offset, parse text = .error (.trailing text offset)) ∨
      ∃ rule offset, parse text = .error (.invalid text rule offset)) := by
  refine ⟨parse_eq_ok_iff text, ?_, fun a b => reads_unique, ?_, reads_or_misnumbered, ?_, ?_⟩
  · intro a b fitsA fitsB
    exact (fits_unique fitsA fitsB (rfl : text ++ [] = text ++ [])).2.1
  · intro unread
    cases parsed : parse text with
    | ok tag => exact absurd ((parse_eq_ok_iff text tag).mp parsed) (unread tag)
    | error e => exact ⟨e, rfl⟩
  · intro digits misnumbered
    exact ⟨_, parse_misnumbered misnumbered, rfl, rfl, rfl, rfl⟩
  · intro unshaped
    rcases parse_cases text with ⟨shape, fits, -⟩ | ⟨front, _, -, -, -, outcome⟩ |
      ⟨-, rule, offset, outcome⟩
    · exact absurd ⟨shape, fits⟩ unshaped
    · exact .inl ⟨_, outcome⟩
    · exact .inr ⟨rule, offset, outcome⟩

end HtmlTemplate.Directive
