import HtmlTemplate.Directive.Shape
import HtmlTemplate.Proofs.Text.Scan

/-!
The grammar of directives, and that reading a shape off the front of a text follows it exactly.
The readers are greedy and take the first alternative that succeeds. Nothing is lost that way: a
directive ends with a mark that none of its parts can run over, so its text is read as the same
shape whatever stands behind it.
-/

namespace HtmlTemplate.Directive

/-- Spaces and line breaks, in any number. -/
def Spaces (s : List Char) : Prop := ∀ c ∈ s, c = ' ' ∨ c = '\n'

/-- The texts that spell an expression. A number is any run of digits and points here. -/
inductive Spells : Operand → List Char → Prop
  | yes {word : String} (known : word = "true" ∨ word = "True") : Spells (.word true) word.toList
  | no {word : String} (known : word = "false" ∨ word = "False") : Spells (.word false) word.toList
  | quoted {quote : Char} {inside : List Char} (kind : quote = '\'' ∨ quote = '"')
      (filled : inside ≠ []) (unbroken : quote ∉ inside) :
      Spells (.quoted inside) (quote :: inside ++ [quote])
  | number {digits : List Char} (filled : digits ≠ [])
      (plain : ∀ c ∈ digits, c.isDigit = true ∨ c = '.') : Spells (.number digits) digits
  | name {first : Char} {rest : List Char} (letter : first.isAlpha = true)
      (plain : ∀ c ∈ rest, c.isAlphanum = true ∨ c = '_')
      (free : String.ofList (first :: rest) ∉ ["true", "false", "True", "False"]) :
      Spells (.name (first :: rest)) (first :: rest)

/-- The texts that stand between the marks of a statement. -/
inductive States : Shape → List Char → Prop
  | ifs {gap text : List Char} {condition : Operand} (spaces : Spaces gap) (filled : gap ≠ [])
      (spelled : Spells condition text) :
      States (.ifShape condition) ("if".toList ++ gap ++ text)
  | elifs {gap text : List Char} {condition : Operand} (spaces : Spaces gap) (filled : gap ≠ [])
      (spelled : Spells condition text) :
      States (.elifShape condition) ("elif".toList ++ gap ++ text)
  | elses : States .elseShape "else".toList
  | endIfs : States .endIfShape "endif".toList

/-- The texts of a directive. In a comment the closing mark stands at the end only. -/
inductive Fits : Shape → List Char → Prop
  | expression {before text after : List Char} {body : Operand} (left : Spaces before)
      (spelled : Spells body text) (right : Spaces after) :
      Fits (.expression body) (['{', '{'] ++ before ++ text ++ after ++ ['}', '}'])
  | statement {before text after : List Char} {shape : Shape} (left : Spaces before)
      (stated : States shape text) (right : Spaces after) :
      Fits shape (['{', '%'] ++ before ++ text ++ after ++ ['%', '}'])
  | comment {body : List Char}
      (last : ∀ before after, body ++ ['#', '}'] = before ++ ['#', '}'] ++ after → after = []) :
      Fits (.comment body) (['{', '#'] ++ body ++ ['#', '}'])

/-- The texts that have the form of a directive. -/
def Shaped (text : List Char) : Prop := ∃ shape, Fits shape text

theorem isSpace_iff (c : Char) : isSpace c = true ↔ c = ' ' ∨ c = '\n' := by
  simp [isSpace]

theorem readFixed?_eq_some_iff (fixed s rest : List Char) :
    readFixed? fixed s = some rest ↔ s = fixed ++ rest := by
  unfold readFixed?
  rw [Option.ite_none_right_eq_some, List.isPrefixOf_iff_prefix, List.prefix_iff_eq_append]
  constructor
  · rintro ⟨front, after⟩
    rw [← front, Option.some.inj after]
  · rintro rfl
    simp

theorem readFixed?_append (fixed rest : List Char) :
    readFixed? fixed (fixed ++ rest) = some rest :=
  (readFixed?_eq_some_iff fixed _ rest).mpr rfl

theorem readFixed?_of_ne {a b : Char} {fixed s : List Char} (differ : (a == b) = false) :
    readFixed? (a :: fixed) (b :: s) = none := by
  simp only [readFixed?, List.isPrefixOf, differ, Bool.false_and, Bool.false_eq_true, if_false]

theorem exists_spaces_skip (s : List Char) : ∃ gap, Spaces gap ∧ s = gap ++ skip s := by
  refine ⟨s.takeWhile isSpace, ?_, List.takeWhile_append_dropWhile.symm⟩
  intro c member
  exact (isSpace_iff c).mp (List.mem_takeWhile_imp member)

theorem skip_append_text {gap text : List Char} (spaces : Spaces gap)
    (starts : ∀ c ∈ text.head?, isSpace c = false) : skip (gap ++ text) = text :=
  Text.dropWhile_run (fun c member => (isSpace_iff c).mpr (spaces c member)) starts

theorem readSpace?_append {gap text : List Char} (spaces : Spaces gap) (filled : gap ≠ [])
    (starts : ∀ c ∈ text.head?, isSpace c = false) : readSpace? (gap ++ text) = some text := by
  cases gap with
  | nil => exact absurd rfl filled
  | cons c gap =>
    have first : isSpace c = true := (isSpace_iff c).mpr (spaces c (by simp))
    have others : Spaces gap := fun d member => spaces d (List.mem_cons_of_mem c member)
    simp [readSpace?, first, skip_append_text others starts]

theorem readSpace?_sound {s rest : List Char} (read : readSpace? s = some rest) :
    ∃ gap, Spaces gap ∧ gap ≠ [] ∧ s = gap ++ rest := by
  cases s with
  | nil => simp [readSpace?] at read
  | cons c s =>
    simp only [readSpace?, Option.ite_none_right_eq_some, Option.some.injEq] at read
    obtain ⟨first, rfl⟩ := read
    obtain ⟨gap, spaces, whole⟩ := exists_spaces_skip s
    refine ⟨c :: gap, ?_, by simp, congrArg (c :: ·) whole⟩
    intro d member
    rcases List.mem_cons.mp member with rfl | later
    · exact (isSpace_iff d).mp first
    · exact spaces d later

/-- Whether no expression goes on at the front of a text. -/
def Ends (rest : List Char) : Prop :=
  ∀ c ∈ rest.head?, isNamePart c = false ∧ isNumberPart c = false

theorem ends_of_spaces {gap mark rest : List Char} (spaces : Spaces gap)
    (marked : mark.head? = some '}' ∨ mark.head? = some '%') : Ends (gap ++ mark ++ rest) := by
  intro c first
  cases gap with
  | nil =>
    obtain ⟨d, mark, rfl⟩ := List.exists_cons_of_ne_nil (l := mark) (by rintro rfl; simp at marked)
    simp only [List.head?_cons, Option.some.injEq, List.nil_append, List.cons_append,
      Option.mem_def] at marked first
    rcases marked with rfl | rfl <;> subst first <;> decide
  | cons d gap =>
    simp only [List.cons_append, List.head?_cons, Option.mem_def, Option.some.injEq] at first
    rcases spaces d (by simp) with rfl | rfl <;> subst first <;> decide

theorem Ends.name {rest : List Char} (ends : Ends rest) : endsName rest = true := by
  cases rest with
  | nil => rfl
  | cons c rest => simp [endsName, (ends c (by simp)).1]

theorem endsName_dropWhile (s : List Char) : endsName (s.dropWhile isNamePart) = true := by
  have stop := List.head?_dropWhile_not isNamePart s
  generalize s.dropWhile isNamePart = rest at stop
  cases rest with
  | nil => rfl
  | cons c rest => simpa [endsName] using stop

theorem mem_boolWords {word : String} {value : Bool} (known : (word, value) ∈ boolWords) :
    (word = "true" ∧ value = true) ∨ (word = "false" ∧ value = false) ∨
      (word = "True" ∧ value = true) ∨ (word = "False" ∧ value = false) := by
  simpa [boolWords] using known

/-- A word of the list is read where no name goes on behind it. -/
theorem readBool?_word {word : String} {value : Bool} {rest : List Char}
    (known : (word, value) ∈ boolWords) (ends : endsName rest = true) :
    readBool? (word.toList ++ rest) = some (.word value, rest) := by
  rcases mem_boolWords known with ⟨rfl, rfl⟩ | ⟨rfl, rfl⟩ | ⟨rfl, rfl⟩ | ⟨rfl, rfl⟩
  · simp only [readBool?, boolWords, List.findSome?_cons, readFixed?_append, ends, if_true]
  · have first : readFixed? "true".toList ("false".toList ++ rest) = none := readFixed?_of_ne rfl
    simp only [readBool?, boolWords, List.findSome?_cons, readFixed?_append, ends, first, if_true]
  · have first : readFixed? "true".toList ("True".toList ++ rest) = none := readFixed?_of_ne rfl
    have second : readFixed? "false".toList ("True".toList ++ rest) = none := readFixed?_of_ne rfl
    simp only [readBool?, boolWords, List.findSome?_cons, readFixed?_append, ends, first, second,
      if_true]
  · have first : readFixed? "true".toList ("False".toList ++ rest) = none := readFixed?_of_ne rfl
    have second : readFixed? "false".toList ("False".toList ++ rest) = none := readFixed?_of_ne rfl
    have third : readFixed? "True".toList ("False".toList ++ rest) = none := readFixed?_of_ne rfl
    simp only [readBool?, boolWords, List.findSome?_cons, readFixed?_append, ends, first, second,
      third, if_true]

theorem readBool?_sound {s rest : List Char} {operand : Operand}
    (read : readBool? s = some (operand, rest)) :
    ∃ text, Spells operand text ∧ s = text ++ rest := by
  obtain ⟨⟨word, value⟩, known, found⟩ := List.exists_of_findSome?_eq_some read
  dsimp only at found
  split at found
  next after fixed =>
    obtain ⟨-, same⟩ := Option.ite_none_right_eq_some.mp found
    cases same
    refine ⟨word.toList, ?_, (readFixed?_eq_some_iff _ _ _).mp fixed⟩
    rcases mem_boolWords known with ⟨rfl, rfl⟩ | ⟨rfl, rfl⟩ | ⟨rfl, rfl⟩ | ⟨rfl, rfl⟩
    · exact .yes (.inl rfl)
    · exact .no (.inl rfl)
    · exact .yes (.inr rfl)
    · exact .no (.inr rfl)
  · cases found

theorem readBool?_none {first : Char} {s : List Char} (other : first ∉ ['t', 'f', 'T', 'F']) :
    readBool? (first :: s) = none := by
  simp only [List.mem_cons, List.not_mem_nil, or_false, not_or] at other
  obtain ⟨t, f, t', f'⟩ := other
  simp [readBool?, boolWords, readFixed?, Ne.symm t, Ne.symm f, Ne.symm t', Ne.symm f']

/-- A name that is read to its end is a word of the list only if it is that word. -/
theorem readBool?_name {first : Char} {letters rest : List Char} (letter : first.isAlpha = true)
    (plain : ∀ c ∈ letters, isNamePart c = true) (ends : endsName rest = true)
    (free : String.ofList (first :: letters) ∉ ["true", "false", "True", "False"]) :
    readBool? (first :: letters ++ rest) = none := by
  have inside : ∀ c ∈ first :: letters, isNamePart c = true := by
    intro c member
    rcases List.mem_cons.mp member with rfl | later
    · simp [isNamePart, Char.isAlphanum, letter]
    · exact plain c later
  have stops {after : List Char} (ends : endsName after = true) :
      ∀ c ∈ after.head?, isNamePart c = false := by
    cases after <;> simp_all [endsName]
  apply List.findSome?_eq_none_iff.mpr
  rintro ⟨word, value⟩ known
  dsimp only
  split
  next after fixed =>
    rw [readFixed?_eq_some_iff] at fixed
    apply if_neg
    intro stopped
    -- The name and the word are both all that can be read as a name here.
    have same : first :: letters = word.toList := by
      have parts : ∀ c ∈ word.toList, isNamePart c = true := by
        rw [← List.all_eq_true]
        rcases mem_boolWords known with ⟨rfl, -⟩ | ⟨rfl, -⟩ | ⟨rfl, -⟩ | ⟨rfl, -⟩ <;> rfl
      rw [← Text.takeWhile_run inside (stops ends), fixed, Text.takeWhile_run parts (stops stopped)]
    apply free
    rw [same, String.ofList_toList]
    rcases mem_boolWords known with ⟨rfl, -⟩ | ⟨rfl, -⟩ | ⟨rfl, -⟩ | ⟨rfl, -⟩ <;> simp
  · rfl

theorem readBetween?_append {quote : Char} {inside rest : List Char} (filled : inside ≠ [])
    (unbroken : quote ∉ inside) :
    readBetween? quote (quote :: inside ++ [quote] ++ rest) = some (.quoted inside, rest) := by
  have within : ∀ c ∈ inside, (c != quote) = true := by
    intro c member
    have : c ≠ quote := fun same => unbroken (same ▸ member)
    simpa using this
  have stops : ∀ c ∈ (quote :: rest).head?, (c != quote) = false := by simp
  have front := Text.takeWhile_run within stops
  have back := Text.dropWhile_run within stops
  obtain ⟨c, inside, rfl⟩ := List.exists_cons_of_ne_nil filled
  simp only [readBetween?, List.cons_append, List.append_assoc, List.nil_append] at front back ⊢
  rw [if_pos trivial, front, back]

theorem readBetween?_sound {quote : Char} {s rest : List Char} {operand : Operand}
    (kind : quote = '\'' ∨ quote = '"') (read : readBetween? quote s = some (operand, rest)) :
    ∃ text, Spells operand text ∧ s = text ++ rest := by
  cases s with
  | nil => simp [readBetween?] at read
  | cons c s =>
    simp only [readBetween?, Option.ite_none_right_eq_some] at read
    obtain ⟨rfl, read⟩ := read
    split at read
    next d inside e after front back =>
      cases read
      have unbroken : c ∉ s.takeWhile (· != c) := fun member => by
        simpa using List.mem_takeWhile_imp member
      have closing : e = c := by
        have := List.head?_dropWhile_not (· != c) s
        simpa [back] using this
      refine ⟨_, .quoted kind ?_ unbroken, ?_⟩
      · simp [front]
      · have whole := List.takeWhile_append_dropWhile (p := (· != c)) (l := s)
        rw [back, closing] at whole
        simp [whole]
    · cases read

theorem readString?_append {quote : Char} {inside : List Char} (rest : List Char)
    (kind : quote = '\'' ∨ quote = '"') (filled : inside ≠ []) (unbroken : quote ∉ inside) :
    readString? (quote :: inside ++ [quote] ++ rest) = some (.quoted inside, rest) := by
  have between : readBetween? quote (quote :: inside ++ [quote] ++ rest) =
      some (.quoted inside, rest) := readBetween?_append filled unbroken
  rcases kind with rfl | rfl
  · simp only [readString?, between]
    simp [readBetween?]
  · simp only [readString?, between, Option.some_or]

theorem readString?_none {first : Char} {s : List Char} (single : first ≠ '\'')
    (double : first ≠ '"') : readString? (first :: s) = none := by
  simp [readString?, readBetween?, single, double]

theorem readString?_sound {s rest : List Char} {operand : Operand}
    (read : readString? s = some (operand, rest)) :
    ∃ text, Spells operand text ∧ s = text ++ rest := by
  rcases Option.or_eq_some_iff.mp read with double | ⟨-, single⟩
  · exact readBetween?_sound (.inr rfl) double
  · exact readBetween?_sound (.inl rfl) single

theorem readNumber?_sound {s rest : List Char} {operand : Operand}
    (read : readNumber? s = some (operand, rest)) :
    ∃ text, Spells operand text ∧ s = text ++ rest := by
  unfold readNumber? at read
  split at read
  · cases read
  next filled =>
    cases read
    refine ⟨_, .number filled ?_, List.takeWhile_append_dropWhile.symm⟩
    intro c member
    simpa [isNumberPart] using List.mem_takeWhile_imp member

theorem readNumber?_append {digits rest : List Char} (filled : digits ≠ [])
    (plain : ∀ c ∈ digits, isNumberPart c = true) (ends : Ends rest) :
    readNumber? (digits ++ rest) = some (.number digits, rest) := by
  have stops : ∀ c ∈ rest.head?, isNumberPart c = false := fun c first => (ends c first).2
  unfold readNumber?
  rw [Text.takeWhile_run plain stops, Text.dropWhile_run plain stops]
  cases digits with
  | nil => exact absurd rfl filled
  | cons => rfl

theorem readLiteral?_sound {s rest : List Char} {operand : Operand}
    (read : readLiteral? s = some (operand, rest)) :
    ∃ text, Spells operand text ∧ s = text ++ rest := by
  rcases Option.or_eq_some_iff.mp read with read | ⟨-, number⟩
  · rcases Option.or_eq_some_iff.mp read with word | ⟨-, string⟩
    · exact readBool?_sound word
    · exact readString?_sound string
  · exact readNumber?_sound number

/-- The expression at the front of a text is spelled by what is read of it. -/
theorem readOperand?_sound {s rest : List Char} {operand : Operand}
    (read : readOperand? s = some (operand, rest)) :
    ∃ text, Spells operand text ∧ s = text ++ rest := by
  rcases Option.or_eq_some_iff.mp read with literal | ⟨unread, named⟩
  · exact readLiteral?_sound literal
  cases s with
  | nil => simp [readName?] at named
  | cons first s =>
    simp only [readName?, Option.ite_none_right_eq_some, Option.some.injEq, Prod.mk.injEq] at named
    obtain ⟨letter, rfl, rfl⟩ := named
    have whole : first :: s = (first :: s.takeWhile isNamePart) ++ s.dropWhile isNamePart := by
      simp
    refine ⟨_, .name letter ?_ ?_, whole⟩
    · intro c member
      simpa [isNamePart] using List.mem_takeWhile_imp member
    · -- A name that is one of the words would have been read as that word.
      intro word
      have known :
          ∃ value, (String.ofList (first :: s.takeWhile isNamePart), value) ∈ boolWords := by
        simp only [List.mem_cons, List.not_mem_nil, or_false] at word
        rcases word with same | same | same | same <;> simp [same, boolWords]
      obtain ⟨value, known⟩ := known
      have reads := readBool?_word known (endsName_dropWhile s)
      rw [String.toList_ofList, ← whole] at reads
      simp [readLiteral?, reads] at unread

theorem isNumberPart_of_isAlpha {c : Char} (letter : c.isAlpha = true) :
    isNumberPart c = false := by
  have digit : c.isDigit = false := by
    rw [Bool.eq_false_iff]
    intro digit
    have below : c.toNat ≤ 57 := (Char.isDigit_iff_toNat.mp digit).2
    -- The test for a letter, as it unfolds: two ranges of code points, both above the digits.
    have range : (decide (c.val ≥ 'A'.val ∧ c.val ≤ 'Z'.val) ||
        c.val ≥ 'a'.val && c.val ≤ 'z'.val) = true := letter
    simp only [Bool.or_eq_true, Bool.and_eq_true, decide_eq_true_eq, ge_iff_le,
      UInt32.le_iff_toNat_le] at range
    have upper : 'A'.val.toNat = 65 := rfl
    have lower : 'a'.val.toNat = 97 := rfl
    rw [Char.toNat] at below
    omega
  have point : c ≠ '.' := by
    rintro rfl
    revert letter
    decide
  simp [isNumberPart, digit, point]

theorem readName?_append {first : Char} {letters rest : List Char}
    (letter : first.isAlpha = true) (plain : ∀ c ∈ letters, isNamePart c = true)
    (ends : Ends rest) :
    readName? (first :: letters ++ rest) = some (.name (first :: letters), rest) := by
  have stops : ∀ c ∈ rest.head?, isNamePart c = false := fun c head => (ends c head).1
  simp only [readName?, List.cons_append]
  rw [Text.takeWhile_run plain stops, Text.dropWhile_run plain stops,
    if_pos (show isNameStart first = true from letter)]

/-- The text of an expression is read back where no expression goes on behind it. -/
theorem readOperand?_append {operand : Operand} {text rest : List Char}
    (spelled : Spells operand text) (ends : Ends rest) :
    readOperand? (text ++ rest) = some (operand, rest) := by
  -- The readers are tried in order, so each case also says why those before its own find nothing.
  cases spelled with
  | @yes word known =>
    have member : (word, true) ∈ boolWords := by
      rcases known with rfl | rfl <;> simp [boolWords]
    simp [readOperand?, readLiteral?, readBool?_word member ends.name]
  | @no word known =>
    have member : (word, false) ∈ boolWords := by
      rcases known with rfl | rfl <;> simp [boolWords]
    simp [readOperand?, readLiteral?, readBool?_word member ends.name]
  | @quoted quote inside kind filled unbroken =>
    have string := readString?_append rest kind filled unbroken
    have word : readBool? (quote :: inside ++ [quote] ++ rest) = none := by
      rcases kind with rfl | rfl <;> exact readBool?_none (by decide)
    simp only [readOperand?, readLiteral?, word, string, Option.none_or, Option.some_or]
  | number filled plain =>
    have parts : ∀ c ∈ text, isNumberPart c = true := by
      intro c member
      simpa [isNumberPart] using plain c member
    have number := readNumber?_append filled parts ends
    obtain ⟨c, digits, rfl⟩ := List.exists_cons_of_ne_nil filled
    have kind := plain c (by simp)
    have word : readBool? (c :: digits ++ rest) = none := by
      apply readBool?_none
      rintro member
      simp only [List.mem_cons, List.not_mem_nil, or_false] at member
      rcases member with rfl | rfl | rfl | rfl <;> revert kind <;> decide
    have string : readString? (c :: digits ++ rest) = none := by
      apply readString?_none <;> rintro rfl <;> revert kind <;> decide
    simp only [readOperand?, readLiteral?, word, string, number, Option.none_or, Option.some_or]
  | @name first letters letter plain free =>
    have parts : ∀ c ∈ letters, isNamePart c = true := by
      intro c member
      simpa [isNamePart] using plain c member
    have word := readBool?_name letter parts ends.name free
    have string : readString? (first :: letters ++ rest) = none := by
      apply readString?_none <;> rintro rfl <;> revert letter <;> decide
    have number : readNumber? (first :: letters ++ rest) = none := by
      simp [readNumber?, isNumberPart_of_isAlpha letter]
    simp only [readOperand?, readLiteral?, word, string, number,
      readName?_append letter parts ends, Option.none_or]

theorem Spells.starts {operand : Operand} {text : List Char} (spelled : Spells operand text)
    (rest : List Char) : ∀ c ∈ (text ++ rest).head?, isSpace c = false := by
  have letter_not_space {c : Char} (letter : c.isAlpha = true) : isSpace c = false := by
    by_contra space
    rcases (isSpace_iff c).mp (by simpa using space) with rfl | rfl <;> revert letter <;> decide
  intro c first
  cases spelled with
  | yes known => rcases known with rfl | rfl <;> (cases first; rfl)
  | no known => rcases known with rfl | rfl <;> (cases first; rfl)
  | quoted kind => rcases kind with rfl | rfl <;> (cases first; rfl)
  | number filled plain =>
    obtain ⟨d, digits, rfl⟩ := List.exists_cons_of_ne_nil filled
    cases first
    by_contra space
    have kind := plain c (by simp)
    rcases (isSpace_iff c).mp (by simpa using space) with rfl | rfl <;> revert kind <;> decide
  | name letter => cases first; exact letter_not_space letter

theorem readConditional?_append {keyword : String} {gap text rest : List Char}
    {condition : Operand} (spaces : Spaces gap) (filled : gap ≠ [])
    (spelled : Spells condition text) (ends : Ends rest) :
    readConditional? keyword (keyword.toList ++ gap ++ text ++ rest) = some (condition, rest) := by
  have fixed : readFixed? keyword.toList (keyword.toList ++ gap ++ text ++ rest) =
      some (gap ++ (text ++ rest)) := by
    simp only [List.append_assoc, readFixed?_append]
  simp only [readConditional?, fixed, Option.bind_eq_bind, Option.bind_some,
    readSpace?_append spaces filled (spelled.starts rest), readOperand?_append spelled ends]

theorem readConditional?_sound {keyword : String} {s rest : List Char} {condition : Operand}
    (read : readConditional? keyword s = some (condition, rest)) :
    ∃ gap text, Spaces gap ∧ gap ≠ [] ∧ Spells condition text ∧
      s = keyword.toList ++ gap ++ text ++ rest := by
  simp only [readConditional?, Option.bind_eq_bind, Option.bind_eq_some_iff] at read
  obtain ⟨afterWord, fixed, afterSpace, space, operand⟩ := read
  obtain ⟨gap, spaces, filled, rfl⟩ := readSpace?_sound space
  obtain ⟨text, spelled, rfl⟩ := readOperand?_sound operand
  refine ⟨gap, text, spaces, filled, spelled, ?_⟩
  rw [(readFixed?_eq_some_iff _ _ _).mp fixed]
  simp

theorem States.starts {shape : Shape} {text : List Char} (stated : States shape text)
    (rest : List Char) : ∀ c ∈ (text ++ rest).head?, isSpace c = false := by
  intro c first
  cases stated <;> cases first <;> rfl

theorem readStatement?_append {shape : Shape} {text rest : List Char}
    (stated : States shape text) (ends : Ends rest) :
    readStatement? (text ++ rest) = some (shape, rest) := by
  have no_if (s : List Char) : readConditional? "if" ('e' :: s) = none := by
    simp [readConditional?, readFixed?]
  cases stated with
  | ifs spaces filled spelled =>
    simp only [readStatement?, readConditional?_append spaces filled spelled ends]
  | @elifs gap spelling condition spaces filled spelled =>
    have first : readConditional? "if" ("elif".toList ++ gap ++ spelling ++ rest) = none := no_if _
    simp only [readStatement?, first, readConditional?_append spaces filled spelled ends]
  | elses => simp [readStatement?, readConditional?, readFixed?]
  | endIfs => simp [readStatement?, readConditional?, readFixed?]

theorem readStatement?_sound {s rest : List Char} {shape : Shape}
    (read : readStatement? s = some (shape, rest)) :
    ∃ text, States shape text ∧ s = text ++ rest := by
  unfold readStatement? at read
  split at read
  next condition after conditional =>
    cases read
    obtain ⟨gap, text, spaces, filled, spelled, rfl⟩ := readConditional?_sound conditional
    exact ⟨_, .ifs spaces filled spelled, rfl⟩
  · split at read
    next condition after conditional =>
      cases read
      obtain ⟨gap, text, spaces, filled, spelled, rfl⟩ := readConditional?_sound conditional
      exact ⟨_, .elifs spaces filled spelled, rfl⟩
    · split at read
      next after fixed =>
        cases read
        exact ⟨_, .elses, (readFixed?_eq_some_iff _ _ _).mp fixed⟩
      · obtain ⟨after, fixed, same⟩ := Option.map_eq_some_iff.mp read
        cases same
        exact ⟨_, .endIfs, (readFixed?_eq_some_iff _ _ _).mp fixed⟩

theorem readComment?_sound {s body rest : List Char} (read : readComment? s = some (body, rest)) :
    s = body ++ ['#', '}'] ++ rest ∧
      ∀ before after, body ++ ['#', '}'] = before ++ ['#', '}'] ++ after → after = [] := by
  fun_induction readComment? s generalizing body with
  | case1 => cases read
  | case2 after =>
    cases read
    refine ⟨rfl, fun before after whole => ?_⟩
    have size := congrArg List.length whole
    simp at size
    exact List.length_eq_zero_iff.mp (by omega)
  | case3 c s open_ ih =>
    obtain ⟨⟨inner, after⟩, found, same⟩ := Option.map_eq_some_iff.mp read
    cases same
    obtain ⟨rfl, last⟩ := ih found
    refine ⟨rfl, fun before after whole => ?_⟩
    cases before with
    | nil =>
      -- The mark would stand at the very front, which the reader has ruled out.
      simp only [List.cons_append, List.nil_append, List.cons.injEq] at whole
      refine absurd ?_ (open_ (after ++ rest) whole.1)
      rw [whole.2]
      rfl
    | cons d before =>
      simp only [List.cons_append, List.cons.injEq] at whole
      exact last before after whole.2

theorem readComment?_append {body : List Char} (rest : List Char)
    (last : ∀ before after, body ++ ['#', '}'] = before ++ ['#', '}'] ++ after → after = []) :
    readComment? (body ++ ['#', '}'] ++ rest) = some (body, rest) := by
  induction body with
  | nil => rfl
  | cons c body ih =>
    have inner : ∀ before after, body ++ ['#', '}'] = before ++ ['#', '}'] ++ after →
        after = [] := by
      intro before after whole
      exact last (c :: before) after (congrArg (c :: ·) whole)
    -- A mark that starts here would be one more before the last, with something left behind it.
    have open_ : ∀ after, c = '#' → body ++ ['#', '}'] ++ rest = '}' :: after → False := by
      rintro after rfl closing
      obtain ⟨more, whole⟩ : ∃ more, body ++ ['#', '}'] = '}' :: more := by
        cases body with
        | nil => cases closing
        | cons d body => exact ⟨body ++ ['#', '}'], by rw [(List.cons.inj closing).1]; rfl⟩
      have none_left := last [] more (congrArg ('#' :: ·) whole)
      rw [none_left] at whole
      simpa using congrArg List.length whole
    rw [List.cons_append, List.cons_append, readComment?.eq_3 _ _ open_, ih inner]
    rfl

theorem mark_starts {mark rest : List Char}
    (marked : mark.head? = some '}' ∨ mark.head? = some '%') :
    ∀ c ∈ (mark ++ rest).head?, isSpace c = false := by
  cases mark with
  | nil => simp at marked
  | cons d mark =>
    intro c first
    cases first
    rcases marked with same | same <;> cases same <;> rfl

/-- What is read between two marks, with spaces around it, is what stands there. -/
theorem readMarked_iff {α : Type} {read : List Char → Option (α × List Char)}
    {Written : α → List Char → Prop} (opening closing : List Char)
    (sound : ∀ {s a rest}, read s = some (a, rest) → ∃ text, Written a text ∧ s = text ++ rest)
    (complete : ∀ {a text rest}, Written a text → Ends rest →
      read (text ++ rest) = some (a, rest))
    (starts : ∀ {a text}, Written a text → ∀ rest, ∀ c ∈ (text ++ rest).head?, isSpace c = false)
    (marked : closing.head? = some '}' ∨ closing.head? = some '%') (s rest : List Char) (a : α) :
    (∃ inner, s = opening ++ inner ∧ ∃ afterText, read (skip inner) = some (a, afterText) ∧
        skip afterText = closing ++ rest) ↔
      ∃ before text after, Spaces before ∧ Written a text ∧ Spaces after ∧
        s = opening ++ before ++ text ++ after ++ closing ++ rest := by
  constructor
  · rintro ⟨inner, rfl, afterText, found, closes⟩
    obtain ⟨text, written, whole⟩ := sound found
    obtain ⟨before, left, front⟩ := exists_spaces_skip inner
    obtain ⟨after, right, back⟩ := exists_spaces_skip afterText
    have parts : inner = before ++ (text ++ (after ++ (closing ++ rest))) := by
      rw [← closes, ← back, ← whole, ← front]
    exact ⟨before, text, after, left, written, right, by rw [parts]; simp⟩
  · rintro ⟨before, text, after, left, written, right, rfl⟩
    -- The closing mark is what keeps the reader from running past the text.
    have ends : Ends (after ++ closing ++ rest) := ends_of_spaces right marked
    refine ⟨before ++ (text ++ (after ++ closing ++ rest)), by simp, after ++ closing ++ rest,
      ?_, ?_⟩
    · rw [skip_append_text left (starts written _), complete written ends]
    · rw [List.append_assoc, skip_append_text right (mark_starts marked)]

theorem readStatementTag?_eq_some_iff (s rest : List Char) (shape : Shape) :
    readStatementTag? s = some (shape, rest) ↔
      ∃ before text after, Spaces before ∧ States shape text ∧ Spaces after ∧
        s = ['{', '%'] ++ before ++ text ++ after ++ ['%', '}'] ++ rest := by
  rw [← readMarked_iff _ _ readStatement?_sound readStatement?_append States.starts (.inr rfl)]
  simp only [readStatementTag?, Option.bind_eq_bind, Option.bind_eq_some_iff, Prod.exists,
    Option.some.injEq, Prod.mk.injEq, readFixed?_eq_some_iff]
  constructor
  · rintro ⟨inner, whole, shape, afterText, found, closed, closes, rfl, rfl⟩
    exact ⟨inner, whole, afterText, found, closes⟩
  · rintro ⟨inner, whole, afterText, found, closes⟩
    exact ⟨inner, whole, shape, afterText, found, rest, closes, rfl, rfl⟩

theorem readExpressionTag?_eq_some_iff (s rest : List Char) (shape : Shape) :
    readExpressionTag? s = some (shape, rest) ↔
      ∃ body, shape = .expression body ∧ ∃ before text after,
        Spaces before ∧ Spells body text ∧ Spaces after ∧
        s = ['{', '{'] ++ before ++ text ++ after ++ ['}', '}'] ++ rest := by
  simp only [← readMarked_iff ['{', '{'] ['}', '}'] readOperand?_sound readOperand?_append
    Spells.starts (.inl rfl)]
  simp only [readExpressionTag?, Option.bind_eq_bind, Option.bind_eq_some_iff, Prod.exists,
    Option.some.injEq, Prod.mk.injEq, readFixed?_eq_some_iff]
  constructor
  · rintro ⟨inner, whole, body, afterText, found, closed, closes, rfl, rfl⟩
    exact ⟨body, rfl, inner, whole, afterText, found, closes⟩
  · rintro ⟨body, rfl, inner, whole, afterText, found, closes⟩
    exact ⟨inner, whole, body, afterText, found, rest, closes, rfl, rfl⟩

theorem readCommentTag?_eq_some_iff (s rest : List Char) (shape : Shape) :
    readCommentTag? s = some (shape, rest) ↔
      ∃ body, shape = .comment body ∧ s = ['{', '#'] ++ body ++ ['#', '}'] ++ rest ∧
        ∀ before after, body ++ ['#', '}'] = before ++ ['#', '}'] ++ after → after = [] := by
  simp only [readCommentTag?, Option.bind_eq_bind, Option.bind_eq_some_iff, Prod.exists,
    Option.some.injEq, Prod.mk.injEq, readFixed?_eq_some_iff]
  constructor
  · rintro ⟨inner, rfl, body, after, read, rfl, rfl⟩
    obtain ⟨whole, last⟩ := readComment?_sound read
    exact ⟨body, rfl, by rw [whole]; simp, last⟩
  · rintro ⟨body, rfl, rfl, last⟩
    exact ⟨_, by simp, body, rest, readComment?_append rest last, rfl, rfl⟩

/-- Reading takes a directive off the front of a text exactly when one of the texts of its shape
stands there. -/
theorem readShape?_eq_some_iff (s rest : List Char) (shape : Shape) :
    readShape? s = some (shape, rest) ↔ ∃ text, Fits shape text ∧ s = text ++ rest := by
  constructor
  · intro read
    rcases Option.or_eq_some_iff.mp read with read | ⟨-, comment⟩
    · rcases Option.or_eq_some_iff.mp read with statement | ⟨-, expression⟩
      · obtain ⟨before, text, after, left, stated, right, rfl⟩ :=
          (readStatementTag?_eq_some_iff _ _ _).mp statement
        exact ⟨_, .statement left stated right, rfl⟩
      · obtain ⟨body, rfl, before, text, after, left, spelled, right, rfl⟩ :=
          (readExpressionTag?_eq_some_iff _ _ _).mp expression
        exact ⟨_, .expression left spelled right, rfl⟩
    · obtain ⟨body, rfl, rfl, last⟩ := (readCommentTag?_eq_some_iff _ _ _).mp comment
      exact ⟨_, .comment last, rfl⟩
  · rintro ⟨text, fits, rfl⟩
    -- The second character decides which of the three readers gets past the opening mark.
    cases fits with
    | statement left stated right =>
      have read := (readStatementTag?_eq_some_iff _ rest shape).mpr
        ⟨_, _, _, left, stated, right, rfl⟩
      simp only [readShape?, read, Option.some_or]
    | expression left spelled right =>
      have read := (readExpressionTag?_eq_some_iff _ rest _).mpr
        ⟨_, rfl, _, _, _, left, spelled, right, rfl⟩
      simp only [readShape?, read, Option.or_some]
      simp [readStatementTag?, readFixed?]
    | comment last =>
      have read := (readCommentTag?_eq_some_iff _ rest _).mpr ⟨_, rfl, rfl, last⟩
      simp only [readShape?, read]
      simp [readStatementTag?, readExpressionTag?, readFixed?]

theorem Fits.readShape?_append {shape : Shape} {text : List Char} (fits : Fits shape text)
    (rest : List Char) : readShape? (text ++ rest) = some (shape, rest) :=
  (readShape?_eq_some_iff _ _ _).mpr ⟨text, fits, rfl⟩

theorem readShape?_eq_none_iff (s : List Char) :
    readShape? s = none ↔ ∀ text rest, s = text ++ rest → ¬ Shaped text := by
  constructor
  · rintro unread text rest rfl ⟨shape, fits⟩
    rw [fits.readShape?_append] at unread
    cases unread
  · intro unshaped
    rw [Option.eq_none_iff_forall_not_mem]
    rintro ⟨shape, rest⟩ read
    obtain ⟨text, fits, whole⟩ := (readShape?_eq_some_iff _ _ _).mp read
    exact unshaped text rest whole ⟨shape, fits⟩

/-- Of two shaped texts at the front of one text, neither is longer, and they have one shape. -/
theorem fits_unique {a b restA restB : List Char} {shapeA shapeB : Shape} (fitsA : Fits shapeA a)
    (fitsB : Fits shapeB b) (same : a ++ restA = b ++ restB) :
    a = b ∧ shapeA = shapeB ∧ restA = restB := by
  have readA := fitsA.readShape?_append restA
  rw [same, fitsB.readShape?_append restB] at readA
  cases readA
  exact ⟨List.append_cancel_right same, rfl, rfl⟩

end HtmlTemplate.Directive
