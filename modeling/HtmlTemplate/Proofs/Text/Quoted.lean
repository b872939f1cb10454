import HtmlTemplate.Text.Quoted
import Mathlib.Data.List.Basic

/-!
Quoted text reads back. Each character is escaped by itself, so the round trip is one step for each
of them: what `escape` writes is taken off by `readBody`, and nothing else. A quoted text is on one
line, whatever the text, and the quote that it starts with stands unescaped at its end only.
-/

namespace HtmlTemplate.Text.Quoted

theorem hexValue?_hexDigit (n : Nat) : hexValue? (hexDigit n) = some (n % 16) := by
  have small : n % 16 < 16 := Nat.mod_lt n (by decide)
  unfold hexDigit
  generalize n % 16 = digit at small
  revert digit
  decide

theorem hexNumber?_append (digits : List Char) (c : Char) :
    hexNumber? (digits ++ [c]) =
      (hexNumber? digits).bind fun n => (hexValue? c).map (16 * n + ·) := by
  simp [hexNumber?, List.foldlM_append]

theorem hexNumber?_hex (width n : Nat) :
    hexNumber? (hex width n) = some (n % Nat.pow 16 width) := by
  induction width generalizing n with
  | zero => simp [hex, hexNumber?, Nat.mod_one]
  | succ width ih =>
    rw [hex, hexNumber?_append, ih, hexValue?_hexDigit]
    simp only [Option.bind_some, Option.map_some, Option.some.injEq]
    simp only [Nat.pow_eq]
    rw [Nat.pow_succ', Nat.mod_mul]
    omega

theorem hexChar?_hex {width : Nat} {c : Char} (fits : c.toNat < Nat.pow 16 width) :
    hexChar? (hex width c.toNat) = some c := by
  have valid : c.toNat.isValidChar := c.valid
  simp only [hexChar?, hexNumber?_hex, Nat.mod_eq_of_lt fits, Option.bind_eq_bind, Option.bind_some,
    if_pos valid, Char.ofNat_toNat]

/-- A character that stands for itself is taken as it is. -/
theorem readBody_plain {quote c : Char} (rest : List Char) (other : c ≠ quote)
    (backslash : c ≠ '\\') (newline : c ≠ '\n') (return_ : c ≠ '\r') :
    readBody quote (c :: rest) = readBody.put c (readBody quote rest) := by
  rw [readBody]
  · simp only [if_neg other, if_neg (not_or.mpr ⟨backslash, not_or.mpr ⟨newline, return_⟩⟩)]
  all_goals simp [backslash]

/-- What is written for a character is read as this character. -/
theorem readBody_escape {quote : Char} (kind : quote = '\'' ∨ quote = '"') (c : Char)
    (rest : List Char) :
    readBody quote (escape quote c ++ rest) = readBody.put c (readBody quote rest) := by
  -- The cases are those of `escape`, in its order.
  unfold escape
  split
  next special =>
    have marked : c = '\\' ∨ c = '\'' ∨ c = '"' := by
      rcases special with rfl | rfl
      · exact .inr kind
      · exact .inl rfl
    rcases marked with rfl | rfl | rfl <;> rfl
  next plain =>
    obtain ⟨other, backslash⟩ := not_or.mp plain
    split
    next same => subst same; rfl
    next newline =>
      split
      next same => subst same; rfl
      next return_ =>
        split
        next same => subst same; rfl
        split
        next => exact readBody_plain rest other backslash newline return_
        -- Two, four or eight digits: the width is the least that holds the character.
        have taken (n : Nat) (fits : c.toNat < 16 ^ n) (r : Option (List Char × List Char)) :
            readBody.putHex (hex n c.toNat) r = readBody.put c r := by
          simp only [readBody.putHex, hexChar?_hex fits, Option.bind_some]
        split
        next small => exact taken 2 small _
        split
        next small => exact taken 4 small _
        next => exact taken 8 c.val.toNat_lt _

theorem readBody_encode {quote : Char} (kind : quote = '\'' ∨ quote = '"') (s rest : List Char) :
    readBody quote (s.flatMap (escape quote) ++ quote :: rest) = some (s, rest) := by
  induction s with
  | nil => rcases kind with rfl | rfl <;> rfl
  | cons c s ih =>
    rw [List.flatMap_cons, List.append_assoc, readBody_escape kind, ih]
    rfl

theorem quoteFor_kind (s : List Char) : quoteFor s = '\'' ∨ quoteFor s = '"' := by
  unfold quoteFor
  split
  · exact .inr rfl
  · exact .inl rfl

/-- A quoted text is read back, with what follows it. -/
theorem read_encode (s rest : List Char) : read (encode s ++ rest) = some (s, rest) := by
  have kind := quoteFor_kind s
  have body := readBody_encode kind s rest
  unfold encode
  simp only [List.cons_append, List.append_assoc, List.nil_append]
  generalize quoteFor s = quote at kind body
  rcases kind with rfl | rfl <;> exact body

/-- The characters that end a line of code. -/
def IsBreak (c : Char) : Prop := c = '\n' ∨ c = '\r'

theorem isAlphanum_hexDigit (n : Nat) : (hexDigit n).isAlphanum = true := by
  have small : n % 16 < 16 := Nat.mod_lt n (by decide)
  unfold hexDigit
  generalize n % 16 = digit at small
  revert digit
  decide

theorem isAlphanum_of_mem_hex {width n : Nat} {c : Char} (member : c ∈ hex width n) :
    c.isAlphanum = true := by
  induction width generalizing n with
  | zero => simp [hex] at member
  | succ width ih =>
    rcases List.mem_append.mp member with front | last
    · exact ih front
    · rw [List.mem_singleton.mp last]
      exact isAlphanum_hexDigit n

theorem not_isBreak_of_isAlphanum {c : Char} (letter : c.isAlphanum = true) : ¬ IsBreak c := by
  rintro (rfl | rfl) <;> cases letter

theorem not_isBreak_of_quote {quote : Char} (kind : quote = '\'' ∨ quote = '"') :
    ¬ IsBreak quote := by
  rcases kind with rfl | rfl <;> rintro (same | same) <;> cases same

/-- A character is written as itself, or as a backslash, one character, and digits if any. -/
theorem escape_cases {quote : Char} (kind : quote = '\'' ∨ quote = '"') (c : Char) :
    (escape quote c = [c] ∧ c ≠ quote ∧ c ≠ '\\' ∧ ¬ IsBreak c) ∨
      ∃ mark digits, escape quote c = '\\' :: mark :: digits ∧ ¬ IsBreak mark ∧
        ∀ d ∈ digits, d.isAlphanum = true := by
  have letter {mark : Char} (alphanumeric : mark.isAlphanum = true) (width n : Nat) :
      ∃ mark' digits, '\\' :: mark :: hex width n = '\\' :: mark' :: digits ∧ ¬ IsBreak mark' ∧
        ∀ d ∈ digits, d.isAlphanum = true :=
    ⟨mark, hex width n, rfl, not_isBreak_of_isAlphanum alphanumeric,
      fun _ => isAlphanum_of_mem_hex⟩
  unfold escape
  split
  next special =>
    refine .inr ⟨c, [], rfl, ?_, List.forall_mem_nil _⟩
    rcases special with rfl | rfl
    · exact not_isBreak_of_quote kind
    · rintro (same | same) <;> cases same
  next plain =>
    obtain ⟨other, backslash⟩ := not_or.mp plain
    split
    next => exact .inr (letter rfl 0 0)
    next newline =>
      split
      next => exact .inr (letter rfl 0 0)
      next return_ =>
        split
        next => exact .inr (letter rfl 0 0)
        split
        next => exact .inl ⟨rfl, other, backslash, not_or.mpr ⟨newline, return_⟩⟩
        split
        next => exact .inr (letter rfl 2 _)
        split
        next => exact .inr (letter rfl 4 _)
        next => exact .inr (letter rfl 8 _)

theorem escape_not_break {quote c d : Char} (kind : quote = '\'' ∨ quote = '"')
    (member : d ∈ escape quote c) : ¬ IsBreak d := by
  rcases escape_cases kind c with ⟨same, -, -, plain⟩ | ⟨mark, digits, same, plain, letters⟩
  · rw [same] at member
    rwa [List.mem_singleton.mp member]
  · rw [same] at member
    rcases List.mem_cons.mp member with rfl | member
    · rintro (same | same) <;> cases same
    rcases List.mem_cons.mp member with rfl | member
    · exact plain
    · exact not_isBreak_of_isAlphanum (letters d member)

/-- A quoted text is on one line. -/
theorem encode_not_break {s : List Char} {c : Char} (member : c ∈ encode s) : ¬ IsBreak c := by
  have kind := quoteFor_kind s
  simp only [encode, List.cons_append, List.mem_cons, List.mem_append, List.mem_flatMap,
    List.not_mem_nil, or_false] at member
  rcases member with rfl | ⟨d, -, inner⟩ | rfl
  · exact not_isBreak_of_quote kind
  · exact escape_not_break kind inner
  · exact not_isBreak_of_quote kind

/-- The place of the first quote that no backslash stands before, except one that is itself
escaped. -/
def closing? (quote : Char) : (escaped : Bool) → List Char → Option Nat
  | _, [] => none
  | true, _ :: rest => (closing? quote false rest).map (· + 1)
  | false, c :: rest =>
    if c = quote then some 0 else (closing? quote (c == '\\') rest).map (· + 1)

theorem closing?_plain {quote : Char} {run : List Char}
    (plain : ∀ c ∈ run, c ≠ quote ∧ c ≠ '\\') (rest : List Char) :
    closing? quote false (run ++ rest) = (closing? quote false rest).map (· + run.length) := by
  induction run with
  | nil => simp
  | cons c run ih =>
    obtain ⟨⟨other, backslash⟩, later⟩ := List.forall_mem_cons.mp plain
    rw [List.cons_append, closing?, if_neg other, beq_eq_false_iff_ne.mpr backslash, ih later,
      Option.map_map]
    rfl

/-- What is written for a character is passed over as a whole. -/
theorem closing?_escape {quote : Char} (kind : quote = '\'' ∨ quote = '"') (c : Char)
    (rest : List Char) :
    closing? quote false (escape quote c ++ rest) =
      (closing? quote false rest).map (· + (escape quote c).length) := by
  rcases escape_cases kind c with ⟨same, other, backslash, -⟩ | ⟨mark, digits, same, -, letters⟩
  · rw [same]
    exact closing?_plain (List.forall_mem_singleton.mpr ⟨other, backslash⟩) rest
  · have plain : ∀ d ∈ digits, d ≠ quote ∧ d ≠ '\\' := by
      intro d member
      have letter := letters d member
      constructor
      · rintro rfl
        rcases kind with rfl | rfl <;> cases letter
      · rintro rfl
        cases letter
    have opens : '\\' ≠ quote := by rcases kind with rfl | rfl <;> decide
    -- The backslash takes the mark with it, whatever the mark is; the digits are plain.
    rw [same, List.cons_append, List.cons_append, closing?, if_neg opens, beq_self_eq_true,
      closing?, closing?_plain plain, Option.map_map, Option.map_map]
    rfl

/-- In a quoted text the first quote that is not escaped is the last character. -/
theorem closing?_encode {quote : Char} (kind : quote = '\'' ∨ quote = '"') (s rest : List Char) :
    closing? quote false (s.flatMap (escape quote) ++ quote :: rest) =
      some (s.flatMap (escape quote)).length := by
  induction s with
  | nil => exact if_pos rfl
  | cons c s ih =>
    rw [List.flatMap_cons, List.append_assoc, closing?_escape kind, ih, List.length_append,
      Option.map_some, Nat.add_comm]

end HtmlTemplate.Text.Quoted
