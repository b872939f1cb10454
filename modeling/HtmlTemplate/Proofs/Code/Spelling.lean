import HtmlTemplate.Proofs.Code.Line

/-!
The literals of a line of code. A line is taken apart from left to right: a quote starts a literal,
which goes on to its closing quote, and everything else has to be code. The line of a statement is
taken apart into the texts that the statement holds, whatever these texts are, so none of them can
end its literal early or run past it.
-/

namespace HtmlTemplate.Code

open Text.Quoted (IsBreak)

def isQuote (c : Char) : Bool := c == '\'' || c == '"'

/-- The characters of code that start no literal and no comment, and neither end the line nor
continue it. -/
def isCode (c : Char) : Bool := !(['\'', '"', '#', '\\', '\n', '\r'].contains c)

/-- The texts of the literals of a line, after some characters that are skipped. A line with a
comment, a continuation or a literal in three quotes is refused. -/
def literalsFrom : (skip : Nat) → List Char → Option (List String)
  | _, [] => some []
  | skip + 1, _ :: rest => literalsFrom skip rest
  | 0, c :: rest =>
    if isQuote c then
      if [c, c].isPrefixOf rest then none
      else
        match Text.Quoted.read (c :: rest) with
        | some (inside, left) =>
          (literalsFrom (rest.length - left.length) rest).map (String.ofList inside :: ·)
        | none => none
    else if isCode c then literalsFrom 0 rest
    else none

/-- The texts of the literals of a line, in order. -/
def literals (line : List Char) : Option (List String) := literalsFrom 0 line

/-- What may follow a literal: two quotes and a third would start a literal of another kind. -/
def Apart (rest : List Char) : Prop := ∀ c ∈ rest.head?, isQuote c = false

/-- Text that is made of code and of the literals of some strings. -/
inductive Spelled : List Char → List String → Prop where
  | nil : Spelled [] []
  | code {c : Char} {rest : List Char} {strings : List String} (plain : isCode c = true)
      (later : Spelled rest strings) : Spelled (c :: rest) strings
  | literal (s : String) {rest : List Char} {strings : List String} (apart : Apart rest)
      (later : Spelled rest strings) : Spelled ((Text.quote s).toList ++ rest) (s :: strings)

theorem not_isQuote_of_isCode {c : Char} (plain : isCode c = true) : isQuote c = false := by
  rw [isQuote, Bool.or_eq_false_iff, beq_eq_false_iff_ne, beq_eq_false_iff_ne]
  constructor <;> rintro rfl <;> cases plain

theorem not_isBreak_of_isCode {c : Char} (plain : isCode c = true) : ¬ IsBreak c := by
  rintro (rfl | rfl) <;> cases plain

theorem Apart.append {front back : List Char} (first : Apart front) (second : Apart back) :
    Apart (front ++ back) := by
  cases front with
  | nil => exact second
  | cons c rest => exact first

/-- Code, as a text: no character of it is anything else. -/
def IsCode (text : String) : Prop := text.toList.all isCode = true

theorem IsCode.forall_mem {text : String} (code : IsCode text) :
    ∀ c ∈ text.toList, isCode c = true :=
  List.all_eq_true.mp code

theorem IsCode.apart {text : String} (code : IsCode text) : Apart text.toList :=
  fun _ member => not_isQuote_of_isCode (code.forall_mem _ (List.mem_of_mem_head? member))

namespace Spelled

theorem append {front back : List Char} {strings more : List String}
    (first : Spelled front strings) (second : Spelled back more) (apart : Apart back) :
    Spelled (front ++ back) (strings ++ more) := by
  induction first with
  | nil => exact second
  | code plain _ ih => exact .code plain ih
  | literal s between _ ih =>
    rw [List.append_assoc]
    exact .literal s (between.append apart) ih

theorem quote (s : String) : Spelled (Text.quote s).toList [s] := by
  have literal : Spelled ((Text.quote s).toList ++ []) [s] := .literal s (by simp [Apart]) .nil
  rwa [List.append_nil] at literal

/-- Code can stand before any text. -/
theorem afterCode {text : List Char} {strings : List String} (spelled : Spelled text strings)
    {before : List Char} (code : ∀ c ∈ before, isCode c = true) :
    Spelled (before ++ text) strings := by
  induction before with
  | nil => exact spelled
  | cons c rest ih =>
    obtain ⟨plain, others⟩ := List.forall_mem_cons.mp code
    exact .code plain (ih others)

theorem ofCode {text : String} (code : IsCode text) : Spelled text.toList [] := by
  have spelled := nil.afterCode code.forall_mem
  rwa [List.append_nil] at spelled

theorem opened {before inside : String} {strings : List String}
    (spelled : Spelled inside.toList strings) (code : IsCode before) :
    Spelled (before ++ inside).toList strings := by
  rw [String.toList_append]
  exact spelled.afterCode code.forall_mem

theorem closed {inside after : String} {strings : List String}
    (spelled : Spelled inside.toList strings) (code : IsCode after) :
    Spelled (inside ++ after).toList strings := by
  have ended := spelled.append (ofCode code) code.apart
  rwa [List.append_nil, ← String.toList_append] at ended

theorem framed {before inside after : String} {strings : List String}
    (spelled : Spelled inside.toList strings) (front : IsCode before) (back : IsCode after) :
    Spelled (before ++ inside ++ after).toList strings :=
  (spelled.opened front).closed back

/-- Two texts with code between them. -/
theorem joined {first between second : String} {strings more : List String}
    (front : Spelled first.toList strings) (back : Spelled second.toList more)
    (code : IsCode between) (separated : between ≠ "") :
    Spelled (first ++ between ++ second).toList (strings ++ more) := by
  rw [toList_framed]
  refine front.append (back.afterCode code.forall_mem) ?_
  -- What the first text is followed by is the code, since there is some.
  cases same : between.toList with
  | nil => exact absurd (String.toList_eq_nil_iff.mp same) separated
  | cons c rest =>
    intro d member
    cases member
    exact not_isQuote_of_isCode (code.forall_mem _ (same ▸ List.mem_cons_self))

theorem intercalate {texts : List String} {parts : List (List String)}
    (each : List.Forall₂ (fun text strings => Spelled text.toList strings) texts parts) :
    Spelled (", ".intercalate texts).toList parts.flatten := by
  induction each with
  | nil => exact .nil
  | @cons text strings texts parts first later ih =>
    cases later with
    | nil =>
      rw [List.flatten_singleton]
      exact first
    | cons second others =>
      rw [String.intercalate_cons_cons, List.flatten_cons]
      exact first.joined ih rfl (by decide)

theorem not_isBreak {text : List Char} {strings : List String} (spelled : Spelled text strings) :
    ∀ c ∈ text, ¬ IsBreak c := by
  induction spelled with
  | nil => exact List.forall_mem_nil _
  | code plain _ ih => exact List.forall_mem_cons.mpr ⟨not_isBreak_of_isCode plain, ih⟩
  | literal s _ _ ih =>
    refine List.forall_mem_append.mpr ⟨fun c member => ?_, ih⟩
    rw [Text.quote, String.toList_ofList] at member
    exact Text.Quoted.encode_not_break member

end Spelled

theorem literalsFrom_skip (front rest : List Char) :
    literalsFrom front.length (front ++ rest) = literalsFrom 0 rest := by
  induction front with
  | nil => rfl
  | cons c front ih => exact ih

/-- A literal does not start with three quotes. -/
theorem not_long (s : List Char) {rest : List Char} (apart : Apart rest) :
    [Text.Quoted.quoteFor s, Text.Quoted.quoteFor s].isPrefixOf
      (s.flatMap (Text.Quoted.escape (Text.Quoted.quoteFor s)) ++
        Text.Quoted.quoteFor s :: rest) = false := by
  have kind := Text.Quoted.quoteFor_kind s
  generalize Text.Quoted.quoteFor s = quote at kind
  cases s with
  | nil =>
    -- The literal is empty, and what follows it is no quote.
    cases rest with
    | nil => simp [List.isPrefixOf]
    | cons c rest =>
      have plain := apart c rfl
      have other : quote ≠ c := by
        rintro rfl
        rcases kind with rfl | rfl <;> cases plain
      simp [List.isPrefixOf, other]
  | cons c s =>
    have opens : quote ≠ '\\' := by rcases kind with rfl | rfl <;> decide
    rcases Text.Quoted.escape_cases kind c with ⟨same, other, -⟩ | ⟨mark, digits, same, -⟩
    · simp [List.isPrefixOf, same, Ne.symm other]
    · simp [List.isPrefixOf, same, opens]

theorem literalsFrom_quote (s : String) {rest : List Char} (apart : Apart rest) :
    literalsFrom 0 ((Text.quote s).toList ++ rest) = (literalsFrom 0 rest).map (s :: ·) := by
  have kind := Text.Quoted.quoteFor_kind s.toList
  have long := not_long s.toList apart
  have read := read_quote_append s rest
  have skips := literalsFrom_skip (s.toList.flatMap (Text.Quoted.escape
    (Text.Quoted.quoteFor s.toList)) ++ [Text.Quoted.quoteFor s.toList]) rest
  rw [Text.quote, String.toList_ofList, Text.Quoted.encode] at read ⊢
  simp only [List.cons_append, List.append_assoc, List.nil_append] at read skips ⊢
  have quoted : isQuote (Text.Quoted.quoteFor s.toList) = true := by
    rcases kind with same | same <;> rw [same] <;> rfl
  rw [literalsFrom, if_pos quoted, long, if_neg Bool.false_ne_true, read]
  simp only [String.ofList_toList]
  rw [← skips]
  congr 2
  simp only [List.length_append, List.length_cons, List.length_nil]
  omega

/-- Text that is spelled out of strings is taken apart into these. -/
theorem Spelled.literals_eq {text : List Char} {strings : List String}
    (spelled : Spelled text strings) : literals text = some strings := by
  induction spelled with
  | nil => rfl
  | code plain _ ih =>
    rw [literals, literalsFrom, not_isQuote_of_isCode plain, if_neg Bool.false_ne_true,
      if_pos plain]
    exact ih
  | literal s apart _ ih =>
    rw [literals, literalsFrom_quote s apart]
    exact congrArg _ ih

theorem isCode_of_numeric {text : String} (numeric : Decimal.Numeric text.toList) :
    IsCode text := by
  refine List.all_eq_true.mpr fun c member => ?_
  have known := numeric c member
  -- A character that is no code is no part of a number.
  have none : ∀ d ∈ ['\'', '"', '#', '\\', '\n', '\r'], Decimal.isNumeric d = false := by
    simp [Decimal.isNumeric]
  rw [isCode, Bool.not_eq_true', List.contains_eq_mem, decide_eq_false_iff_not]
  intro listed
  rw [none c listed] at known
  cases known

end HtmlTemplate.Code

namespace HtmlTemplate

namespace Value

mutual

/-- The strings in a value, in the order in which it is written. -/
def strings : Value → List String
  | .str s => [s]
  | .list items => (stringsAll items).flatten
  | .tuple items => (stringsAll items).flatten
  | .dict entries => (stringsEntries entries).flatten
  | .vnode tag props children => tag :: ((stringsProps props).flatten ++ strings children)
  | _ => []
termination_by structural v => v

def stringsAll : List Value → List (List String)
  | [] => []
  | item :: rest => strings item :: stringsAll rest
termination_by structural items => items

def stringsEntries : List (Value × Value) → List (List String)
  | [] => []
  | (key, value) :: rest => (strings key ++ strings value) :: stringsEntries rest
termination_by structural entries => entries

def stringsProps : List (String × Value) → List (List String)
  | [] => []
  | (name, value) :: rest => (name :: strings value) :: stringsProps rest
termination_by structural props => props

end

open Code

mutual

/-- The written form of a value is code, except for the literals of its strings. -/
theorem spelled_write : (v : Value) → Spelled v.write.toList v.strings
  | .none => .ofCode rfl
  | .bool true => .ofCode rfl
  | .bool false => .ofCode rfl
  | .int n => .ofCode (isCode_of_numeric (Decimal.numeric_writeInt n))
  | .float x => .ofCode (isCode_of_numeric (Decimal.numeric_writeFloat x))
  | .str s => .quote s
  | .list items => (Spelled.intercalate (spelled_writeAll items)).framed rfl rfl
  | .tuple [] => .ofCode rfl
  | .tuple [item] => by
    rw [strings, stringsAll, stringsAll, List.flatten_singleton]
    exact (spelled_write item).framed rfl rfl
  | .tuple (first :: second :: rest) =>
    (Spelled.intercalate (spelled_writeAll (first :: second :: rest))).framed rfl rfl
  | .dict entries =>
    (Spelled.intercalate (spelled_writeEntries entries)).framed rfl rfl
  | .vnode tag props children =>
    ((((Spelled.quote tag).opened (by rfl)).joined
      (Spelled.intercalate (spelled_writeProps props)) (by rfl) (by decide)).joined
        (spelled_write children) (by rfl) (by decide)).closed (by rfl)
termination_by structural v => v

theorem spelled_writeAll : (items : List Value) →
    List.Forall₂ (fun text strings => Spelled text.toList strings) (writeAll items)
      (stringsAll items)
  | [] => .nil
  | item :: rest => .cons (spelled_write item) (spelled_writeAll rest)
termination_by structural items => items

theorem spelled_writeEntries : (entries : List (Value × Value)) →
    List.Forall₂ (fun text strings => Spelled text.toList strings) (writeEntries entries)
      (stringsEntries entries)
  | [] => .nil
  | (key, value) :: rest =>
    .cons ((spelled_write key).joined (spelled_write value) rfl (by decide))
      (spelled_writeEntries rest)
termination_by structural entries => entries

theorem spelled_writeProps : (props : List (String × Value)) →
    List.Forall₂ (fun text strings => Spelled text.toList strings) (writeProps props)
      (stringsProps props)
  | [] => .nil
  | (name, value) :: rest =>
    .cons ((Spelled.quote name).joined (spelled_write value) rfl (by decide))
      (spelled_writeProps rest)
termination_by structural props => props

end

end Value

namespace Code

/-- Whether an operand stands for something. -/
def Operand.isDefined : Operand → Bool
  | .undefined _ => false
  | _ => true

/-- Whether every name that a statement computes with stands for something. -/
def Statement.isDefined : Statement → Bool
  | .appendOperand operand => operand.isDefined
  | .ifHeader (.operand operand) => operand.isDefined
  | .elifHeader operand => operand.isDefined
  | _ => true

/-- The strings in an operand. A number that is not finite is read from a text. -/
def Operand.strings : Operand → List String
  | .constant (.float x) =>
    match Decimal.Binary.ofFloat x with
    | .finite .. => []
    | _ => [Decimal.writeFloat x]
  | .constant value => value.strings
  | .lookup name => [name]
  | .undefined _ => []

/-- The strings that a statement holds, in the order in which it is written. -/
def Statement.strings : Statement → List String
  | .appendText text => [text]
  | .appendOperand operand => operand.strings
  | .setAttr name value => [name, value]
  -- The nodes are joined by the method of an empty text.
  | .joinAttr name => [name, ""]
  | .appendElement tag => [tag]
  | .returnWrapped tag => [tag]
  | .ifHeader (.operand operand) => operand.strings
  | .elifHeader operand => operand.strings
  | _ => []

theorem Operand.spelled_text {operand : Operand} (defined : operand.isDefined = true) :
    Spelled operand.text.toList operand.strings := by
  cases operand with
  | undefined name => cases defined
  | lookup name => exact (Spelled.quote name).framed rfl rfl
  | constant value =>
    cases value with
    | float x =>
      cases kind : Decimal.Binary.ofFloat x with
      | finite negative mantissa exponent =>
        simp only [Operand.text, Operand.strings, kind]
        exact (Value.float x).spelled_write
      | _ =>
        simp only [Operand.text, Operand.strings, kind]
        exact (Spelled.quote _).framed rfl rfl
    | _ => exact Value.spelled_write _

/-- The line of a statement is code, except for the literals of the statement's strings. -/
theorem Statement.spelled_text {statement : Statement} (defined : statement.isDefined = true) :
    Spelled statement.text.toList statement.strings := by
  cases statement with
  | appendText text => exact (Spelled.quote text).framed rfl rfl
  | appendOperand operand => exact (Operand.spelled_text defined).framed rfl rfl
  | setAttr name value =>
    exact ((Spelled.quote name).opened (by rfl)).joined (Spelled.quote value) rfl (by decide)
  | joinAttr name =>
    have method : Spelled joinText.toList [""] := by
      have split : joinText = Text.quote "" ++ ".join(stringify(value) for value in nodes)" := rfl
      rw [split]
      exact (Spelled.quote "").closed rfl
    exact ((Spelled.quote name).opened (by rfl)).joined method rfl (by decide)
  | appendElement tag => exact (Spelled.quote tag).framed rfl rfl
  | returnWrapped tag => exact (Spelled.quote tag).framed rfl rfl
  | ifHeader test =>
    cases test with
    | operand operand => exact (Operand.spelled_text defined).framed rfl rfl
    | oneNode => exact .ofCode rfl
    | noNodes => exact .ofCode rfl
  | elifHeader operand => exact (Operand.spelled_text defined).framed rfl rfl
  | _ => exact .ofCode rfl

theorem Statement.head?_text (statement : Statement) :
    ∃ c, statement.text.toList.head? = some c ∧ c ≠ ' ' := by
  have starts {c : Char} {front back : String} (first : front.toList.head? = some c) :
      (front ++ back).toList.head? = some c := by
    rw [String.toList_append, List.head?_append, first, Option.some_or]
  cases statement with
  | appendText => exact ⟨'n', starts (starts rfl), by decide⟩
  | appendOperand => exact ⟨'n', starts (starts rfl), by decide⟩
  | setAttr => exact ⟨'a', starts (starts (starts rfl)), by decide⟩
  | joinAttr => exact ⟨'a', starts (starts (starts rfl)), by decide⟩
  | appendElement => exact ⟨'n', starts (starts rfl), by decide⟩
  | returnWrapped => exact ⟨'r', starts (starts rfl), by decide⟩
  | ifHeader => exact ⟨'i', starts (starts rfl), by decide⟩
  | elifHeader => exact ⟨'e', starts (starts rfl), by decide⟩
  | _ => exact ⟨_, rfl, by decide⟩

theorem Statement.oneLine_of_isDefined {statement : Statement}
    (defined : statement.isDefined = true) : statement.OneLine where
  noBreak := fun member => (spelled_text defined).not_isBreak _ member (.inl rfl)
  flush := by
    obtain ⟨c, starts, letter⟩ := statement.head?_text
    rw [starts]
    simpa using letter

end Code

end HtmlTemplate
