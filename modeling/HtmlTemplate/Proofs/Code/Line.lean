import HtmlTemplate.Code.Read
import HtmlTemplate.Proofs.Decimal.RoundTrip
import HtmlTemplate.Proofs.Text.Quoted

/-!
The lines of a routine. The text of a statement is one line that does not start with a blank, and
the statement is read back from it, as long as the numbers in it are.
-/

namespace HtmlTemplate.Code

theorem toList_framed (before inside after : String) :
    (before ++ inside ++ after).toList = before.toList ++ (inside.toList ++ after.toList) := by
  rw [String.toList_append, String.toList_append, List.append_assoc]

theorem notMem_framed {c : Char} {before inside after : String} (front : c ∉ before.toList)
    (middle : c ∉ inside.toList) (back : c ∉ after.toList) :
    c ∉ (before ++ inside ++ after).toList := by
  rw [toList_framed, List.mem_append, List.mem_append]
  rintro (member | member | member)
  · exact front member
  · exact middle member
  · exact back member

theorem between?_append (before after : String) (inside : List Char) :
    between? before after (before.toList ++ (inside ++ after.toList)) = some inside := by
  have front : before.toList.isPrefixOf (before.toList ++ (inside ++ after.toList)) = true :=
    List.isPrefixOf_iff_prefix.mpr (List.prefix_append ..)
  have back : after.toList.isSuffixOf (inside ++ after.toList) = true :=
    List.isSuffixOf_iff_suffix.mpr (List.suffix_append ..)
  simp [between?, front, back, ← String.length_toList]

theorem between?_front (before : String) (rest : List Char) :
    between? before "" (before.toList ++ rest) = some rest := by
  have framed := between?_append before "" rest
  rwa [String.toList_empty, List.append_nil] at framed

theorem prefix_of_between? {before after : String} {s inside : List Char}
    (found : between? before after s = some inside) : before.toList <+: s := by
  unfold between? at found
  split at found
  next front => exact List.isPrefixOf_iff_prefix.mp front
  · cases found

theorem read_quote_append (s : String) (rest : List Char) :
    Text.Quoted.read ((Text.quote s).toList ++ rest) = some (s.toList, rest) := by
  rw [Text.quote, String.toList_ofList, Text.Quoted.read_encode]

theorem read_quote (s : String) : Text.Quoted.read (Text.quote s).toList = some (s.toList, []) := by
  have read := read_quote_append s []
  rwa [List.append_nil] at read

theorem quoted?_quote (s : String) : quoted? (Text.quote s).toList = some s := by
  simp only [quoted?, read_quote, String.ofList_toList]

theorem newline_notMem_quote (s : String) : '\n' ∉ (Text.quote s).toList := by
  rw [Text.quote, String.toList_ofList]
  exact fun member => Text.Quoted.encode_not_break member (.inl rfl)

theorem quote_eq_cons (s : String) :
    ∃ quote rest, (Text.quote s).toList = quote :: rest ∧ (quote = '\'' ∨ quote = '"') :=
  ⟨_, _, by rw [Text.quote, String.toList_ofList]; rfl, Text.Quoted.quoteFor_kind s.toList⟩

namespace Literal

theorem read_str (s : String) : read (Text.quote s).toList = .ok (.str s) := by
  obtain ⟨quote, rest, same, kind⟩ := quote_eq_cons s
  have scalar : readScalar (quote :: rest) = .ok (.str s, []) := by
    simp only [readScalar, if_pos kind, ← same, read_quote, String.ofList_toList]
  have value : ∀ fuel, readValue (quote :: rest) (fuel + 1) = .ok (.str s, []) := by
    intro fuel
    rcases kind with rfl | rfl <;> exact scalar
  rw [read, same, value]
  rfl

end Literal

theorem readOperand?_of_read {s : List Char} {value : Value} (read : Literal.read s = .ok value) :
    readOperand? s = some (.constant value) := by
  -- A literal starts neither like a look-up nor like a call.
  have noContext : (between? "context[" "]" s).bind quoted? = none := by
    cases found : between? "context[" "]" s with
    | none => rfl
    | some inside =>
      obtain ⟨rest, rfl⟩ := prefix_of_between? found
      cases read
  have noFloat : (between? "float(" ")" s).bind quoted? = none := by
    cases found : between? "float(" ")" s with
    | none => rfl
    | some inside =>
      obtain ⟨rest, rfl⟩ := prefix_of_between? found
      cases read
  simp only [readOperand?, noContext, noFloat, read]

theorem readOperand?_lookup (name : String) :
    readOperand? (Operand.lookup name).text.toList = some (.lookup name) := by
  rw [Operand.text, toList_framed, readOperand?, between?_append, Option.bind_some, quoted?_quote]

theorem readOperand?_special {x : Float} (special : ¬ Decimal.IsFinite x) :
    readOperand? ("float(" ++ Text.quote (Decimal.writeFloat x) ++ ")").toList
      = some (.constant (.float x)) := by
  have noContext : between? "context[" "]"
      ("float(".toList ++ ((Text.quote (Decimal.writeFloat x)).toList ++ ")".toList)) = none := rfl
  rw [toList_framed, readOperand?, noContext, Option.bind_none, between?_append, Option.bind_some,
    quoted?_quote]
  simp only [Decimal.readFloat?_writeFloat_of_not_finite special, Option.map_some]

/-- Operands whose text is read as an operand that stands for something. -/
structure Operand.ReadsAs (operand read : Operand) : Prop where
  reads : readOperand? operand.text.toList = some read
  defined : ∀ name, read ≠ .undefined name

/-- Operands that are read back from their text, which is on one line. -/
structure Operand.Legible (operand : Operand) : Prop where
  reads : readOperand? operand.text.toList = some operand
  defined : ∀ name, operand ≠ .undefined name
  noBreak : '\n' ∉ operand.text.toList

namespace Operand

theorem Legible.readsAs {operand : Operand} (legible : operand.Legible) :
    operand.ReadsAs operand where
  reads := legible.reads
  defined := legible.defined

theorem legible_lookup (name : String) : (lookup name).Legible where
  reads := readOperand?_lookup name
  defined := by simp
  noBreak := notMem_framed (by decide) (newline_notMem_quote name) (by decide)

theorem legible_bool (b : Bool) : (constant (.bool b)).Legible where
  reads := by cases b <;> rfl
  defined := by simp
  noBreak := by cases b <;> decide

theorem legible_str (s : String) : (constant (.str s)).Legible where
  reads := readOperand?_of_read (Literal.read_str s)
  defined := by simp
  noBreak := newline_notMem_quote s

theorem text_of_finite {x : Float} (finite : Decimal.IsFinite x) :
    (constant (.float x)).text = Decimal.writeFloat x := by
  obtain ⟨negative, mantissa, exponent, same⟩ := finite
  simp only [Operand.text, same]

theorem text_of_not_finite {x : Float} (special : ¬ Decimal.IsFinite x) :
    (constant (.float x)).text = "float(" ++ Text.quote (Decimal.writeFloat x) ++ ")" := by
  simp only [Operand.text]
  split
  next same => exact absurd ⟨_, _, _, same⟩ special
  · rfl

/-- A finite number is legible because its literal is; the others are written as texts. -/
theorem legible_float (x : Float) : (constant (.float x)).Legible where
  reads := by
    by_cases finite : Decimal.IsFinite x
    · rw [text_of_finite finite]
      exact readOperand?_of_read (Literal.read_writeFloat finite)
    · rw [text_of_not_finite finite]
      exact readOperand?_special finite
  defined := by simp
  noBreak := by
    by_cases finite : Decimal.IsFinite x
    · rw [text_of_finite finite]
      exact Decimal.newline_notMem_writeFloat x
    · rw [text_of_not_finite finite]
      exact notMem_framed (by decide) (newline_notMem_quote _) (by decide)

theorem readsAs_float (x : Float) : ∃ read, (constant (.float x)).ReadsAs read :=
  ⟨_, (legible_float x).readsAs⟩

end Operand

theorem readTest?_operand {operand read : Operand} (readsAs : operand.ReadsAs read) :
    readTest? operand.text.toList = some (.operand read) := by
  -- Read as operands, the texts of the other tests start with a name that stands for nothing.
  have one : readOperand? Test.oneNode.text.toList = some (.undefined "len") := rfl
  have empty : readOperand? Test.noNodes.text.toList = some (.undefined "not") := rfl
  have notOne : operand.text.toList ≠ Test.oneNode.text.toList := by
    intro same
    rw [← same, readsAs.reads] at one
    exact readsAs.defined "len" (Option.some.inj one)
  have notEmpty : operand.text.toList ≠ Test.noNodes.text.toList := by
    intro same
    rw [← same, readsAs.reads] at empty
    exact readsAs.defined "not" (Option.some.inj empty)
  rw [readTest?, if_neg notOne, if_neg notEmpty, readsAs.reads, Option.map_some]

/-- Statements whose text can stand on a line after blanks. -/
structure Statement.OneLine (statement : Statement) : Prop where
  noBreak : '\n' ∉ statement.text.toList
  flush : statement.text.toList.head? ≠ some ' '

/-- Statements that are read back from their text, which can stand on a line after blanks. -/
structure Statement.Legible (statement : Statement) : Prop where
  reads : readStatement? statement.text.toList = some statement
  noBreak : '\n' ∉ statement.text.toList
  flush : statement.text.toList.head? ≠ some ' '

namespace Statement

theorem Legible.oneLine {statement : Statement} (legible : statement.Legible) :
    statement.OneLine where
  noBreak := legible.noBreak
  flush := legible.flush

theorem readFixed?_text {statement : Statement} (fixed : statement ∈ fixedStatements) :
    readFixed? statement.text.toList = some statement := by
  -- The first statement with this text is this one, since no two have the same text.
  have distinct : (fixedStatements.map Statement.text).Nodup := by decide
  obtain ⟨before, after, split⟩ := List.append_of_mem fixed
  rw [readFixed?, List.find?_eq_some_iff_append]
  refine ⟨beq_self_eq_true _, before, after, split, fun other member => ?_⟩
  rw [split, List.map_append, List.map_cons, List.nodup_append] at distinct
  have apart := distinct.2.2 _ (List.mem_map_of_mem member) _ List.mem_cons_self
  simpa [String.toList_inj] using apart

theorem legible_of_fixed {statement : Statement} (fixed : statement ∈ fixedStatements) :
    statement.Legible where
  reads := by simp only [readStatement?, readFixed?_text fixed, Option.some_or]
  noBreak := by
    have all : ∀ text ∈ fixedStatements.map Statement.text, '\n' ∉ text.toList := by decide
    exact all _ (List.mem_map_of_mem fixed)
  flush := by
    have all : ∀ text ∈ fixedStatements.map Statement.text, text.toList.head? ≠ some ' ' := by
      decide
    exact all _ (List.mem_map_of_mem fixed)

/-- A text that starts like a line that appends a node is none of the first statements tried. -/
theorem skips_of_append {line before rest : List Char} (whole : line = before ++ rest)
    (front : "nodes.append(".toList <+: before) :
    readFixed? line = none ∧ between? "if " ":" line = none ∧ between? "elif " ":" line = none := by
  obtain ⟨more, rfl⟩ := front
  rw [whole, List.append_assoc]
  exact ⟨rfl, rfl, rfl⟩

theorem reads_appendText (text : String) :
    readStatement? (appendText text).text.toList = some (appendText text) := by
  have whole : (appendText text).text.toList =
      "nodes.append(".toList ++ ((Text.quote text).toList ++ ")".toList) := toList_framed _ _ _
  -- From here on only `whole` says what the line is: its text must not be unfolded.
  generalize (appendText text).text.toList = line at whole
  obtain ⟨noFixed, noIf, noElif⟩ := skips_of_append whole (by decide)
  -- What follows is a quote, so it is no call.
  obtain ⟨quote, rest, same, kind⟩ := quote_eq_cons text
  have noOperand : between? "nodes.append(stringify(" "))" line = none := by
    rw [whole, same]
    rcases kind with rfl | rfl <;> rfl
  have noElement : between? "nodes.append(make_element(" ", attrs, children))" line = none := by
    rw [whole, same]
    rcases kind with rfl | rfl <;> rfl
  have inside : between? "nodes.append(" ")" line = some (Text.quote text).toList := by
    rw [whole]
    exact between?_append ..
  simp only [readStatement?, noFixed, noIf, noElif, noOperand, noElement, inside, quoted?_quote,
    Option.bind_none, Option.bind_some, Option.map_some, Option.none_or, Option.some_or]

theorem reads_appendOperand {operand read : Operand} (readsAs : operand.ReadsAs read) :
    readStatement? (appendOperand operand).text.toList = some (appendOperand read) := by
  have whole : (appendOperand operand).text.toList =
      "nodes.append(stringify(".toList ++ (operand.text.toList ++ "))".toList) :=
    toList_framed _ _ _
  generalize (appendOperand operand).text.toList = line at whole
  obtain ⟨noFixed, noIf, noElif⟩ := skips_of_append whole (by decide)
  have inside : between? "nodes.append(stringify(" "))" line = some operand.text.toList := by
    rw [whole]
    exact between?_append ..
  simp only [readStatement?, noFixed, noIf, noElif, inside, readsAs.reads,
    Option.bind_none, Option.bind_some, Option.map_some, Option.none_or, Option.some_or]

theorem reads_appendElement (tag : String) :
    readStatement? (appendElement tag).text.toList = some (appendElement tag) := by
  have whole : (appendElement tag).text.toList =
      "nodes.append(make_element(".toList ++
        ((Text.quote tag).toList ++ ", attrs, children))".toList) := toList_framed _ _ _
  generalize (appendElement tag).text.toList = line at whole
  obtain ⟨noFixed, noIf, noElif⟩ := skips_of_append whole (by decide)
  have noOperand : between? "nodes.append(stringify(" "))" line = none := by
    rw [whole]
    rfl
  have inside : between? "nodes.append(make_element(" ", attrs, children))" line =
      some (Text.quote tag).toList := by
    rw [whole]
    exact between?_append ..
  simp only [readStatement?, noFixed, noIf, noElif, noOperand, inside, quoted?_quote,
    Option.bind_none, Option.bind_some, Option.map_some, Option.none_or, Option.some_or]

theorem readStatement?_attrs (rest : List Char) :
    readStatement? ("attrs[".toList ++ rest) = readAssignment? ("attrs[".toList ++ rest) := by
  have noFixed : readFixed? ("attrs[".toList ++ rest) = none := rfl
  have noIf : between? "if " ":" ("attrs[".toList ++ rest) = none := rfl
  have noElif : between? "elif " ":" ("attrs[".toList ++ rest) = none := rfl
  have noOperand : between? "nodes.append(stringify(" "))" ("attrs[".toList ++ rest) = none := rfl
  have noElement : between? "nodes.append(make_element(" ", attrs, children))"
      ("attrs[".toList ++ rest) = none := rfl
  have noText : between? "nodes.append(" ")" ("attrs[".toList ++ rest) = none := rfl
  have noReturn : between? "return make_element(" ", None, nodes)"
      ("attrs[".toList ++ rest) = none := rfl
  simp only [readStatement?, noFixed, noIf, noElif, noOperand, noElement, noText, noReturn,
    Option.bind_none, Option.none_or, Option.or_none]

theorem readAssignment?_attr (name : String) (value : List Char) :
    readAssignment? ("attrs[".toList ++ ((Text.quote name).toList ++ ("] = ".toList ++ value))) =
      if value = joinText.toList then some (joinAttr name)
      else (quoted? value).map (setAttr name) := by
  have target := between?_front "attrs[" ((Text.quote name).toList ++ ("] = ".toList ++ value))
  have source := between?_front "] = " value
  simp only [readAssignment?, target, read_quote_append, source, Option.bind_some,
    String.ofList_toList]

theorem reads_setAttr (name value : String) :
    readStatement? (setAttr name value).text.toList = some (setAttr name value) := by
  have whole : (setAttr name value).text.toList = "attrs[".toList ++
      ((Text.quote name).toList ++ ("] = ".toList ++ (Text.quote value).toList)) := by
    rw [← List.append_assoc, ← List.append_assoc, ← String.toList_append, ← String.toList_append,
      ← String.toList_append]
    rfl
  have notJoin : (Text.quote value).toList ≠ joinText.toList := by
    intro same
    have none : quoted? joinText.toList = none := rfl
    rw [← same, quoted?_quote] at none
    cases none
  rw [whole, readStatement?_attrs, readAssignment?_attr, if_neg notJoin, quoted?_quote,
    Option.map_some]

theorem reads_joinAttr (name : String) :
    readStatement? (joinAttr name).text.toList = some (joinAttr name) := by
  have whole : (joinAttr name).text.toList = "attrs[".toList ++
      ((Text.quote name).toList ++ ("] = ".toList ++ joinText.toList)) := by
    rw [← List.append_assoc, ← List.append_assoc, ← String.toList_append, ← String.toList_append,
      ← String.toList_append]
    rfl
  rw [whole, readStatement?_attrs, readAssignment?_attr, if_pos rfl]

theorem reads_returnWrapped (tag : String) :
    readStatement? (returnWrapped tag).text.toList = some (returnWrapped tag) := by
  have whole : (returnWrapped tag).text.toList =
      "return make_element(".toList ++ ((Text.quote tag).toList ++ ", None, nodes)".toList) :=
    toList_framed _ _ _
  have inside := between?_append "return make_element(" ", None, nodes)" (Text.quote tag).toList
  rw [← whole] at inside
  generalize (returnWrapped tag).text.toList = line at whole inside
  obtain ⟨noFixed, noIf, noElif, noOperand, noElement, noText, noAttr⟩ :
      readFixed? line = none ∧ between? "if " ":" line = none ∧ between? "elif " ":" line = none ∧
        between? "nodes.append(stringify(" "))" line = none ∧
        between? "nodes.append(make_element(" ", attrs, children))" line = none ∧
        between? "nodes.append(" ")" line = none ∧ readAssignment? line = none := by
    rw [whole]
    exact ⟨rfl, rfl, rfl, rfl, rfl, rfl, rfl⟩
  simp only [readStatement?, noFixed, noIf, noElif, noOperand, noElement, noText, noAttr, inside,
    quoted?_quote, Option.bind_none, Option.bind_some, Option.map_some, Option.none_or]

theorem reads_ifHeader {test read : Test} (reads : readTest? test.text.toList = some read) :
    readStatement? (ifHeader test).text.toList = some (ifHeader read) := by
  have whole : (ifHeader test).text.toList =
      "if ".toList ++ (test.text.toList ++ ":".toList) := toList_framed _ _ _
  have noFixed : readFixed? ("if ".toList ++ (test.text.toList ++ ":".toList)) = none := rfl
  have inside := between?_append "if " ":" test.text.toList
  simp only [whole, readStatement?, noFixed, inside, reads, Option.bind_some, Option.map_some,
    Option.none_or, Option.some_or]

theorem reads_elifHeader {operand read : Operand} (readsAs : operand.ReadsAs read) :
    readStatement? (elifHeader operand).text.toList = some (elifHeader read) := by
  have whole : (elifHeader operand).text.toList =
      "elif ".toList ++ (operand.text.toList ++ ":".toList) := toList_framed _ _ _
  have noFixed : readFixed? ("elif ".toList ++ (operand.text.toList ++ ":".toList)) = none := rfl
  have noIf : between? "if " ":" ("elif ".toList ++ (operand.text.toList ++ ":".toList)) = none :=
    rfl
  have inside := between?_append "elif " ":" operand.text.toList
  simp only [whole, readStatement?, noFixed, noIf, inside, readsAs.reads, Option.bind_none,
    Option.bind_some, Option.map_some, Option.none_or, Option.some_or]

/-- A statement is legible if what stands between its fixed beginning and its end is on one line. -/
theorem legible_of_framed {statement : Statement} {before inside after : String}
    (reads : readStatement? statement.text.toList = some statement)
    (framed : statement.text = before ++ inside ++ after)
    (front : '\n' ∉ before.toList ∧ ∃ c, before.toList.head? = some c ∧ c ≠ ' ')
    (middle : '\n' ∉ inside.toList) (back : '\n' ∉ after.toList) : statement.Legible := by
  obtain ⟨noBreak, first, starts, flush⟩ := front
  refine ⟨reads, ?_, ?_⟩
  · rw [framed]
    exact notMem_framed noBreak middle back
  · rw [framed, toList_framed, List.head?_append, starts]
    simpa using flush

theorem legible_appendText (text : String) : (appendText text).Legible :=
  legible_of_framed (reads_appendText text) rfl ⟨by decide, 'n', rfl, by decide⟩
    (newline_notMem_quote text) (by decide)

theorem legible_appendOperand {operand : Operand} (legible : operand.Legible) :
    (appendOperand operand).Legible :=
  legible_of_framed (reads_appendOperand legible.readsAs) rfl ⟨by decide, 'n', rfl, by decide⟩
    legible.noBreak (by decide)

theorem legible_appendElement (tag : String) : (appendElement tag).Legible :=
  legible_of_framed (reads_appendElement tag) rfl ⟨by decide, 'n', rfl, by decide⟩
    (newline_notMem_quote tag) (by decide)

theorem legible_returnWrapped (tag : String) : (returnWrapped tag).Legible :=
  legible_of_framed (reads_returnWrapped tag) rfl ⟨by decide, 'r', rfl, by decide⟩
    (newline_notMem_quote tag) (by decide)

theorem legible_setAttr (name value : String) : (setAttr name value).Legible := by
  have after : '\n' ∉ ("] = " ++ Text.quote value).toList := by
    rw [String.toList_append, List.mem_append]
    exact not_or.mpr ⟨by decide, newline_notMem_quote value⟩
  exact legible_of_framed (reads_setAttr name value) (String.append_assoc ..)
    ⟨by decide, 'a', rfl, by decide⟩ (newline_notMem_quote name) after

theorem legible_joinAttr (name : String) : (joinAttr name).Legible := by
  have after : '\n' ∉ ("] = " ++ joinText).toList := by decide
  exact legible_of_framed (reads_joinAttr name) (String.append_assoc ..)
    ⟨by decide, 'a', rfl, by decide⟩ (newline_notMem_quote name) after

theorem legible_ifHeader {operand : Operand} (legible : operand.Legible) :
    (ifHeader (.operand operand)).Legible :=
  legible_of_framed (reads_ifHeader (readTest?_operand legible.readsAs)) rfl
    ⟨by decide, 'i', rfl, by decide⟩ legible.noBreak (by decide)

theorem legible_ifOneNode : (ifHeader .oneNode).Legible :=
  legible_of_framed (reads_ifHeader (if_pos rfl)) rfl ⟨by decide, 'i', rfl, by decide⟩ (by decide)
    (by decide)

theorem legible_ifNoNodes : (ifHeader .noNodes).Legible :=
  legible_of_framed (reads_ifHeader rfl) rfl ⟨by decide, 'i', rfl, by decide⟩ (by decide)
    (by decide)

theorem legible_elifHeader {operand : Operand} (legible : operand.Legible) :
    (elifHeader operand).Legible :=
  legible_of_framed (reads_elifHeader legible.readsAs) rfl ⟨by decide, 'e', rfl, by decide⟩ legible.noBreak
    (by decide)

end Statement

end HtmlTemplate.Code
