import HtmlTemplate.Proofs.Html.Reading
import HtmlTemplate.Proofs.Placement

/-!
Whether a placeholder can be met for which no directive is left. A template that has the placeholder
in it is refused, so the marked text has one for each directive. But what is met is the placeholders
of the page, and HTML has two ways to bring in more: a character reference that stands for the
placeholder, and a start tag in a table that belongs in front of it, whose element may be made twice.
Without these no directive is ever missing; with either, one can be.
-/

namespace HtmlTemplate

open Html (Rare blockCourse isReferenced normalizeLines)

/-- The character that stands for a directive by default. -/
def sentinel : Char := Char.ofNat 0x1F42E

theorem rare_sentinel : Rare sentinel := ⟨by decide +kernel, by decide +kernel⟩

/-! Boolean attributes -/

/-- The sentinel is its own lower case, wherever it stands. -/
theorem sentinel_mem_lowerFrom {before text : List Char} (member : sentinel ∈ text) :
    sentinel ∈ Text.lowerFrom before text := by
  induction text generalizing before with
  | nil => cases member
  | cons d rest ih =>
    refine List.mem_append.mpr ?_
    rcases List.mem_cons.mp member with same | member
    · subst same
      have image : Text.lowerChar sentinel = sentinel := by decide +kernel
      have other : sentinel.toNat ≠ 0x3A3 ∧ sentinel.toNat ≠ 0x130 := by decide +kernel
      rw [if_neg other.1, if_neg other.2, image]
      exact .inl (List.mem_singleton.mpr rfl)
    · exact .inr (ih member)

theorem unflagged_sentinel : Dom.Unflagged sentinel booleanAttributes := by
  intro name boolean member
  have lowered : sentinel ∈ (Text.lower name).toList := by
    rw [Text.lower, String.toList_ofList]
    exact sentinel_mem_lowerFrom member
  have none : ∀ known ∈ booleanAttributes, sentinel ∉ known.toList := by decide +kernel
  exact none _ (List.contains_iff_mem.mp boolean) lowered

/-! Pages -/

/-- Exporting takes no directives, so a page fails for want of one only where its fragment does. -/
theorem readFragment_of_readPage {total : Nat} {text : List Char} {b after : Html.Builder}
    {number : Nat} (failed : readPage total text b = .error (.placeholder (.underflow number)) after) :
    Html.readFragment text b = .error (.placeholder (.underflow number)) after := by
  unfold readPage at failed
  cases read : Html.readFragment text b with
  | error failure last =>
    rw [bind_error read] at failed
    cases failed
    rfl
  | ok fragment mid =>
    rw [bind_ok read, get_bind] at failed
    split at failed
    · cases failed
    · cases failed

/-- A placement fails for want of a directive only where its page does. -/
theorem readPage_of_place {text : List Char} {queue : Queue} {number : Nat}
    (failed : (place {} text queue).outcome = .error (.build (.placeholder (.underflow number)))) :
    ∃ after, readPage queue.size text
      { dom := { setup := ({} : Reading).setup, queue }, container := "div" } =
        .error (.placeholder (.underflow number)) after := by
  have block : Text.lower "div" = "div" := rfl
  unfold place at failed
  dsimp only at failed
  split at failed
  · cases failed
  · split at failed
    · cases failed
    · split at failed
      next => cases failed
      next failure after page =>
        cases failed
        exact ⟨after, block ▸ page⟩

/-- The page of a template never wants for a directive, provided that no character reference of its
text stands for the placeholder, and that no start tag with a directive in its attributes is met in
a table that it does not belong in. -/
theorem place_ne_underflow {template : List Char} {extracted : Extracted}
    (found : extract ({} : Settings).placeholder.toList template = .ok extracted)
    (unreferenced : isReferenced sentinel (normalizeLines extracted.marked) = false)
    (calm : ∀ visit ∈ blockCourse ({} : Reading).setup extracted.queue extracted.marked,
      visit.doubles sentinel = false) (number : Nat) :
    (place {} extracted.marked extracted.queue).outcome ≠
      .error (.build (.placeholder (.underflow number))) := by
  have single : ({} : Settings).placeholder.toList = [sentinel] := rfl
  rw [single] at found
  have absent : ¬ [sentinel] <:+: template := by
    intro occurs
    obtain ⟨position, failed⟩ := Extraction.extract_reserved occurs
    rw [failed] at found
    cases found
  obtain ⟨count, -⟩ := Extraction.extract_single absent found
  intro failed
  obtain ⟨after, page⟩ := readPage_of_place failed
  exact Html.not_isShort_of_readFragment rare_sentinel single unflagged_sentinel count.le
    unreferenced calm (readFragment_of_readPage page) ⟨number, rfl⟩

/-- What holds of an extraction can be checked by extracting. -/
theorem exists_extract_of_any {placeholder template : List Char} {test : Extracted → Bool}
    (checked : (extract placeholder template).toOption.any test = true) :
    ∃ extracted, extract placeholder template = .ok extracted ∧ test extracted = true := by
  cases found : extract placeholder template with
  | error e =>
    rw [found] at checked
    cases checked
  | ok extracted =>
    rw [found] at checked
    exact ⟨extracted, rfl, checked⟩

/-- A page with a formatting element that is opened again, text that goes in front of a table, and
attributes with directives in and out of it. -/
def crowded : List Char := "<p><b title=\"{{a}}\">x<p>&#38;<table>{{b}}<td class=\"{{c}}\">".toList

theorem place_crowded_ne_underflow :
    ∃ extracted, extract ({} : Settings).placeholder.toList crowded = .ok extracted ∧
      isReferenced sentinel (normalizeLines extracted.marked) = false ∧
      (∀ visit ∈ blockCourse ({} : Reading).setup extracted.queue extracted.marked,
        visit.doubles sentinel = false) ∧
      ∀ number, (place {} extracted.marked extracted.queue).outcome ≠
        .error (.build (.placeholder (.underflow number))) := by
  have checked : (extract ({} : Settings).placeholder.toList crowded).toOption.any
      (fun extracted => !isReferenced sentinel (normalizeLines extracted.marked) &&
        (blockCourse ({} : Reading).setup extracted.queue extracted.marked).all
          (!·.doubles sentinel)) = true := by decide +kernel
  obtain ⟨extracted, found, holds⟩ := exists_extract_of_any checked
  obtain ⟨unreferenced, calm⟩ := Bool.and_eq_true_iff.mp holds
  have unreferenced : isReferenced sentinel (normalizeLines extracted.marked) = false := by
    simpa using unreferenced
  have calm : ∀ visit ∈ blockCourse ({} : Reading).setup extracted.queue extracted.marked,
      visit.doubles sentinel = false := by simpa using calm
  exact ⟨extracted, found, unreferenced, calm, place_ne_underflow found unreferenced calm⟩

/-! Pages with more placeholders than directives -/

/-- The number of the placeholder for which no directive was left. -/
def Placed.underflow? (placed : Placed) : Option Nat :=
  match placed.outcome with
  | .error (.build (.placeholder (.underflow number))) => some number
  | _ => none

theorem Placed.outcome_of_underflow? {placed : Placed} {number : Nat}
    (short : placed.underflow? = some number) :
    placed.outcome = .error (.build (.placeholder (.underflow number))) := by
  unfold Placed.underflow? at short
  split at short
  next found same =>
    cases short
    exact same
  next => cases short

/-- A reference that stands for the placeholder. -/
def disguised : List Char := "&#128046;".toList

/-- The inner of two tags that do not belong in a table is made twice: once in front of the table,
where it does not go because the outer one is open, and once in the outer one. -/
def doubled : List Char := "<table><b><i class=\"{{ a }}\">x</i></b></table>".toList

/-- Neither a template without directives nor one with a single one is safe from a placeholder for
which there is no directive. -/
theorem place_underflows :
    (∃ extracted, extract ({} : Settings).placeholder.toList disguised = .ok extracted ∧
      (place {} extracted.marked extracted.queue).outcome =
        .error (.build (.placeholder (.underflow 1)))) ∧
    ∃ extracted, extract ({} : Settings).placeholder.toList doubled = .ok extracted ∧
      (place {} extracted.marked extracted.queue).outcome =
        .error (.build (.placeholder (.underflow 2))) := by
  have first : (extract ({} : Settings).placeholder.toList disguised).toOption.any
      (fun extracted => (place {} extracted.marked extracted.queue).underflow? == some 1) = true := by
    decide +kernel
  have second : (extract ({} : Settings).placeholder.toList doubled).toOption.any
      (fun extracted => (place {} extracted.marked extracted.queue).underflow? == some 2) = true := by
    decide +kernel
  constructor
  · obtain ⟨extracted, found, short⟩ := exists_extract_of_any first
    exact ⟨extracted, found, Placed.outcome_of_underflow? (beq_iff_eq.mp short)⟩
  · obtain ⟨extracted, found, short⟩ := exists_extract_of_any second
    exact ⟨extracted, found, Placed.outcome_of_underflow? (beq_iff_eq.mp short)⟩

end HtmlTemplate
