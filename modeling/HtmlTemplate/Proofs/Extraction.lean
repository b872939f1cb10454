import HtmlTemplate.Extraction
import HtmlTemplate.Proofs.Directive.Boundary
import HtmlTemplate.Proofs.Text.Pieces

/-!
Extraction is exact. A template has at most one cut into directives and texts in which no opener
starts; extraction finds it, and fails at the first opener that it cannot cut at when there is none.
The scan is followed from one directive to the next: what stands between two of them is passed on,
and a directive is read as it is read by itself.
-/

namespace HtmlTemplate.Extraction

open Directive

/-- Whether an opener stands at the front of a text. -/
def Opens (s : List Char) : Prop :=
  ['{', '{'] <+: s ∨ ['{', '%'] <+: s ∨ ['{', '#'] <+: s

/-- No opener starts inside `text` when `rest` follows it, also none that ends behind it. -/
def Clear (text rest : List Char) : Prop :=
  ∀ before after, text = before ++ after → after ≠ [] → ¬ Opens (after ++ rest)

/-- A directive with the text in front of it. -/
structure Segment where
  text : List Char
  directive : List Char
  tag : Tag
  parsed : parse directive = .ok tag

/-- A template is cut into segments and what is left behind them. -/
inductive Cuts : List Segment → List Char → List Char → Prop
  | stop (rest : List Char) : Cuts [] rest rest
  | step {segments : List Segment} {rest template : List Char} (segment : Segment)
      (clear : Clear segment.text (segment.directive ++ template))
      (later : Cuts segments rest template) :
      Cuts (segment :: segments) rest (segment.text ++ segment.directive ++ template)

/-- A template is cut into segments and a last text. -/
def Splits (template : List Char) (segments : List Segment) (tail : List Char) : Prop :=
  Cuts segments tail template ∧ Clear tail []

/-- The template with a placeholder for each directive. -/
def marked (placeholder : List Char) (segments : List Segment) (tail : List Char) : List Char :=
  segments.flatMap (fun segment => segment.text ++ placeholder) ++ tail

theorem openerAt?_eq_none_iff (s : List Char) : openerAt? s = none ↔ ¬ Opens s := by
  simp [openerAt?, openers, Opens, List.isPrefixOf_iff_prefix]

theorem openerAt?_of_opens {s : List Char} (opens : Opens s) :
    ∃ opener, openerAt? s = some opener := by
  cases found : openerAt? s with
  | none => exact absurd opens ((openerAt?_eq_none_iff s).mp found)
  | some opener => exact ⟨opener, rfl⟩

theorem Opens.ne_nil {s : List Char} (opens : Opens s) : s ≠ [] := by
  rintro rfl
  rcases opens with front | front | front <;> simp at front

theorem Opens.append {s : List Char} (opens : Opens s) (rest : List Char) : Opens (s ++ rest) := by
  rcases opens with front | front | front
  · exact .inl (front.trans (List.prefix_append s rest))
  · exact .inr (.inl (front.trans (List.prefix_append s rest)))
  · exact .inr (.inr (front.trans (List.prefix_append s rest)))

theorem shaped_opens {d : List Char} (shaped : Shaped d) : Opens d := by
  obtain ⟨shape, fits⟩ := shaped
  cases fits with
  | expression => left; simp
  | statement => right; left; simp
  | comment => right; right; simp

theorem shaped_of_parse {d : List Char} {tag : Tag} (parsed : parse d = .ok tag) : Shaped d := by
  obtain ⟨shape, fits, -⟩ := (parse_eq_ok_iff d tag).mp parsed
  exact ⟨shape, fits⟩

theorem Segment.opens (segment : Segment) (rest : List Char) : Opens (segment.directive ++ rest) :=
  (shaped_opens (shaped_of_parse segment.parsed)).append rest

/-- The tag of a segment is what its directive is parsed to. -/
theorem Segment.eq_of_parts (a b : Segment) (text : a.text = b.text)
    (directive : a.directive = b.directive) : a = b := by
  have tag : a.tag = b.tag := by
    have parsed := a.parsed
    rw [directive, b.parsed] at parsed
    exact (Except.ok.inj parsed).symm
  cases a
  cases b
  cases text
  cases directive
  cases tag
  rfl

theorem Clear.tail {c : Char} {text rest : List Char} (clear : Clear (c :: text) rest) :
    Clear text rest := by
  intro before after cut filled
  exact clear (c :: before) after (by rw [cut]; rfl) filled

theorem Clear.head {c : Char} {text rest : List Char} (clear : Clear (c :: text) rest) :
    ¬ Opens (c :: (text ++ rest)) :=
  clear [] (c :: text) rfl (by simp)

theorem clear_cons {c : Char} {text rest : List Char} (first : ¬ Opens (c :: (text ++ rest)))
    (later : Clear text rest) : Clear (c :: text) rest := by
  intro before after cut filled
  cases before with
  | nil =>
    rw [List.nil_append] at cut
    rw [← cut]
    exact first
  | cons d before => exact later before after (List.cons.inj cut).2 filled

/-- A text has no opener, or is cut at its first one. -/
theorem clear_or_opens (s : List Char) :
    Clear s [] ∨ ∃ text rest, s = text ++ rest ∧ Clear text rest ∧ Opens rest := by
  induction s with
  | nil =>
    left
    intro before after cut filled
    simp_all
  | cons c s ih =>
    by_cases first : Opens (c :: s)
    · right
      refine ⟨[], c :: s, rfl, ?_, first⟩
      intro before after cut filled
      simp_all
    · rcases ih with clear | ⟨text, rest, rfl, clear, opens⟩
      · left
        exact clear_cons (by simpa using first) clear
      · right
        exact ⟨c :: text, rest, rfl, clear_cons first clear, opens⟩

theorem emit_emit (a b : List Char) (scan : Scan) :
    (scan.emit b).emit a = scan.emit (a ++ b) := by
  cases scan with
  | mk found outcome => cases outcome <;> simp [Scan.emit, Except.map]

theorem emit_nil (scan : Scan) : scan.emit [] = scan := by
  cases scan with
  | mk found outcome => cases outcome <;> simp [Scan.emit, Except.map]

theorem scan_skip (placeholder passed : List Char) (offset : Nat) (rest : List Char) :
    scan placeholder passed.length offset (passed ++ rest) = scan placeholder 0 offset rest := by
  induction passed with
  | nil => rfl
  | cons c passed ih => simpa [scan] using ih

/-- Text in which no opener starts is passed on as it is. -/
theorem scan_text (placeholder : List Char) (offset : Nat) {text rest : List Char}
    (clear : Clear text rest) :
    scan placeholder 0 offset (text ++ rest) =
      (scan placeholder 0 (offset + text.length) rest).emit text := by
  induction text generalizing offset with
  | nil => simp [emit_nil]
  | cons c text ih =>
    have unopened := (openerAt?_eq_none_iff _).mpr clear.head
    simp only [List.cons_append, scan, unopened, ih (offset + 1) clear.tail, emit_emit,
      List.nil_append, List.length_cons]
    rw [Nat.add_assoc, Nat.add_comm 1]

/-- A directive is recorded, and a placeholder stands in its place. -/
theorem scan_directive (placeholder : List Char) (offset : Nat) {d : List Char} {tag : Tag}
    (parsed : parse d = .ok tag) (rest : List Char) :
    ∃ found, found.tag = tag ∧ scan placeholder 0 offset (d ++ rest) =
      ((scan placeholder 0 (offset + placeholder.length) rest).emit placeholder).record found := by
  have shaped := shaped_of_parse parsed
  obtain ⟨opener, opened⟩ := openerAt?_of_opens ((shaped_opens shaped).append rest)
  have front : parseFront (d ++ rest) = .ok (tag, d.length) := by
    rw [parseFront_shaped_append shaped, parsed]
    rfl
  cases d with
  | nil => exact absurd rfl (shaped_opens shaped).ne_nil
  | cons c d =>
    -- The scan skips what is left of the directive, one character less than its length.
    have skipped := scan_skip placeholder d (offset + placeholder.length) rest
    refine ⟨{ opener, source := (c :: d ++ rest).take (c :: d).length, offset, tag }, rfl, ?_⟩
    simp only [List.cons_append] at opened front ⊢
    simp only [scan, opened, front, List.length_cons, Nat.add_sub_cancel, skipped]

theorem scan_stuck (placeholder : List Char) (offset : Nat) {s : List Char} {e : DirectiveError}
    (opens : Opens s) (failed : parseFront s = .error e) :
    scan placeholder 0 offset s = { found := [], outcome := .error e } := by
  obtain ⟨opener, opened⟩ := openerAt?_of_opens opens
  cases s with
  | nil => exact absurd rfl opens.ne_nil
  | cons c s => simp only [scan, opened, failed]

theorem scan_clear (placeholder : List Char) (offset : Nat) {tail : List Char}
    (clear : Clear tail []) :
    scan placeholder 0 offset tail = { found := [], outcome := .ok tail } := by
  have scanned := scan_text placeholder offset clear
  rw [List.append_nil] at scanned
  rw [scanned]
  simp [scan, Scan.emit, Except.map]

/-- The scan of a template up to where its segments end. -/
theorem scan_cuts (placeholder : List Char) (offset : Nat) {segments : List Segment}
    {rest template : List Char} (cuts : Cuts segments rest template) :
    ∃ found later, found.map (·.tag) = segments.map (·.tag) ∧
      scan placeholder 0 offset template =
        { found := found ++ (scan placeholder 0 later rest).found
          outcome := (scan placeholder 0 later rest).outcome.map
            (marked placeholder segments [] ++ ·) } := by
  induction cuts generalizing offset with
  | stop rest =>
    refine ⟨[], offset, rfl, ?_⟩
    cases scan placeholder 0 offset rest with
    | mk found outcome => cases outcome <;> simp [marked, Except.map]
  | @step segments rest template segment clear later ih =>
    obtain ⟨first, tagged, scanned⟩ :=
      scan_directive placeholder (offset + segment.text.length) segment.parsed template
    obtain ⟨found, place, tags, same⟩ :=
      ih (offset + segment.text.length + placeholder.length)
    refine ⟨first :: found, place, by simp [tagged, tags], ?_⟩
    rw [List.append_assoc, scan_text placeholder offset clear, scanned, same]
    cases (scan placeholder 0 place rest).outcome <;>
      simp [Scan.emit, Scan.record, Except.map, marked]

theorem parseFront_ok {s : List Char} {tag : Tag} {size : Nat}
    (read : parseFront s = .ok (tag, size)) :
    ∃ d rest, s = d ++ rest ∧ parse d = .ok tag := by
  rcases parse_cases s with ⟨shape, fits, -⟩ | ⟨front, rest, shaped, -, rfl, -⟩ |
    ⟨-, rule, offset, outcome⟩
  · refine ⟨s, [], by simp, ?_⟩
    have front := parseFront_shaped_append ⟨shape, fits⟩ []
    rw [List.append_nil, read] at front
    obtain ⟨found, parsed, same⟩ := (map_eq_ok_iff _ _ _).mp front.symm
    cases same
    exact parsed
  · refine ⟨front, rest, rfl, ?_⟩
    rw [parseFront_shaped_append shaped rest] at read
    obtain ⟨found, parsed, same⟩ := (map_eq_ok_iff _ _ _).mp read
    cases same
    exact parsed
  · rw [parseFront, outcome] at read
    cases read

/-- A template is cut to its end, or up to an opener at which no directive can be read. -/
theorem splits_or_stuck (template : List Char) :
    (∃ segments tail, Splits template segments tail) ∨
    ∃ segments text rest e, Cuts segments (text ++ rest) template ∧ Clear text rest ∧ Opens rest ∧
      parseFront rest = .error e := by
  rcases clear_or_opens template with clear | ⟨text, rest, rfl, clear, opens⟩
  · exact .inl ⟨[], template, .stop template, clear⟩
  cases read : parseFront rest with
  | error e => exact .inr ⟨[], text, rest, e, .stop _, clear, opens, read⟩
  | ok found =>
    obtain ⟨tag, size⟩ := found
    obtain ⟨d, more, rfl, parsed⟩ := parseFront_ok read
    let segment : Segment := ⟨text, d, tag, parsed⟩
    have shorter : more.length < (text ++ (d ++ more)).length := by
      have filled := List.length_pos_iff.mpr (shaped_opens (shaped_of_parse parsed)).ne_nil
      simp only [List.length_append]
      omega
    rw [← List.append_assoc]
    rcases splits_or_stuck more with ⟨segments, tail, cuts, last⟩ |
      ⟨segments, text', rest', e, cuts, clear', opens', failed⟩
    · exact .inl ⟨segment :: segments, tail, .step segment clear cuts, last⟩
    · exact .inr ⟨segment :: segments, text', rest', e, .step segment clear cuts, clear', opens',
        failed⟩
termination_by template.length

/-- Two openers that are the first of a text are the same one. -/
theorem clear_unique {textA textB restA restB : List Char} (clearA : Clear textA restA)
    (clearB : Clear textB restB) (opensA : Opens restA) (opensB : Opens restB)
    (same : textA ++ restA = textB ++ restB) : textA = textB ∧ restA = restB := by
  induction textA generalizing textB with
  | nil =>
    cases textB with
    | nil => exact ⟨rfl, same⟩
    | cons c textB =>
      rw [List.nil_append] at same
      rw [same] at opensA
      exact absurd opensA clearB.head
  | cons c textA ih =>
    cases textB with
    | nil =>
      rw [List.nil_append] at same
      rw [← same] at opensB
      exact absurd opensB clearA.head
    | cons d textB =>
      obtain ⟨rfl, later⟩ := List.cons.inj same
      obtain ⟨rfl, rest⟩ := ih clearA.tail clearB.tail later
      exact ⟨rfl, rest⟩

/-- A text without an opener does not start with a segment. -/
theorem not_clear_segment (segment : Segment) (rest : List Char) :
    ¬ Clear (segment.text ++ segment.directive ++ rest) [] := by
  intro clear
  have opens := segment.opens rest
  refine clear segment.text (segment.directive ++ rest) (List.append_assoc _ _ _) opens.ne_nil ?_
  rw [List.append_nil]
  exact opens

/-- There is only one way to cut a template to its end. -/
theorem splits_unique {template : List Char} {segmentsA segmentsB : List Segment}
    {tailA tailB : List Char} (splitA : Splits template segmentsA tailA)
    (splitB : Splits template segmentsB tailB) : segmentsA = segmentsB ∧ tailA = tailB := by
  obtain ⟨cutsA, lastA⟩ := splitA
  obtain ⟨cutsB, lastB⟩ := splitB
  induction cutsA generalizing segmentsB with
  | stop rest =>
    cases cutsB with
    | stop => exact ⟨rfl, rfl⟩
    | step segment => exact absurd lastA (not_clear_segment segment _)
  | @step segments rest more segment clear later ih =>
    -- The other cut can be taken apart only when its template is not yet written out.
    generalize whole : segment.text ++ segment.directive ++ more = template at cutsB
    cases cutsB with
    | stop =>
      subst whole
      exact absurd lastB (not_clear_segment segment _)
    | @step segments' _ more' segment' clear' later' =>
      rw [List.append_assoc, List.append_assoc] at whole
      obtain ⟨text, rest⟩ := clear_unique clear clear' (segment.opens _) (segment'.opens _) whole
      have directive := shaped_prefix_unique (shaped_of_parse segment.parsed)
        (shaped_of_parse segment'.parsed) rest
      rw [directive] at rest
      obtain rfl := List.append_cancel_left rest
      obtain ⟨rfl, rfl⟩ := ih lastA later'
      exact ⟨by rw [segment.eq_of_parts segment' text directive], rfl⟩

theorem extract_reserved {placeholder template : List Char} (occurs : placeholder <:+: template) :
    ∃ position, extract placeholder template =
      .error (.placeholder (.reserved (String.ofList placeholder) position)) := by
  cases found : Text.indexOf? placeholder template with
  | none => exact absurd occurs ((Text.indexOf?_eq_none_iff _ _).mp found)
  | some position => exact ⟨position, by simp [extract, extractWithFound, found]⟩

theorem extract_of_splits {placeholder template : List Char} {segments : List Segment}
    {tail : List Char} (absent : ¬ placeholder <:+: template)
    (splits : Splits template segments tail) :
    extract placeholder template =
      .ok { marked := marked placeholder segments tail
            queue := .ofList (segments.map (·.tag)) } := by
  obtain ⟨cuts, last⟩ := splits
  obtain ⟨found, later, tags, scanned⟩ := scan_cuts placeholder 0 cuts
  rw [scan_clear placeholder later last] at scanned
  simp [extract, extractWithFound, (Text.indexOf?_eq_none_iff _ _).mpr absent, scanned, Except.map,
    tags, marked]

theorem extract_of_stuck {placeholder template : List Char} {segments : List Segment}
    {text rest : List Char} {e : DirectiveError} (absent : ¬ placeholder <:+: template)
    (cuts : Cuts segments (text ++ rest) template) (clear : Clear text rest) (opens : Opens rest)
    (failed : parseFront rest = .error e) :
    extract placeholder template = .error (.directive e) := by
  obtain ⟨found, later, tags, scanned⟩ := scan_cuts placeholder 0 cuts
  rw [scan_text placeholder later clear, scan_stuck placeholder _ opens failed] at scanned
  simp [extract, extractWithFound, (Text.indexOf?_eq_none_iff _ _).mpr absent, scanned, Except.map,
    Scan.emit]

theorem extract_eq_ok_iff {placeholder template : List Char} (absent : ¬ placeholder <:+: template)
    (result : Extracted) :
    extract placeholder template = .ok result ↔
      ∃ segments tail, Splits template segments tail ∧
        result.marked = marked placeholder segments tail ∧
        result.queue = .ofList (segments.map (·.tag)) := by
  constructor
  · intro extracted
    rcases splits_or_stuck template with ⟨segments, tail, splits⟩ |
      ⟨segments, text, rest, e, cuts, clear, opens, failed⟩
    · rw [extract_of_splits absent splits] at extracted
      cases extracted
      exact ⟨segments, tail, splits, rfl, rfl⟩
    · rw [extract_of_stuck absent cuts clear opens failed] at extracted
      cases extracted
  · rintro ⟨segments, tail, splits, same, tags⟩
    rw [extract_of_splits absent splits, ← same, ← tags]

/-- What is cut off a template is a front of it. -/
theorem Cuts.suffix {segments : List Segment} {rest template : List Char}
    (cuts : Cuts segments rest template) : ∃ front, template = front ++ rest := by
  induction cuts with
  | stop rest => exact ⟨[], rfl⟩
  | step segment clear later ih =>
    obtain ⟨front, same⟩ := ih
    exact ⟨segment.text ++ segment.directive ++ front, by rw [same]; simp⟩

/-- An opener behind the cut is looked at in its place in the whole template. -/
theorem bound_of_stuck {template text rest : List Char} {segments : List Segment}
    {e : DirectiveError} (cuts : Cuts segments (text ++ rest) template)
    (failed : parseFront rest = .error e) :
    bound template (template.length - rest.length) = .error e := by
  obtain ⟨front, same⟩ := cuts.suffix
  have place : template.length - rest.length = (front ++ text).length := by
    rw [same]
    simp only [List.length_append]
    omega
  rw [bound, place, same, ← List.append_assoc, List.drop_left, failed]
  rfl

theorem opens_iff (s : List Char) :
    Opens s ↔ ∃ c rest, s = '{' :: c :: rest ∧ (c = '{' ∨ c = '%' ∨ c = '#') := by
  constructor
  · rintro (⟨rest, rfl⟩ | ⟨rest, rfl⟩ | ⟨rest, rfl⟩)
    · exact ⟨'{', rest, rfl, .inl rfl⟩
    · exact ⟨'%', rest, rfl, .inr (.inl rfl)⟩
    · exact ⟨'#', rest, rfl, .inr (.inr rfl)⟩
  · rintro ⟨c, rest, rfl, rfl | rfl | rfl⟩
    · exact .inl ⟨rest, rfl⟩
    · exact .inr (.inl ⟨rest, rfl⟩)
    · exact .inr (.inr ⟨rest, rfl⟩)

/-- A character other than an opening brace makes no opener in the place of a directive: the text
in front of a directive does not end with such a brace. -/
theorem clear_marked_text {c : Char} {text d more rest : List Char} (clear : Clear text (d ++ more))
    (opens : Opens d) (other : c ≠ '{') (later : Clear rest []) :
    Clear (text ++ c :: rest) [] := by
  induction text with
  | nil =>
    refine clear_cons ?_ later
    rw [opens_iff]
    rintro ⟨e, after, same, -⟩
    exact other (List.cons.inj same).1
  | cons a text ih =>
    refine clear_cons ?_ (ih clear.tail)
    intro opened
    apply clear.head
    obtain ⟨b, d, rfl, -⟩ := (opens_iff d).mp opens
    rw [opens_iff] at opened ⊢
    obtain ⟨e, after, same, mark⟩ := opened
    obtain ⟨rfl, next⟩ := List.cons.inj same
    cases text with
    -- A brace right before the placeholder would have opened with the directive's own brace.
    | nil => exact ⟨'{', _, rfl, .inl rfl⟩
    | cons f text =>
      obtain ⟨rfl, -⟩ := List.cons.inj next
      exact ⟨f, _, rfl, mark⟩

theorem clear_marked {c : Char} {segments : List Segment} {tail template : List Char}
    (cuts : Cuts segments tail template) (last : Clear tail []) (absent : c ∉ template) :
    Clear (marked [c] segments tail) [] := by
  induction cuts with
  | stop rest => exact last
  | @step segments rest more segment clear later ih =>
    have opens := shaped_opens (shaped_of_parse segment.parsed)
    have other : c ≠ '{' := by
      rintro rfl
      obtain ⟨b, d, directive, -⟩ := (opens_iff _).mp opens
      simp [directive] at absent
    have inner : c ∉ more := fun member => absent (List.mem_append_right _ member)
    simpa [marked] using clear_marked_text clear opens other (ih last inner)

theorem count_marked {c : Char} {segments : List Segment} {tail template : List Char}
    (cuts : Cuts segments tail template) (absent : c ∉ template) :
    (marked [c] segments tail).count c = segments.length := by
  induction cuts with
  | stop rest => simpa [marked, List.count_eq_zero] using absent
  | @step segments rest more segment clear later ih =>
    simp only [List.mem_append, not_or] at absent
    have text : segment.text.count c = 0 := List.count_eq_zero.mpr absent.1.1
    have rest := ih absent.2
    simp only [marked] at rest ⊢
    simp only [List.flatMap_cons, List.count_append, text, List.count_singleton_self,
      List.length_cons] at rest ⊢
    omega

theorem extract_single {c : Char} {template : List Char} {result : Extracted}
    (absent : ¬ [c] <:+: template) (extracted : extract [c] template = .ok result) :
    result.marked.count c = result.queue.size ∧ Clear result.marked [] := by
  obtain ⟨segments, tail, splits, same, tags⟩ := (extract_eq_ok_iff absent result).mp extracted
  have unused : c ∉ template :=
    fun member => absent ((List.singleton_infix_iff c template).mpr member)
  rw [same, tags, count_marked splits.1 unused]
  exact ⟨by simp [Queue.size, Queue.ofList], clear_marked splits.1 splits.2 unused⟩

/-- Extraction succeeds exactly on the templates that can be cut to their end, which they can in one
way only, and gives the texts of that cut around the placeholders and its directives in order. On
any other template it fails as reading a directive fails at the first opener that stands outside
the directives read before. -/
theorem extract_exact (template placeholder : List Char) :
    (placeholder <:+: template → ∃ position, extract placeholder template =
      .error (.placeholder (.reserved (String.ofList placeholder) position))) ∧
    (¬ placeholder <:+: template →
      (∀ result, extract placeholder template = .ok result ↔
        ∃ segments tail, Splits template segments tail ∧
          result.marked = marked placeholder segments tail ∧
          result.queue = .ofList (segments.map (·.tag))) ∧
      (∀ segmentsA segmentsB tailA tailB, Splits template segmentsA tailA →
        Splits template segmentsB tailB → segmentsA = segmentsB ∧ tailA = tailB) ∧
      ((¬ ∃ segments tail, Splits template segments tail) →
        ∃ segments text rest e, Cuts segments (text ++ rest) template ∧ Clear text rest ∧
          Opens rest ∧ bound template (template.length - rest.length) = .error e ∧
          extract placeholder template = .error (.directive e)) ∧
      (∀ c result, placeholder = [c] → extract placeholder template = .ok result →
        result.marked.count c = result.queue.size ∧ Clear result.marked [])) := by
  refine ⟨extract_reserved, fun absent => ⟨extract_eq_ok_iff absent, ?_, ?_, ?_⟩⟩
  · exact fun _ _ _ _ => splits_unique
  · intro unsplit
    rcases splits_or_stuck template with ⟨segments, tail, splits⟩ |
      ⟨segments, text, rest, e, cuts, clear, opens, failed⟩
    · exact absurd ⟨segments, tail, splits⟩ unsplit
    · exact ⟨segments, text, rest, e, cuts, clear, opens, bound_of_stuck cuts failed,
        extract_of_stuck absent cuts clear opens failed⟩
  · rintro c result rfl extracted
    exact extract_single absent extracted

end HtmlTemplate.Extraction
