import HtmlTemplate.Placement
import HtmlTemplate.Proofs.Extraction
import HtmlTemplate.Proofs.Html.PlainText

/-!
Placement undoes extraction on text. A template without markup is cut into its directives and the
texts between them; the marked text is read as HTML, run by run, and the page has the same
directives and texts in the same order, each text as one node.
-/

namespace HtmlTemplate

open Dom (Apart Solid addPart addMark fill marks)
open Dom.joinPieces (textPart)
open Extraction (Segment Cuts Splits marked)

/-- The directives of a template with the texts between them, as far as these are not empty. -/
def shownParts (segments : List Segment) (tail : List Char) : List Part :=
  segments.flatMap (fun segment => textPart segment.text ++ [.tag segment.tag]) ++ textPart tail

theorem shownParts_cons (segment : Segment) (segments : List Segment) (tail : List Char) :
    shownParts (segment :: segments) tail =
      textPart segment.text ++ .tag segment.tag :: shownParts segments tail := by
  simp [shownParts]

theorem fill_of_notMem {c : Char} {text : List Char} (absent : c ∉ text) :
    fill c text [] = text.map .char := by
  induction text with
  | nil => rfl
  | cons d rest ih =>
    rw [List.mem_cons, not_or] at absent
    rw [fill, if_neg (Ne.symm absent.1), ih absent.2, List.map_cons]

/-- The marked text of a template, filled again, shows its directives and texts. -/
theorem marks_shownParts {c : Char} {segments : List Segment} {tail template : List Char}
    (cuts : Cuts segments tail template) (absent : c ∉ template) :
    marks (shownParts segments tail) =
      fill c (marked [c] segments tail) (segments.map (·.tag)) := by
  induction cuts with
  | stop rest => simp [shownParts, marked, Dom.marks_textPart, fill_of_notMem absent]
  | @step segments rest more segment clear later ih =>
    simp only [List.mem_append, not_or] at absent
    have unmarked := fill_of_notMem absent.1.1
    have front : marked [c] (segment :: segments) rest =
        segment.text ++ c :: marked [c] segments rest := by simp [marked]
    have none : ([] : List Tag).length = segment.text.count c :=
      (List.count_eq_zero.mpr absent.1.1).symm
    -- the text in front of the placeholder takes no directive
    have filled := Dom.fill_append none (c :: marked [c] segments rest)
      ((segment :: segments).map (·.tag))
    rw [List.nil_append] at filled
    rw [shownParts_cons, front, filled, unmarked]
    simp only [marks, List.flatMap_append, List.flatMap_cons, List.map_cons, fill, if_pos]
    rw [← marks, ← marks, Dom.marks_textPart, ih absent.2]
    rfl

theorem solid_shownParts (segments : List Segment) (tail : List Char) :
    Solid (shownParts segments tail) := by
  induction segments with
  | nil => simpa [shownParts] using Dom.solid_textPart tail
  | cons segment segments ih =>
    rw [shownParts_cons]
    exact ih.piece_cons segment.text segment.tag

/-- There is a directive between any two texts. -/
theorem apart_shownParts (segments : List Segment) (tail : List Char) :
    Apart (shownParts segments tail) := by
  induction segments with
  | nil => simpa [shownParts] using Dom.apart_textPart tail
  | cons segment segments ih =>
    rw [shownParts_cons]
    exact ih.piece_cons segment.text segment.tag

/-- Filling the marked text of a template gives its directives and texts, each text in one piece. -/
theorem foldl_addMark_marked {c : Char} {segments : List Segment} {tail template : List Char}
    (cuts : Cuts segments tail template) (absent : c ∉ template) :
    (fill c (marked [c] segments tail) (segments.map (·.tag))).foldl addMark [] =
      shownParts segments tail := by
  rw [← marks_shownParts cuts absent, ← Dom.foldl_addPart (solid_shownParts segments tail),
    Dom.foldl_addPart_of_apart (by simpa using apart_shownParts segments tail), List.nil_append]

theorem count_single {c : Char} {reading : Reading}
    (single : (reading.placeholder.getD reading.settings.placeholder).toList = [c])
    (text : List Char) : reading.settings.count text reading.placeholder = text.count c := by
  have chosen (p : String) (same : p.toList = [c]) : Text.countOf p.toList text = text.count c := by
    rw [same, Text.countOf_singleton]
  unfold Settings.count
  cases given : reading.placeholder with
  | none =>
    rw [given] at single
    exact chosen _ single
  | some p =>
    rw [given] at single
    have filled : p.isEmpty = false := by
      rw [← Bool.not_eq_true, String.isEmpty_iff]
      rintro rfl
      cases single
    simp only [filled]
    exact chosen p single

/-- A page that shows parts, and has taken all directives, is exported as it is. -/
theorem readPage_of_shows {text : List Char} {b after : Html.Builder} {fragment : Dom.NodeId}
    {parts : List Part} (total : Nat) (read : Html.readFragment text b = .ok fragment after)
    (placed : after.dom.queue.tags = []) (content : after.dom.content fragment = .fragment)
    (shows : after.dom.Shows fragment parts) :
    ∃ linked last, readPage total text b = .ok (linked, .fragment (parts.map Part.node)) last ∧
      last.dom.queue = after.dom.queue := by
  have exported : ∃ dom, Dom.exportTree fragment after.dom =
      .ok (.fragment (parts.map Part.node)) dom ∧ dom.queue = after.dom.queue := by
    refine ⟨_, ?_, (Dom.foldl_setOwner (after.dom.leavesBelow (after.dom.cells.size + 1) fragment)
      (some .exported) after.dom).1⟩
    rw [← shows.tree content]
    rfl
  obtain ⟨dom, exported, queue⟩ := exported
  refine ⟨(after.dom.objects fragment).1.isLinked (after.dom.objects fragment).2, { after with dom },
    ?_, queue⟩
  rw [readPage, bind_ok read, get_bind, if_neg (by simp [Queue.isEmpty, placed])]
  refine bind_ok ?_ _
  simp only [Html.onDom, exported]

/-- Reading the marked text of a template without markup gives its directives and the texts between
them, in their order, and takes every directive; no two texts stand next to each other. -/
theorem place_markup_free {c : Char} {template : List Char} {extracted : Extracted}
    {reading : Reading} (found : extract [c] template = .ok extracted)
    (plain : ∀ d ∈ extracted.marked, d ≠ '<' ∧ d ≠ '&' ∧ d ≠ Char.ofNat 0 ∧ d ≠ '\r')
    (single : (reading.placeholder.getD reading.settings.placeholder).toList = [c])
    (container : reading.container.getD reading.settings.fragmentContainer = "div") :
    ∃ segments tail, Splits template segments tail ∧
      (place reading extracted.marked extracted.queue).outcome =
        .ok (.fragment ((shownParts segments tail).map Part.node)) ∧
      (place reading extracted.marked extracted.queue).queue.tags = [] ∧
      Apart (shownParts segments tail) := by
  have absent : ¬ [c] <:+: template := by
    intro occurs
    obtain ⟨position, failed⟩ := Extraction.extract_reserved occurs
    rw [failed] at found
    cases found
  have unused : c ∉ template :=
    fun member => absent ((List.singleton_infix_iff c template).mpr member)
  obtain ⟨segments, tail, splits, text, queue⟩ :=
    (Extraction.extract_eq_ok_iff absent extracted).mp found
  have count := Extraction.count_marked splits.1 unused
  have sentinels : reading.settings.count extracted.marked reading.placeholder =
      extracted.queue.size := by
    rw [count_single single, text, count, queue]
    simp [Queue.size, Queue.ofList]
  have pops : extracted.queue.Pops (segments.map (·.tag)) { tags := [], popped := segments.length } :=
    Queue.pops_iff.mpr (by simp [queue, Queue.ofList])
  have sentinel : reading.setup.sentinel = [c] := single
  obtain ⟨fragment, after, read, left, content, shows⟩ :=
    Html.readFragment_plain sentinel pops (by rw [text, count, List.length_map]) plain
  rw [text, foldl_addMark_marked splits.1 unused] at shows
  obtain ⟨linked, last, page, kept⟩ :=
    readPage_of_shows extracted.queue.size read (by rw [left]) content shows
  have placed : place reading extracted.marked extracted.queue =
      { outcome := .ok (.fragment ((shownParts segments tail).map Part.node))
        queue := last.dom.queue
        linked } := by
    unfold place
    have block : Text.lower "div" = "div" := by decide
    rw [if_neg (by simpa using sentinels), container, block, if_neg (by decide)]
    simp only [page]
  refine ⟨segments, tail, splits, by rw [placed], ?_, apart_shownParts segments tail⟩
  rw [placed, kept, left]

/-- A template in which white space marks the directives. -/
def blankMarked : Extracted :=
  { marked := [' ', 'a', '\n', 'b', ' ', ' ']
    queue := .ofList [.expression (.variable "x"), .comment "", .elseTag] }

theorem place_blank_markup_free :
    extract [' '] "{{x}}a\nb{##}{%else%}".toList = .ok blankMarked ∧
    ∃ segments tail, Splits "{{x}}a\nb{##}{%else%}".toList segments tail ∧
      (place { placeholder := some " " } blankMarked.marked blankMarked.queue).outcome =
        .ok (.fragment ((shownParts segments tail).map Part.node)) ∧
      (place { placeholder := some " " } blankMarked.marked blankMarked.queue).queue.tags = [] ∧
      Apart (shownParts segments tail) :=
  have found : extract [' '] "{{x}}a\nb{##}{%else%}".toList = .ok blankMarked := rfl
  have plain : ∀ d ∈ blankMarked.marked, d ≠ '<' ∧ d ≠ '&' ∧ d ≠ Char.ofNat 0 ∧ d ≠ '\r' := by
    simp [blankMarked]
  ⟨found, place_markup_free found plain (by decide) rfl⟩

end HtmlTemplate
