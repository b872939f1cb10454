import HtmlTemplate.Html.Fragment
import HtmlTemplate.Proofs.Dom.Parts

/-!
Text without markup, read as the content of an element of a body. It is scanned in runs of white
space and of other text, whatever its sentinels are, and each run is appended to the root of the
fragment. The root then shows the text with its sentinels replaced, as if it had been appended at
once.
-/

namespace HtmlTemplate.Html

open Dom (Store addMark fill fill_append)

/-- A character that is no part of markup or of a reference, and that scanning keeps. -/
def IsPlain (c : Char) : Prop := c ≠ '<' ∧ c ≠ '&' ∧ c ≠ nul ∧ c ≠ '\r'

/-! Scanning -/

theorem normalizeLines_plain {text : List Char} (plain : ∀ c ∈ text, IsPlain c) :
    normalizeLines text = text := by
  induction text with
  | nil => rfl
  | cons c rest ih =>
    obtain ⟨first, others⟩ := List.forall_mem_cons.mp plain
    rw [normalizeLines, ih others]
    · rintro rest rfl
      exact absurd rfl first.2.2.2
    · rintro rfl
      exact absurd rfl first.2.2.2

/-- A token of text. -/
def IsText (front : List Char) (token : Token) : Prop :=
  token = .characters front ∨ token = .spaces front

/-- A step of scanning takes a run off the text. -/
theorem scan_plain (context : ScanContext) {text : List Char} (plain : ∀ c ∈ text, IsPlain c)
    (filled : text ≠ []) :
    ∃ token front rest, scan context .data text = some { token := some token, model := .data, rest } ∧
      IsText front token ∧ text = front ++ rest ∧ front ≠ [] := by
  obtain ⟨c, rest, rfl⟩ := List.exists_cons_of_ne_nil filled
  obtain ⟨⟨less, ampersand, visible, -⟩, -⟩ := List.forall_mem_cons.mp plain
  by_cases space : isSpace c = true
  · refine ⟨_, (c :: rest).takeWhile isSpace, (c :: rest).dropWhile isSpace, ?_, .inr rfl,
      List.takeWhile_append_dropWhile.symm, by simp [space]⟩
    simp only [scan, scanData, if_neg less, if_neg ampersand, if_neg visible, if_pos space,
      scanSpaces]
  · let goesOn : Char → Bool := fun c => !(c == '&' || c == '<' || c == nul)
    refine ⟨_, (c :: rest).takeWhile goesOn, (c :: rest).dropWhile goesOn, ?_, .inl rfl,
      List.takeWhile_append_dropWhile.symm, by simp [goesOn, less, ampersand, visible]⟩
    simp only [scan, scanData, if_neg less, if_neg ampersand, if_neg visible, if_neg space,
      scanRun, stretch, goesOn]

/-! Processing -/

/-- The builder stands in the root of a fragment of a body, and nothing is pending. -/
structure AtRoot (root : Handle) (b : Builder) : Prop where
  opened : b.opened = [root]
  ns : root.ns = b.defaultNs
  formatting : b.formatting = []
  mode : b.mode = .inBody
  model : b.model = .data
  dropNewline : b.dropNewline = false
  foster : b.foster = false

section AtRoot

variable {root : Handle} {b : Builder} {data : List Char} {dom : Store}

theorem AtRoot.current (atRoot : AtRoot root b) : b.current = root := by
  simp [Builder.current, atRoot.opened]

theorem AtRoot.bare (atRoot : AtRoot root b) : sinceMarker b.formatting = [] := by
  rw [atRoot.formatting]
  rfl

/-- The youngest entry is a marker, if there is one, and no marker is opened again. -/
theorem reconstruct_of_bare (bare : sinceMarker b.formatting = []) : reconstruct b = .ok () b := by
  have lost : b.formatting.reverse.takeWhile (fun entry => entry.any fun h => !b.isOpen h) = [] := by
    unfold sinceMarker at bare
    cases entries : b.formatting.reverse with
    | nil => rfl
    | cons entry rest =>
      rw [entries] at bare
      cases entry with
      | none => rfl
      | some h => simp at bare
  rw [reconstruct, get_bind]
  simp only [lost, List.reverse_nil, List.length_nil, Nat.sub_zero, List.take_length, List.mapM_nil]
  show EStateM.Result.ok () { b with formatting := b.formatting ++ [] } = _
  rw [List.append_nil]

theorem insertText_root (atRoot : AtRoot root b)
    (inserted : Dom.insertText root.id data none b.dom = .ok () dom) :
    insertText data b = .ok () { b with dom } := by
  rw [insertText, get_bind, if_neg (by simp [atRoot.foster]), atRoot.current]
  simp only [onDom, inserted]

theorem bodyCharacters_root (atRoot : AtRoot root b) (shown : data ≠ [nul])
    (inserted : Dom.insertText root.id data none b.dom = .ok () dom) :
    ∃ framesetOk, bodyCharacters data b = .ok () { b with dom, framesetOk } := by
  rw [bodyCharacters, if_pos (by simpa using shown), bind_ok (reconstruct_of_bare atRoot.bare),
    bind_ok (insertText_root atRoot inserted), get_bind]
  split
  · exact ⟨false, rfl⟩
  · exact ⟨b.framesetOk, rfl⟩

theorem bodySpaces_root (atRoot : AtRoot root b)
    (inserted : Dom.insertText root.id data none b.dom = .ok () dom) :
    bodySpaces data b = .ok () { b with dom } := by
  have same : { b with dropNewline := false } = b := by
    rw [← atRoot.dropNewline]
  rw [bodySpaces, get_bind, set_bind, same, if_pos (by simp [atRoot.dropNewline]),
    if_neg (by simp [atRoot.dropNewline]), bind_ok (reconstruct_of_bare atRoot.bare),
    insertText_root atRoot inserted]

theorem byMode_root {token : Token} (atRoot : AtRoot root b) (text : IsText data token)
    (shown : data ≠ [nul]) (inserted : Dom.insertText root.id data none b.dom = .ok () dom) :
    ∃ framesetOk, byMode token b = .ok none { b with dom, framesetOk } := by
  rcases text with rfl | rfl
  · obtain ⟨framesetOk, run⟩ := bodyCharacters_root atRoot shown inserted
    have rule : byMode (.characters data) b = (bodyCharacters data >>= fun _ => handled) b := by
      rw [byMode, get_bind, atRoot.mode]
      rfl
    exact ⟨framesetOk, rule.trans (bind_ok run _)⟩
  · have rule : byMode (.spaces data) b = (bodySpaces data >>= fun _ => handled) b := by
      rw [byMode, get_bind, atRoot.mode]
      rfl
    exact ⟨b.framesetOk, rule.trans (bind_ok (bodySpaces_root atRoot inserted) _)⟩

theorem usesMode_root (atRoot : AtRoot root b) (token : Token) : usesMode token b = .ok true b := by
  rw [usesMode, get_bind, if_pos (by simp [atRoot.current, atRoot.ns])]
  rfl

/-- A token of text is appended to the root. -/
theorem processToken_root {token : Token} (atRoot : AtRoot root b) (text : IsText data token)
    (shown : data ≠ [nul]) (inserted : Dom.insertText root.id data none b.dom = .ok () dom) :
    ∃ framesetOk, processToken token b = .ok () { b with dom, framesetOk } := by
  obtain ⟨framesetOk, run⟩ := byMode_root atRoot text shown inserted
  refine ⟨framesetOk, ?_⟩
  have once (fuel : Nat) : process (fuel + 1) token b = .ok () { b with dom, framesetOk } := by
    rw [process, bind_ok (usesMode_root atRoot token), if_pos rfl, bind_ok run]
    rfl
  rcases text with rfl | rfl
  · exact once _
  · exact once _

theorem AtRoot.inserted (atRoot : AtRoot root b) (setup : dom.setup = b.dom.setup)
    (framesetOk : Bool) : AtRoot root { b with dom, framesetOk } where
  opened := atRoot.opened
  ns := by rw [atRoot.ns, Builder.defaultNs, Builder.defaultNs, setup]
  formatting := atRoot.formatting
  mode := atRoot.mode
  model := atRoot.model
  dropNewline := atRoot.dropNewline
  foster := atRoot.foster

theorem finish_root (atRoot : AtRoot root b) (fuel : Nat) : finish fuel b = .ok () b := by
  cases fuel with
  | zero => rfl
  | succ fuel =>
    rw [finish, get_bind, atRoot.mode]
    rfl

/-- Reading text appends it to the root, with its sentinels replaced. The text that is left carries
the directives that are left for it. -/
theorem readTokens_root {c : Char} {text : List Char} {parts : List Part} {taken : List Tag}
    {r : Queue} {fuel : Nat} (atRoot : AtRoot root b) (shows : b.dom.Shows root.id parts)
    (single : b.dom.setup.sentinel = [c]) (pops : b.dom.queue.Pops taken r)
    (all : taken.length = text.count c) (plain : ∀ d ∈ text, IsPlain d)
    (enough : text.length < fuel) :
    ∃ after, readTokens fuel text b = .ok () after ∧ AtRoot root after ∧ after.dom.queue = r ∧
      after.dom.Shows root.id ((fill c text taken).foldl addMark parts) := by
  induction fuel generalizing b text parts taken with
  | zero => exact absurd enough (Nat.not_lt_zero _)
  | succ fuel ih =>
    rw [readTokens, get_bind, atRoot.model]
    by_cases filled : text = []
    · subst filled
      obtain rfl := List.length_eq_zero_iff.mp all
      obtain ⟨same⟩ := pops
      exact ⟨b, finish_root atRoot 8, atRoot, rfl, shows⟩
    · obtain ⟨token, front, rest, scanned, isText, rfl, more⟩ := scan_plain
        { lastStart := b.lastStart, foreign := !b.opened.isEmpty && b.current.ns != b.defaultNs }
        plain filled
      have same : { b with model := .data } = b := by rw [← atRoot.model]
      obtain ⟨taken, later, queue, rfl, count, left, first, second⟩ := pops.divide all
      have shorter : rest.length < fuel := by
        have := List.length_pos_of_ne_nil more
        rw [List.length_append] at enough
        omega
      -- A text that is only a null would not be inserted.
      have shown : front ≠ [nul] := by
        rintro rfl
        exact absurd rfl (plain nul (by simp)).2.2.1
      obtain ⟨dom, inserted, taking, setup, showing⟩ := shows.insertText single first count
      obtain ⟨framesetOk, run⟩ := processToken_root atRoot isText shown inserted
      obtain ⟨after, goesOn, ends, queue, shown⟩ :=
        ih (atRoot.inserted setup framesetOk) showing (setup ▸ single) (taking ▸ second) left
          (fun d member => plain d (List.mem_append_right _ member)) shorter
      refine ⟨after, ?_, ends, queue, ?_⟩
      · simp only [scanned]
        show (processToken token >>= fun _ => readTokens fuel rest) { b with model := .data } = _
        rw [same, bind_ok run, goesOn]
      · rw [← List.foldl_append, ← fill_append count] at shown
        exact shown

end AtRoot

/-! Fragments -/

/-- A builder in the root of a new fragment, which is the content of a block. -/
def Builder.ofBlock (setup : Dom.Setup) (queue : Queue) : Builder :=
  { dom := (Store.add { setup, queue } (.element "html" setup.ns [])).2
    container := "div"
    opened := [{ id := 0, name := "html", ns := setup.ns }] }

theorem readFragment_eq (setup : Dom.Setup) (queue : Queue) (text : List Char) :
    readFragment text { dom := { setup, queue }, container := "div" } =
      (do
        readTokens ((normalizeLines text).length + 1) (normalizeLines text)
        let fragment ← onDom (Dom.newNode .fragment)
        onDom (Dom.reparentChildren (← get).root.id fragment)
        return fragment : Parse Dom.NodeId) (.ofBlock setup queue) := by
  rfl

theorem atRoot_ofBlock (setup : Dom.Setup) (queue : Queue) :
    AtRoot { id := 0, name := "html", ns := setup.ns } (.ofBlock setup queue) :=
  ⟨rfl, rfl, rfl, rfl, rfl, rfl, rfl⟩

/-- A block that is text shows the text, with its sentinels replaced. -/
theorem readFragment_plain {c : Char} {setup : Dom.Setup} {queue r : Queue} {taken : List Tag}
    {text : List Char} (single : setup.sentinel = [c]) (pops : queue.Pops taken r)
    (all : taken.length = text.count c) (plain : ∀ d ∈ text, IsPlain d) :
    ∃ fragment after,
      readFragment text { dom := { setup, queue }, container := "div" } = .ok fragment after ∧
      after.dom.queue = r ∧ after.dom.content fragment = .fragment ∧
      after.dom.Shows fragment ((fill c text taken).foldl addMark []) := by
  have bare : (Builder.ofBlock setup queue).dom.Shows 0 [] :=
    ⟨rfl, List.nodup_nil, Nat.zero_lt_one⟩
  obtain ⟨b, read, atRoot, left, shows⟩ := readTokens_root (atRoot_ofBlock setup queue) bare
    single pops all plain (Nat.lt_succ_self _)
  have unfilled : (b.dom.add .fragment).2.children b.dom.cells.size = [] := by
    rw [Store.children_add]
    simp [Store.children, Store.cell]
  obtain ⟨dom, moved, queue, content, shown⟩ :=
    (shows.add .fragment).reparent unfilled (by simp [Store.add]) (Nat.ne_of_lt shows.inside)
  refine ⟨b.dom.cells.size, { b with dom }, ?_, ?_, ?_, shown⟩
  · have made : onDom (Dom.newNode .fragment) b =
        .ok b.dom.cells.size { b with dom := (b.dom.add .fragment).2 } := rfl
    have root : b.root.id = 0 := by simp [Builder.root, atRoot.opened]
    have gone : onDom (Dom.reparentChildren b.root.id b.dom.cells.size)
        { b with dom := (b.dom.add .fragment).2 } = .ok () { b with dom } := by
      simp only [onDom, root, moved]
    rw [readFragment_eq, normalizeLines_plain plain, bind_ok read, bind_ok made, get_bind]
    exact bind_ok gone _
  · rw [queue]
    exact left
  · rw [content, Store.content_add_self]

end HtmlTemplate.Html
