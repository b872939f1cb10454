import HtmlTemplate.Proofs.Html.Fostering
import HtmlTemplate.Proofs.Html.Tokens

/-!
Reading a text never wants for a directive, as long as it has no more sentinels than there are
directives and its course is calm. The course is the tokens that are processed by the rules of a
mode, each with the builder that these rules find. It is calm if no start tag with sentinels goes
in front of a table: there an element may be made twice, and with it the sentinels.
-/

namespace HtmlTemplate.Html

/-! Text and comments -/

section Text

variable {c : Char} {f : Prop} {k : Nat}

/-- What is collected is set aside; it replaces what was collected in another place. -/
theorem charges_collectTableText (data : List Char) :
    Charges c f (k + data.count c) (collectTableText data) fun _ => k := by
  intro b start
  have covers := start.covers
  refine .get (.ite (fun _ => ?_) fun _ => ?_)
  · -- Text that was left over from another place is dropped, and with it what was set aside.
    refine runs_set rfl { start with covers := ?_ }
    show k + data.count c ≤ b.dom.queue.size
    omega
  · refine runs_set rfl { start with covers := ?_ }
    show k + (b.tableText ++ data).count c ≤ b.dom.queue.size
    rw [List.count_append]
    omega

theorem charges_characters (mode : Mode) (data : List Char) :
    Charges c f (k + data.count c) (characters mode data) (owed c k) := by
  have unpaid : k ≤ k + data.count c := Nat.le_add_right _ _
  have again : Charges c f (k + data.count c) (again (.characters data)) (owed c k) :=
    charges_again (.characters data)
  have insert : Charges c f (k + data.count c) (insertText data) fun _ => k :=
    charges_insertText data
  have nothing : Charges c f (k + data.count c) (collectTableText []) fun _ => k :=
    (charges_collectTableText []).less unpaid
  have table (mode : Mode) : Charges c f (k + data.count c) (do
      if data = [nul] then
        if mode != .inTableText then collectTableText []
      else collectTableText data
      handled : Rule) (owed c k) :=
    .ite (fun _ => .ite (fun _ => charges_done nothing) fun _ => charges_handled unpaid) fun _ =>
      charges_done (charges_collectTableText data)
  cases mode with
  | beforeHead =>
    have free : f → StartTag.cost c { name := "head" } = 0 := fun _ => rfl
    exact .bind (charges_startHead free) fun _ => again
  | inHead => exact .bind charges_leaveHead fun _ => again
  | inHeadNoscript => exact .bind charges_leaveNoscript fun _ => again
  | afterHead => exact .bind charges_startBody fun _ => again
  | inBody => exact charges_done (charges_bodyCharacters data)
  | inCaption => exact charges_done (charges_bodyCharacters data)
  | inCell => exact charges_done (charges_bodyCharacters data)
  | text => exact charges_done insert
  | inTable => exact table .inTable
  | inTableBody => exact table .inTableBody
  | inRow => exact table .inRow
  | inTableText => exact table .inTableText
  | inColumnGroup => exact charges_again_if (.characters data) charges_endColumnGroup
  | inSelect =>
    exact .ite (fun _ => charges_done insert) fun _ => charges_handled unpaid
  | inSelectInTable =>
    exact .ite (fun _ => charges_done insert) fun _ => charges_handled unpaid
  | afterBody => exact .bind (charges_setMode _) fun _ => again
  | inFrameset => exact charges_handled unpaid

theorem charges_spaces (mode : Mode) (data : List Char) :
    Charges c f (k + data.count c) (spaces mode data) (owed c k) := by
  have insert : Charges c f (k + data.count c) (do insertText data; handled : Rule) (owed c k) :=
    charges_done (charges_insertText data)
  have collect : Charges c f (k + data.count c) (do collectTableText data; handled : Rule)
      (owed c k) :=
    charges_done (charges_collectTableText data)
  cases mode with
  | beforeHead => exact charges_handled (Nat.le_add_right _ _)
  | inBody => exact charges_done (charges_bodySpaces data)
  | inTable => exact collect
  | inTableBody => exact collect
  | inRow => exact collect
  | inTableText => exact collect
  | _ => exact insert

theorem charges_comment (mode : Mode) (data : List Char) :
    Charges c f (k + data.count c) (comment mode data) (owed c k) := by
  refine .get fun b => ?_
  have insert (parent : Handle) :
      Charges c f (k + data.count c) (do insertComment parent data; handled : Rule) (owed c k) :=
    charges_done (charges_insertComment parent data)
  cases mode with
  | inTableText => exact .bind charges_flushTableText fun _ => charges_again (.comment data)
  | _ => exact insert _

/-- In foreign content no rule makes an element twice. -/
theorem charges_byForeign (wide : c ≠ replacement) {token : Token} (free : f → token.cost c = 0) :
    Charges c f (k + token.cost c) (byForeign token) (owed c k) := by
  cases token with
  | characters data =>
    have insert : Charges c f (k + data.count c) (do insertText data; handled : Rule) (owed c k) :=
      charges_done (charges_insertText data)
    refine .ite (fun _ => ?_) fun _ => .get fun _ => ?_
    · have lost : [replacement].count c = 0 := List.count_eq_zero.mpr (by simpa using wide)
      refine charges_done ((charges_insertText [replacement]).less ?_)
      omega
    · exact .ite (fun _ => .bind (charges_setFramesetOk _) fun _ => insert) fun _ => insert
  | spaces data => exact charges_done (charges_insertText data)
  | start tag => exact charges_foreignStart free
  | close name => exact charges_foreignEnd name
  | comment data => exact .get fun _ => charges_done (charges_insertComment _ data)
  | doctype => exact charges_handled le_rfl

theorem charges_usesMode (token : Token) : Charges c f k (usesMode token) fun _ => k :=
  .get fun _ => .ite (fun _ => .pure le_rfl) fun _ => .ite (fun _ => .pure le_rfl) fun _ =>
    .ite (fun _ => .pure le_rfl) fun _ => .bind (charges_holdsHtml _) fun _ => .pure le_rfl

/-! The end of the text -/

theorem charges_atEnd (mode : Mode) : Charges c f k (atEnd mode) fun _ => k := by
  have still : Charges c f k (pure false : Parse Bool) fun _ => k := .pure le_rfl
  have more : Charges c f k (pure true : Parse Bool) fun _ => k := .pure le_rfl
  cases mode with
  | beforeHead =>
    have free : f → StartTag.cost c { name := "head" } = 0 := fun _ => rfl
    exact .bind (charges_startHead free) fun _ => more
  | inHead => exact .bind charges_leaveHead fun _ => more
  | inHeadNoscript => exact .bind charges_leaveNoscript fun _ => more
  | afterHead => exact .bind charges_startBody fun _ => more
  | text => exact .bind charges_pop fun _ => .get fun _ => .bind (charges_setMode _) fun _ => more
  | inTableText => exact .bind charges_flushTableText fun _ => more
  | inColumnGroup => exact charges_endColumnGroup
  | _ => exact still

theorem charges_finish (fuel : Nat) : Charges c f k (finish fuel) fun _ => k := by
  induction fuel with
  | zero => exact .pure le_rfl
  | succ fuel ih =>
    exact .get fun _ => .bind (charges_atEnd _) fun _ => .ite (fun _ => ih) fun _ => .pure le_rfl

end Text

/-! The course of reading -/

/-- A token to which the rules of a mode are applied, and the builder that they find. -/
structure Visit where
  token : Token
  builder : Builder

/-- Whether the element of a start tag with sentinels may be made twice. -/
def Visit.doubles (c : Char) (visit : Visit) : Bool :=
  match visit.token with
  | .start tag => visit.builder.doubles tag && tag.cost c != 0
  | _ => false

/-- The visits that follow if a rule hands on a token. -/
def visitsAfter (later : Token → Builder → List Visit) :
    EStateM.Result Dom.Failure Builder (Option Token) → List Visit
  | .ok (some token) b => later token b
  | _ => []

/-- The visits that are made when a token is processed. -/
def visits : (fuel : Nat) → Token → Builder → List Visit
  | 0, _, _ => []
  | fuel + 1, token, b =>
    match usesMode token b with
    | .ok true b => { token, builder := b } :: visitsAfter (visits fuel) (byMode token b)
    | .ok false b => visitsAfter (visits fuel) (byForeign token b)
    | .error _ _ => []

def Builder.scanContext (b : Builder) : ScanContext :=
  { lastStart := b.lastStart, foreign := !b.opened.isEmpty && b.current.ns != b.defaultNs }

/-- The builder that processes a token that has been met. -/
def Builder.meets (b : Builder) (token : Token) : Builder :=
  match token with
  | .start tag => { b with lastStart := some tag.name }
  | _ => b

/-- The visits that are made when a text is read. -/
def course : (fuel : Nat) → List Char → Builder → List Visit
  | 0, _, _ => []
  | fuel + 1, s, b =>
    match scan b.scanContext b.model s with
    | none => []
    | some scanned =>
      if scanned.overlong.isSome then []
      else
        let b := { b with model := scanned.model }
        match scanned.token with
        | none => course fuel scanned.rest b
        | some token =>
          visits (3 * b.opened.length + 16) token (b.meets token) ++
            match processToken token b with
            | .ok _ b => course fuel scanned.rest b
            | .error _ _ => []

theorem processToken_eq (token : Token) (b : Builder) :
    processToken token b = process (3 * b.opened.length + 16) token (b.meets token) := by
  cases token with
  | _ => rfl

/-- A run that is known to be good can be referred to by its result. -/
theorem Runs.traced {c : Char} {α : Type} {act : Parse α} {b : Builder} {post : α → Builder → Prop}
    (runs : Runs c act b post) : Runs c act b fun a after => act b = .ok a after ∧ post a after := by
  unfold Runs at *
  split
  next a after same =>
    rw [same] at runs
    exact ⟨runs.1, same, runs.2⟩
  next e after same =>
    rw [same] at runs
    exact runs

section Course

variable {c : Char} {k : Nat} {b : Builder}

/-- Foster parenting is off between tokens, so only a visit that doubles could take too much. -/
theorem runs_byMode {token : Token} (start : Affords c False (k + token.cost c) b)
    (calm : Visit.doubles c { token, builder := b } = false) :
    Runs c (byMode token) b fun next after => Affords c False (owed c k next) after := by
  refine .get ?_
  cases token with
  | characters data => exact charges_characters b.mode data b start
  | spaces data => exact charges_spaces b.mode data b start
  | start tag =>
    refine runs_startTag_of_calm start fun doubles => ?_
    simpa [Visit.doubles, doubles] using calm
  | close name => exact charges_endTag b.mode name b start
  | comment data => exact charges_comment b.mode data b start
  | doctype => exact charges_handled le_rfl b start

theorem runs_process (visible : c ≠ replacement) {fuel : Nat} {token : Token}
    (start : Affords c False (k + token.cost c) b)
    (calm : ∀ visit ∈ visits fuel token b, visit.doubles c = false) :
    Runs c (process fuel token) b fun _ after => Affords c False k after := by
  induction fuel generalizing token b with
  | zero => exact runs_pure (start.mono (Nat.le_add_right _ _))
  | succ fuel ih =>
    -- a rule that hands on a token leaves what that token is to be charged
    have goOn {mid : Builder} {rule : Rule} {again : Option Token → Parse Unit}
        (ran : Runs c rule mid fun next after => Affords c False (owed c k next) after)
        (calm : ∀ visit ∈ visitsAfter (visits fuel) (rule mid), visit.doubles c = false)
        (handedOn : ∀ token, again (some token) = process fuel token)
        (handled : again none = pure ()) :
        Runs c (rule >>= again) mid fun _ after => Affords c False k after := by
      refine ran.traced.bind fun next after _ holds => ?_
      obtain ⟨result, affords⟩ := holds
      rw [result] at calm
      cases next with
      | none =>
        rw [handled]
        exact runs_pure affords
      | some token =>
        rw [handedOn]
        exact ih affords calm
    refine (charges_usesMode token b start).traced.bind fun byMode mid _ holds => ?_
    obtain ⟨chosen, affords⟩ := holds
    rw [visits, chosen] at calm
    cases byMode with
    | true =>
      obtain ⟨first, later⟩ := List.forall_mem_cons.mp calm
      exact goOn (runs_byMode affords first) later (fun _ => rfl) rfl
    | false =>
      have ran := charges_byForeign visible False.elim mid affords
      exact goOn ran calm (fun _ => rfl) rfl

theorem runs_processToken (visible : c ≠ replacement) {token : Token}
    (start : Affords c False (k + token.cost c) b)
    (calm : ∀ visit ∈ visits (3 * b.opened.length + 16) token (b.meets token),
      visit.doubles c = false) :
    Runs c (processToken token) b fun _ after => Affords c False k after := by
  have met : Affords c False (k + token.cost c) (b.meets token) := by
    cases token with
    | start tag => exact start.tame {}
    | _ => exact start
  have same : (b.meets token).dom = b.dom := by
    cases token with
    | _ => rfl
  have ran := runs_process visible met calm
  unfold Runs at *
  rw [processToken_eq, ← same]
  exact ran

/-- What is left of the text is what is left to be charged for. -/
theorem runs_readTokens (rare : Rare c) {fuel : Nat} {s : List Char}
    (start : Affords c False (k + s.count c) b) (unreferenced : Unreferenced c s)
    (calm : ∀ visit ∈ course fuel s b, visit.doubles c = false) :
    Runs c (readTokens fuel s) b fun _ after => Affords c False k after := by
  induction fuel generalizing s b with
  | zero => exact runs_pure (start.mono (Nat.le_add_right _ _))
  | succ fuel ih =>
    refine .get ?_
    dsimp only
    split
    next => exact charges_finish 8 b (start.mono (Nat.le_add_right _ _))
    next scanned found =>
      have fits := fits_scan rare unreferenced found
      have later := unreferenced.suffix fits.suffix
      have fewer := fits.fewer
      have scanning : scan b.scanContext b.model s = some scanned := found
      split
      next digits long =>
        -- Reading ends at a reference with too many digits, and no directive is missed.
        rintro ⟨number, short⟩
        cases short
      next long =>
        simp only [course, scanning, long, Option.isSome_none, Bool.false_eq_true, if_false] at calm
        refine (charges_setModel scanned.model b start).traced.bind fun _ mid _ holds => ?_
        obtain ⟨⟨⟩, affords⟩ := holds
        cases met : scanned.token with
        | none =>
          simp only [met] at calm fewer
          exact ih (affords.mono (Nat.add_le_add_left fewer k)) later calm
        | some token =>
          simp only [met] at calm fewer
          obtain ⟨first, rest⟩ := List.forall_mem_append.mp calm
          -- What the token shows has been taken off the text, so it is paid for by what is gone.
          have owes : k + scanned.rest.count c + token.cost c ≤ k + s.count c := by
            simp only [owed] at fewer
            omega
          refine (runs_processToken rare.visible (affords.mono owes) first).traced.bind
            fun _ after _ holds => ?_
          obtain ⟨ran, affords⟩ := holds
          simp only [ran] at rest
          exact ih affords later rest

end Course

/-! Fragments -/

/-- The course of reading a block. -/
def blockCourse (setup : Dom.Setup) (queue : Queue) (text : List Char) : List Visit :=
  course ((normalizeLines text).length + 1) (normalizeLines text) (.ofBlock setup queue)

theorem affords_ofBlock {c : Char} {k : Nat} {setup : Dom.Setup} {queue : Queue}
    (wide : 128 ≤ c.toNat) (single : setup.sentinel = [c]) (unflagged : Dom.Unflagged c setup.booleans)
    (covers : k ≤ queue.size) : Affords c False k (.ofBlock setup queue) where
  covers := covers
  wide := wide
  single := single
  unflagged := unflagged
  fostered fostered := by cases fostered
  opened h member := by
    obtain rfl := List.mem_singleton.mp member
    exact ⟨setup.ns, [], rfl⟩
  head h head := by cases head
  formatting h member := by cases member

/-- Reading a block does not fail for want of a directive. -/
theorem not_isShort_of_readFragment {c : Char} {setup : Dom.Setup} {queue : Queue}
    {text : List Char} {failure : Dom.Failure} {after : Builder} (rare : Rare c)
    (single : setup.sentinel = [c]) (unflagged : Dom.Unflagged c setup.booleans)
    (covers : text.count c ≤ queue.size)
    (unreferenced : isReferenced c (normalizeLines text) = false)
    (calm : ∀ visit ∈ blockCourse setup queue text, visit.doubles c = false)
    (failed : readFragment text { dom := { setup, queue }, container := "div" } =
      .error failure after) : ¬ failure.IsShort := by
  have start : Affords c False (0 + (normalizeLines text).count c) (.ofBlock setup queue) := by
    rw [Nat.zero_add, rare.count_normalizeLines]
    exact affords_ofBlock rare.wide single unflagged covers
  have read := runs_readTokens rare start (rare.unreferenced unreferenced) calm
  have runs : Runs c (do
      readTokens ((normalizeLines text).length + 1) (normalizeLines text)
      let fragment ← onDom (Dom.newNode .fragment)
      onDom (Dom.reparentChildren (← get).root.id fragment)
      return fragment : Parse Dom.NodeId) (.ofBlock setup queue)
      fun _ after => Affords c False 0 after := by
    refine read.bind fun _ mid _ affords => ?_
    refine (charges_onDom (fun _ => Dom.spends_newNode _) mid affords).bind
      fun _ mid _ affords => ?_
    refine .get ((charges_onDom (fun _ => Dom.spends_reparentChildren _ _) mid affords).bind
      fun _ _ _ affords => ?_)
    exact runs_pure affords
  unfold Runs at runs
  rw [← readFragment_eq, failed] at runs
  exact runs

end HtmlTemplate.Html
