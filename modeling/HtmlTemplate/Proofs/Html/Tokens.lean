import HtmlTemplate.Proofs.Html.StartTags

/-!
Scanning makes no sentinels. What a token shows of the text has been taken off the text, with two
exceptions: the character that stands for a missing one, and what a character reference stands for.
So as long as no reference of the text stands for the sentinel, a token has no more sentinels than
the text has lost.
-/

namespace HtmlTemplate.Html

/-- A sentinel that scanning does not bring into a text by itself. -/
structure Rare (c : Char) : Prop where
  wide : 128 ≤ c.toNat
  visible : c ≠ replacement

/-- No character reference of a text stands for a character. -/
def Unreferenced (c : Char) (text : List Char) : Prop :=
  ∀ rest, '&' :: rest <:+ text → ∀ inAttribute quote,
    c ∉ (readReference inAttribute quote rest).image

/-- Whether a character reference of a text, wherever it may stand, stands for a character. -/
def isReferenced (c : Char) : List Char → Bool
  | [] => false
  | d :: rest =>
    d == '&' && [false, true].any (fun inAttribute =>
      (readReference inAttribute none rest).image.contains c) || isReferenced c rest

theorem Unreferenced.suffix {c : Char} {text rest : List Char} (unreferenced : Unreferenced c text)
    (suffix : rest <:+ text) : Unreferenced c rest :=
  fun after found => unreferenced after (found.trans suffix)

section Tokens

variable {c : Char} (rare : Rare c)

include rare

theorem Rare.count_visible (d : Char) : [Html.visible d].count c ≤ [d].count c := by
  unfold Html.visible
  split
  · rw [List.count_eq_zero.mpr (by simpa using rare.visible)]
    exact Nat.zero_le _
  · exact le_rfl

theorem Rare.count_map_visible (text : List Char) :
    (text.map Html.visible).count c ≤ text.count c := by
  induction text with
  | nil => exact le_rfl
  | cons d rest ih =>
    have first := rare.count_visible d
    rw [List.map_cons, List.count_cons, List.count_cons]
    simp only [List.count_cons, List.count_nil, Nat.zero_add] at first
    omega

/-! References and line ends -/

/-- The quote that would end a value only keeps an ampersand in front of it from being one. -/
theorem Rare.image_quoted {inAttribute : Bool} {rest : List Char} (quote : Option Char)
    (absent : c ∉ (readReference inAttribute none rest).image) :
    c ∉ (readReference inAttribute quote rest).image := by
  have alone : c ∉ ['&'] := List.count_eq_zero.mp (count_narrow rare.wide rfl)
  unfold readReference at *
  cases rest with
  | nil => exact alone
  | cons d after =>
    by_cases stops : isSpace d = true ∨ d = '<' ∨ d = '&' ∨ quote = some d
    · simp only [if_pos stops]
      exact alone
    · have reads : ¬ (isSpace d = true ∨ d = '<' ∨ d = '&' ∨ none = some d) := by
        rintro (space | less | ampersand | ⟨⟨⟩⟩)
        · exact stops (.inl space)
        · exact stops (.inr (.inl less))
        · exact stops (.inr (.inr (.inl ampersand)))
      simp only [if_neg stops, if_neg reads] at absent ⊢
      exact absent

theorem Rare.unreferenced {text : List Char} (none : isReferenced c text = false) :
    Unreferenced c text := by
  induction text with
  | nil =>
    intro rest suffix
    cases List.suffix_nil.mp suffix
  | cons d after ih =>
    obtain ⟨first, later⟩ := Bool.or_eq_false_iff.mp none
    intro rest suffix inAttribute quote
    rcases List.suffix_cons_iff.mp suffix with same | suffix
    · cases same
      refine rare.image_quoted quote ?_
      cases inAttribute with
      | _ => simp_all
    · exact ih later rest suffix inAttribute quote

theorem Rare.count_normalizeLines (text : List Char) :
    (normalizeLines text).count c = text.count c := by
  have ends : ['\r', '\n'].count c = 0 := count_narrow rare.wide rfl
  simp only [List.count_cons, List.count_nil] at ends
  fun_induction normalizeLines text with
  | case1 => rfl
  | case2 rest ih =>
    simp only [List.count_cons]
    omega
  | case3 rest _ ih =>
    simp only [List.count_cons]
    omega
  | case4 d rest _ _ ih =>
    simp only [List.count_cons]
    omega

/-! Comments and raw text -/

/-- What is read of a text and what is left of it have no more sentinels than `limit`. -/
def Shares (c : Char) (limit : Nat) (s : List Char) (read : List Char × List Char) : Prop :=
  read.1.count c + read.2.count c ≤ limit ∧ read.2 <:+ s

omit rare in
theorem shares_stop (d : Char) (data rest : List Char) :
    Shares c (data.count c + (d :: rest).count c) (d :: rest) (data.reverse, rest) := by
  refine ⟨?_, List.suffix_cons d rest⟩
  simp only [List.count_reverse, List.count_cons]
  omega

omit rare in
theorem Shares.cons {d : Char} {data more rest : List Char} {read : List Char × List Char}
    (shares : Shares c (more.count c + rest.count c) rest read)
    (fewer : more.count c ≤ data.count c + [d].count c) :
    Shares c (data.count c + (d :: rest).count c) (d :: rest) read := by
  refine ⟨shares.1.trans ?_, shares.2.trans (List.suffix_cons d rest)⟩
  rw [List.count_cons]
  simp only [List.count_cons, List.count_nil, Nat.zero_add] at fewer
  omega

theorem shares_readComment (state : CommentState) (data s : List Char) :
    Shares c (data.count c + s.count c) s (readComment state data s) := by
  -- dashes and bangs are no sentinels, and any other character that is kept comes off the text
  have dash : ['-'].count c = 0 := count_narrow rare.wide rfl
  have bang : ['!'].count c = 0 := count_narrow rare.wide rfl
  have lost : [replacement].count c = 0 := List.count_eq_zero.mpr (by simpa using rare.visible)
  have shown := rare.count_visible
  simp only [List.count_cons, List.count_nil, Nat.zero_add] at dash bang lost shown
  induction s generalizing state data with
  | nil => simp [readComment, Shares]
  | cons d rest ih =>
    have goOn {state : CommentState} {more : List Char}
        (fewer : more.count c ≤ data.count c + [d].count c) :
        Shares c (data.count c + (d :: rest).count c) (d :: rest) (readComment state more rest) :=
      (ih state more).cons fewer
    have shown := shown d
    cases state with
    | start =>
      rw [readComment]
      split
      · exact goOn (by omega)
      · split
        · exact goOn (by simp only [List.count_cons]; omega)
        · split
          · exact shares_stop d data rest
          · exact goOn (by simp only [List.count_cons]; omega)
    | startDash =>
      rw [readComment]
      split
      · exact goOn (by omega)
      · split
        · exact goOn (by simp only [List.count_cons]; omega)
        · split
          · exact shares_stop d data rest
          · exact goOn (by simp only [List.count_cons]; omega)
    | body =>
      rw [readComment]
      split
      · exact goOn (by omega)
      · exact goOn (by simp only [List.count_cons]; omega)
    | endDash =>
      rw [readComment]
      split
      · exact goOn (by omega)
      · exact goOn (by simp only [List.count_cons]; omega)
    | ending =>
      rw [readComment]
      split
      · exact shares_stop d data rest
      · split
        · exact goOn (by omega)
        · split
          · exact goOn (by simp only [List.count_cons]; omega)
          · exact goOn (by simp only [List.count_cons]; omega)
    | endBang =>
      rw [readComment]
      split
      · exact shares_stop d data rest
      · split
        · exact goOn (by simp only [List.count_cons]; omega)
        · exact goOn (by simp only [List.count_cons]; omega)

theorem shares_readRawSection (s : List Char) : Shares c (s.count c) s (readRawSection s) := by
  fun_induction readRawSection s with
  | case1 => exact ⟨le_rfl, List.suffix_rfl⟩
  | case2 rest =>
    refine ⟨?_, ⟨[']', ']', '>'], rfl⟩⟩
    simp only [List.count_cons, List.count_nil]
    omega
  | case3 d rest other text after found ih =>
    have shown := rare.count_visible d
    rw [found] at ih
    obtain ⟨fewer, suffix⟩ := ih
    refine ⟨?_, suffix.trans (List.suffix_cons d rest)⟩
    simp only [List.count_cons, List.count_nil] at shown fewer ⊢
    omega

theorem shares_bogus (s : List Char) :
    Shares c (s.count c) s
      ((s.takeWhile (· != '>')).map Html.visible, (s.dropWhile (· != '>')).drop 1) := by
  have cut := congrArg (List.count c) (List.takeWhile_append_dropWhile (p := (· != '>')) (l := s))
  have shown := rare.count_map_visible (s.takeWhile (· != '>'))
  have rest := (List.drop_sublist 1 (s.dropWhile (· != '>'))).count_le c
  rw [List.count_append] at cut
  refine ⟨?_, (List.drop_suffix _ _).trans (List.dropWhile_suffix _)⟩
  simp only
  omega

/-! Tags -/

/-- The number of sentinels in the values of attributes, as far as they are read. -/
def draftCost (c : Char) : List (List Char × List Char) → Nat
  | [] => 0
  | attr :: rest => attr.2.count c + draftCost c rest

def Draft.cost (c : Char) (d : Draft) : Nat := draftCost c d.attrs

omit rare in
theorem Draft.cost_newAttr (d : Draft) (name : Char) : (d.newAttr name).cost c = d.cost c :=
  Nat.zero_add _

omit rare in
theorem Draft.cost_pushAttrName (d : Draft) (name : Char) :
    (d.pushAttrName name).cost c = d.cost c := by
  unfold Draft.pushAttrName Draft.cost
  split
  next name value rest same => rw [same, draftCost, draftCost]
  next same => rw [same]

omit rare in
theorem Draft.cost_pushValue (d : Draft) (text : List Char) :
    (d.pushValue text).cost c ≤ d.cost c + text.count c := by
  unfold Draft.pushValue Draft.cost
  split
  next name value rest same =>
    simp only [same, draftCost, List.count_append, List.count_reverse]
    omega
  next same =>
    rw [same]
    exact Nat.le_add_right _ _

omit rare in
theorem attrsCost_append (front back : List (String × String)) :
    attrsCost c (front ++ back) = attrsCost c front + attrsCost c back := by
  induction front with
  | nil => exact (Nat.zero_add _).symm
  | cons attr rest ih =>
    obtain ⟨name, value⟩ := attr
    rw [List.cons_append, attrsCost_cons, attrsCost_cons, ih, Nat.add_assoc]

omit rare in
theorem attrsCost_addFirst (attrs given : List (String × String)) :
    attrsCost c (attrs.foldl Draft.addFirst given) ≤ attrsCost c given + attrsCost c attrs := by
  induction attrs generalizing given with
  | nil => exact Nat.le_refl _
  | cons attr rest ih =>
    obtain ⟨name, value⟩ := attr
    have first : attrsCost c (Draft.addFirst given (name, value)) ≤
        attrsCost c given + value.toList.count c := by
      unfold Draft.addFirst
      split
      · exact Nat.le_add_right _ _
      · exact Nat.le_of_eq (attrsCost_append given [(name, value)])
    rw [List.foldl_cons, attrsCost_cons]
    exact (ih _).trans (by omega)

omit rare in
theorem attrsCost_map_reverse {written : List Char × List Char → String × String}
    (value : ∀ attr, (written attr).2 = String.ofList attr.2.reverse)
    (attrs : List (List Char × List Char)) :
    attrsCost c (attrs.reverse.map written) = draftCost c attrs := by
  induction attrs with
  | nil => rfl
  | cons attr rest ih =>
    have one : attrsCost c [written attr] = attr.2.count c := by
      show attrsCost c [((written attr).1, (written attr).2)] = _
      rw [attrsCost_cons, value, String.toList_ofList, List.count_reverse]
      rfl
    rw [List.reverse_cons, List.map_append, attrsCost_append, ih, List.map_singleton, one, draftCost,
      Nat.add_comm]

omit rare in
theorem Draft.cost_tag (d : Draft) : d.tag.cost c ≤ d.cost c := by
  refine (attrsCost_addFirst _ []).trans ?_
  rw [attrsCost_map_reverse fun _ => rfl]
  exact Nat.le_of_eq (Nat.zero_add _)

/-- A move of the reading of a tag keeps what it reads and what it leaves within a limit. -/
def TagMove.Fits (c : Char) (limit : Nat) (rest : List Char) : TagMove → Prop
  | .done d => d.cost c + rest.count c ≤ limit
  | .next _ d skip => d.cost c + (rest.drop skip).count c ≤ limit
  | .overlong _ => True

omit rare in
theorem fits_moveBeforeAttr (d : Draft) (e : Char) (rest : List Char) :
    (moveBeforeAttr d e).Fits c (d.cost c + rest.count c) rest := by
  unfold moveBeforeAttr
  split
  · exact le_rfl
  · split
    · exact le_rfl
    · split
      · exact le_rfl
      · exact Nat.le_of_eq (by rw [Draft.cost_newAttr, List.drop_zero])

theorem fits_pushValue (state : TagState) (d : Draft) (e : Char) (rest : List Char) :
    (TagMove.next state (d.pushValue [visible e]) 0).Fits c (d.cost c + (e :: rest).count c)
      rest := by
  have pushed := d.cost_pushValue (c := c) [visible e]
  have shown := rare.count_visible e
  simp only [TagMove.Fits, List.drop_zero, List.count_cons, List.count_nil] at pushed shown ⊢
  omega

omit rare in
theorem fits_moveReference (state : TagState) (quote : Char) (d : Draft) {rest : List Char}
    (unreferenced : Unreferenced c ('&' :: rest)) :
    (moveReference state quote d rest).Fits c (d.cost c + rest.count c) rest := by
  have none := unreferenced rest List.suffix_rfl true (some quote)
  have pushed := d.cost_pushValue (c := c) (readReference true (some quote) rest).image
  have left := (List.drop_sublist (readReference true (some quote) rest).size rest).count_le c
  rw [List.count_eq_zero.mpr none] at pushed
  unfold moveReference
  dsimp only
  split
  · trivial
  · simp only [TagMove.Fits]
    omega

omit rare in
theorem TagMove.Fits.cons {d : Draft} {e : Char} {rest : List Char} {move : TagMove}
    (fits : move.Fits c (d.cost c + rest.count c) rest) :
    move.Fits c (d.cost c + (e :: rest).count c) rest := by
  have more : rest.count c ≤ (e :: rest).count c := List.count_le_count_cons
  cases move with
  | done => exact Nat.le_trans fits (Nat.add_le_add_left more _)
  | next => exact Nat.le_trans fits (Nat.add_le_add_left more _)
  | overlong => trivial

theorem fits_moveUnquoted (d : Draft) {e : Char} {rest : List Char}
    (unreferenced : Unreferenced c (e :: rest)) :
    (moveUnquoted d e rest).Fits c (d.cost c + (e :: rest).count c) rest := by
  unfold moveUnquoted
  split
  · exact TagMove.Fits.cons le_rfl
  · split
    next ampersand =>
      subst ampersand
      exact (fits_moveReference .unquoted '>' d unreferenced).cons
    · split
      · exact TagMove.Fits.cons le_rfl
      · exact fits_pushValue rare .unquoted d e rest

theorem fits_moveTag (state : TagState) (d : Draft) {e : Char} {rest : List Char}
    (unreferenced : Unreferenced c (e :: rest)) :
    (moveTag state d e rest).Fits c (d.cost c + (e :: rest).count c) rest := by
  have stay {state : TagState} :
      (TagMove.next state d 0).Fits c (d.cost c + (e :: rest).count c) rest :=
    TagMove.Fits.cons le_rfl
  have stop : (TagMove.done d).Fits c (d.cost c + (e :: rest).count c) rest :=
    TagMove.Fits.cons le_rfl
  have before : (moveBeforeAttr d e).Fits c (d.cost c + (e :: rest).count c) rest :=
    (fits_moveBeforeAttr d e rest).cons
  cases state with
  | name =>
    simp only [moveTag]
    split
    · exact stay
    · split
      · exact stop
      · split
        · exact stay
        · exact TagMove.Fits.cons le_rfl
  | beforeAttr => exact before
  | attrName =>
    simp only [moveTag]
    split
    · exact stay
    · split
      · exact stay
      · split
        · exact stop
        · split
          · exact stay
          · exact TagMove.Fits.cons (Nat.le_of_eq (by rw [d.cost_pushAttrName, List.drop_zero]))
  | afterAttrName =>
    simp only [moveTag]
    split
    · exact stay
    · split
      · exact stay
      · exact before
  | beforeValue =>
    simp only [moveTag]
    split
    · exact stay
    · split
      · exact stay
      · exact fits_moveUnquoted rare d unreferenced
  | quoted quote =>
    simp only [moveTag]
    split
    · exact stay
    · split
      next ampersand =>
        subst ampersand
        exact (fits_moveReference (.quoted quote) quote d unreferenced).cons
      · exact fits_pushValue rare (.quoted quote) d e rest
  | unquoted => exact fits_moveUnquoted rare d unreferenced
  | afterValue => exact before
  | selfClosing =>
    simp only [moveTag]
    split
    · exact TagMove.Fits.cons le_rfl
    · exact before

theorem cost_readTag {skip : Nat} {state : TagState} {d : Draft} {s rest : List Char}
    {tag : StartTag} (unreferenced : Unreferenced c s)
    (found : readTag skip state d s = .tag tag rest) :
    tag.cost c + rest.count c ≤ d.cost c + (s.drop skip).count c ∧ rest <:+ s := by
  induction s generalizing skip state d with
  | nil => cases skip <;> cases found
  | cons e after ih =>
    have later := unreferenced.suffix (List.suffix_cons e after)
    cases skip with
    | succ skip =>
      obtain ⟨fewer, suffix⟩ := ih later found
      exact ⟨fewer, suffix.trans (List.suffix_cons e after)⟩
    | zero =>
      have fits := fits_moveTag rare state d unreferenced
      rw [readTag] at found
      split at found
      next d' moved =>
        cases found
        rw [moved] at fits
        have tagged := d'.cost_tag (c := c)
        refine ⟨?_, List.suffix_cons e _⟩
        rw [List.drop_zero]
        exact (Nat.add_le_add_right tagged _).trans fits
      next state' d' skip moved =>
        rw [moved] at fits
        obtain ⟨fewer, suffix⟩ := ih later found
        rw [List.drop_zero]
        exact ⟨fewer.trans fits, suffix.trans (List.suffix_cons e after)⟩
      next => cases found

/-! Scanning -/

/-- A step of scanning takes characters off the front of a text, and its token has no more
sentinels than they have. -/
structure Scanned.Fits (c : Char) (s : List Char) (scanned : Scanned) : Prop where
  suffix : scanned.rest <:+ s
  fewer : owed c (scanned.rest.count c) scanned.token ≤ s.count c

omit rare in
theorem Scanned.Fits.after {s rest : List Char} {scanned : Scanned} (fits : scanned.Fits c rest)
    (suffix : rest <:+ s) : scanned.Fits c s :=
  ⟨fits.suffix.trans suffix, fits.fewer.trans (suffix.sublist.count_le c)⟩

omit rare in
theorem ite_fits {p : Prop} [Decidable p] {s : List Char} {yes no : Scanned} (first : yes.Fits c s)
    (second : no.Fits c s) : (if p then yes else no).Fits c s := by
  split
  · exact first
  · exact second

omit rare in
/-- Passing over characters without a token. -/
theorem fits_none (model : ContentModel) {s rest : List Char} (suffix : rest <:+ s) :
    Scanned.Fits c s { token := none, model, rest } :=
  ⟨suffix, suffix.sublist.count_le c⟩

omit rare in
theorem fits_read (token : Token) {s : List Char} {read : List Char × List Char}
    (model : ContentModel) (cost : token.cost c ≤ read.1.count c)
    (shares : Shares c (s.count c) s read) :
    Scanned.Fits c s { token := some token, model, rest := read.2 } := by
  obtain ⟨fewer, suffix⟩ := shares
  refine ⟨suffix, ?_⟩
  simp only [owed]
  omega

/-- Text of no sentinels, which need not stand in the text that is scanned. -/
theorem fits_stretch_narrow (model : ContentModel) {text s rest : List Char}
    (narrow : text.all isNarrow = true) (suffix : rest <:+ s) :
    (stretch model text rest).Fits c s := by
  refine ⟨suffix, ?_⟩
  simp only [stretch, owed, Token.cost, count_narrow rare.wide narrow]
  exact suffix.sublist.count_le c

omit rare in
/-- One character, kept or replaced by one that is no sentinel. -/
theorem fits_stretch_one (model : ContentModel) {d e : Char} (rest : List Char)
    (shown : [e].count c ≤ [d].count c) : (stretch model [e] rest).Fits c (d :: rest) := by
  refine ⟨List.suffix_cons d rest, ?_⟩
  simp only [stretch, owed, Token.cost, List.count_cons, List.count_nil] at shown ⊢
  omega

theorem fits_stretch_lost (model : ContentModel) (d : Char) (rest : List Char) :
    (stretch model [replacement] rest).Fits c (d :: rest) := by
  have lost : [replacement].count c = 0 := List.count_eq_zero.mpr (by simpa using rare.visible)
  exact fits_stretch_one model rest (by omega)

omit rare in
theorem shares_span (stop : Char → Bool) (s : List Char) :
    Shares c (s.count c) s (s.takeWhile stop, s.dropWhile stop) := by
  refine ⟨?_, List.dropWhile_suffix _⟩
  rw [← List.count_append, List.takeWhile_append_dropWhile]

omit rare in
theorem fits_scanRun (model : ContentModel) (stop : Char → Bool) (s : List Char) :
    (scanRun model stop s).Fits c s :=
  fits_read (.characters _) model le_rfl (shares_span (fun d => !stop d) s)

omit rare in
theorem fits_scanSpaces (model : ContentModel) (s : List Char) : (scanSpaces model s).Fits c s :=
  fits_read (.spaces _) model le_rfl (shares_span isSpace s)

omit rare in
theorem cost_referenceToken (image : List Char) : (referenceToken image).cost c = image.count c := by
  unfold referenceToken
  split
  · split <;> rfl
  · rfl

omit rare in
theorem fits_scanReference (model : ContentModel) {rest : List Char}
    (unreferenced : Unreferenced c ('&' :: rest)) : (scanReference model rest).Fits c rest := by
  have none := unreferenced rest List.suffix_rfl false none
  refine ⟨List.drop_suffix _ _, ?_⟩
  simp only [scanReference, owed, cost_referenceToken, List.count_eq_zero.mpr none]
  exact (List.drop_sublist _ _).count_le c

theorem fits_bogus (s : List Char) :
    Scanned.Fits c s
      { token := some (readBogusComment s).1, model := .data, rest := (readBogusComment s).2 } :=
  fits_read (.comment _) .data le_rfl (shares_bogus rare s)

theorem fits_scanDeclaration (foreign : Bool) (s : List Char) :
    (scanDeclaration foreign s).Fits c s := by
  unfold scanDeclaration
  split
  next rest =>
    have read := shares_readComment rare .start [] rest
    rw [List.count_nil, Nat.zero_add] at read
    exact (fits_read (.comment _) .data le_rfl read).after ⟨['-', '-'], rfl⟩
  next =>
    split
    · -- a doctype shows nothing of its text
      have suffix : ((s.drop 7).dropWhile (· != '>')).drop 1 <:+ s :=
        (List.drop_suffix _ _).trans ((List.dropWhile_suffix _).trans (List.drop_suffix _ _))
      exact ⟨suffix, suffix.sublist.count_le c⟩
    · split
      · have read := shares_readRawSection rare (s.drop 7)
        have suffix := List.drop_suffix 7 s
        dsimp only
        split
        · exact fits_none .data (read.2.trans suffix)
        · exact (fits_read (.characters _) .data le_rfl read).after suffix
      · exact fits_bogus rare s

theorem fits_scanTag {make : StartTag → Token} (name : List Char) {rest : List Char}
    (unreferenced : Unreferenced c rest) (cost : ∀ tag, (make tag).cost c ≤ tag.cost c) :
    (scanTag make name rest).Fits c rest := by
  unfold scanTag
  split
  next tag after found =>
    obtain ⟨fewer, suffix⟩ := cost_readTag rare unreferenced found
    have := cost tag
    refine ⟨suffix, ?_⟩
    simp only [owed, Draft.cost, draftCost, List.drop_zero] at fewer ⊢
    omega
  next => exact fits_none .data List.nil_suffix
  next => exact ⟨List.nil_suffix, Nat.zero_le _⟩

theorem fits_scanMarkup (foreign : Bool) {s : List Char} (unreferenced : Unreferenced c s) :
    (scanMarkup foreign s).Fits c s := by
  have less : ['<'].all isNarrow = true := rfl
  unfold scanMarkup
  split
  next rest => exact (fits_scanDeclaration rare foreign rest).after (List.suffix_cons _ _)
  next rest =>
    refine Scanned.Fits.after ?_ (List.suffix_cons '/' rest)
    have later := unreferenced.suffix (List.suffix_cons '/' rest)
    split
    next => exact fits_stretch_narrow rare .data rfl List.suffix_rfl
    next => exact fits_none .data (List.suffix_cons _ _)
    next d after _ =>
      split
      · exact (fits_scanTag rare [d] (later.suffix (List.suffix_cons d after))
          fun _ => Nat.zero_le _).after (List.suffix_cons d after)
      · exact fits_bogus rare _
  next => exact fits_stretch_narrow rare .data rfl (List.suffix_cons _ _)
  next => exact fits_bogus rare _
  next d rest _ _ _ _ =>
    split
    · exact (fits_scanTag rare [d] (unreferenced.suffix (List.suffix_cons d rest))
        fun _ => le_rfl).after (List.suffix_cons d rest)
    · exact fits_stretch_narrow rare .data less List.suffix_rfl
  next => exact fits_stretch_narrow rare .data less List.suffix_rfl

theorem fits_scanEndTag (context : ScanContext) (model : ContentModel) {s : List Char}
    (unreferenced : Unreferenced c s) : (scanEndTag context model s).Fits c s := by
  have suffix := List.dropWhile_suffix (l := s) isLetter
  refine ite_fits ?_ ?_
  · refine (fits_scanTag rare _ (unreferenced.suffix suffix) ?_).after suffix
    exact fun _ => Nat.zero_le _
  · have opening : ['<', '/'].count c = 0 := count_narrow rare.wide rfl
    refine fits_read (.characters _) model ?_ (shares_span isLetter s)
    simp only [Token.cost, List.count_cons, List.count_nil] at opening ⊢
    omega

theorem fits_scanLess (context : ScanContext) (model : ContentModel) {s : List Char}
    (unreferenced : Unreferenced c s) : (scanLess context model s).Fits c s := by
  unfold scanLess
  split
  next rest =>
    have suffix := List.suffix_cons '/' rest
    exact (fits_scanEndTag rare context model (unreferenced.suffix suffix)).after suffix
  next => exact fits_stretch_narrow rare model rfl List.suffix_rfl

theorem fits_scanData (context : ScanContext) {d : Char} {rest : List Char}
    (unreferenced : Unreferenced c (d :: rest)) : (scanData context d rest).Fits c (d :: rest) := by
  have suffix := List.suffix_cons d rest
  unfold scanData
  split
  next ampersand =>
    subst ampersand
    exact (fits_scanReference .data unreferenced).after suffix
  next =>
    split
    · exact (fits_scanMarkup rare context.foreign (unreferenced.suffix suffix)).after suffix
    · split
      · exact fits_stretch_one .data rest le_rfl
      · split
        · exact fits_scanSpaces .data _
        · exact fits_scanRun .data _ _

theorem fits_scanRcdata (context : ScanContext) {d : Char} {rest : List Char}
    (unreferenced : Unreferenced c (d :: rest)) :
    (scanRcdata context d rest).Fits c (d :: rest) := by
  have suffix := List.suffix_cons d rest
  unfold scanRcdata
  split
  next ampersand =>
    subst ampersand
    exact (fits_scanReference .rcdata unreferenced).after suffix
  next =>
    split
    · exact (fits_scanLess rare context .rcdata (unreferenced.suffix suffix)).after suffix
    · split
      · exact fits_stretch_lost rare .rcdata d rest
      · split
        · exact fits_scanSpaces .rcdata _
        · exact fits_scanRun .rcdata _ _

theorem fits_scanRawtext (context : ScanContext) {d : Char} {rest : List Char}
    (unreferenced : Unreferenced c (d :: rest)) :
    (scanRawtext context d rest).Fits c (d :: rest) := by
  have suffix := List.suffix_cons d rest
  have less := (fits_scanLess rare context .rawtext (unreferenced.suffix suffix)).after suffix
  exact ite_fits less (ite_fits (fits_stretch_lost rare .rawtext d rest) (fits_scanRun .rawtext _ _))

theorem fits_scanPlaintext (d : Char) (rest : List Char) :
    (scanPlaintext d rest).Fits c (d :: rest) :=
  ite_fits (fits_stretch_lost rare .plaintext d rest) (fits_scanRun .plaintext _ _)

/-! Scripts -/

theorem fits_scanScriptPlain (context : ScanContext) {d : Char} {rest : List Char}
    (unreferenced : Unreferenced c (d :: rest)) :
    (scanScriptPlain context d rest).Fits c (d :: rest) := by
  have suffix := List.suffix_cons d rest
  unfold scanScriptPlain
  split
  · refine Scanned.Fits.after ?_ suffix
    split
    next after => exact fits_stretch_narrow rare _ rfl (List.suffix_cons _ _)
    next => exact fits_scanLess rare context _ (unreferenced.suffix suffix)
  · split
    · exact fits_stretch_lost rare _ d rest
    · exact fits_scanRun _ _ _

theorem fits_scanEscapedLess (context : ScanContext) {s : List Char}
    (unreferenced : Unreferenced c s) : (scanEscapedLess context s).Fits c s := by
  have less : ['<'].all isNarrow = true := rfl
  unfold scanEscapedLess
  split
  next rest =>
    have suffix := List.suffix_cons '/' rest
    exact (fits_scanEndTag rare context _ (unreferenced.suffix suffix)).after suffix
  next d rest _ =>
    split
    next =>
      have opening : ['<'].count c = 0 := count_narrow rare.wide less
      have read : Shares c ((d :: rest).count c) (d :: rest) (['<', d], rest) := by
        refine ⟨?_, List.suffix_cons d rest⟩
        simp only [List.count_cons, List.count_nil] at opening ⊢
        omega
      exact fits_read (.characters _) _ le_rfl read
    next => exact fits_stretch_narrow rare _ less List.suffix_rfl
  next => exact fits_stretch_narrow rare _ less List.suffix_rfl

theorem fits_scanEscaped (context : ScanContext) {d : Char} {rest : List Char}
    (unreferenced : Unreferenced c (d :: rest)) :
    (scanEscaped context d rest).Fits c (d :: rest) := by
  have suffix := List.suffix_cons d rest
  have less := (fits_scanEscapedLess rare context (unreferenced.suffix suffix)).after suffix
  exact ite_fits (fits_stretch_one _ rest le_rfl)
    (ite_fits less (ite_fits (fits_stretch_lost rare _ d rest) (fits_scanRun _ _ _)))

theorem fits_scanDoubleEscaped (d : Char) (rest : List Char) :
    (scanDoubleEscaped d rest).Fits c (d :: rest) := by
  have same (model : ContentModel) : (stretch model [d] rest).Fits c (d :: rest) :=
    fits_stretch_one model rest le_rfl
  exact ite_fits (same _) (ite_fits (same _) (fits_stretch_one _ rest (rare.count_visible d)))

theorem fits_scanScript (context : ScanContext) (state : ScriptState) {d : Char} {rest : List Char}
    (unreferenced : Unreferenced c (d :: rest)) :
    (scanScript context state d rest).Fits c (d :: rest) := by
  have suffix := List.suffix_cons d rest
  have same (model : ContentModel) : (stretch model [d] rest).Fits c (d :: rest) :=
    fits_stretch_one model rest le_rfl
  have shown (model : ContentModel) : (stretch model [visible d] rest).Fits c (d :: rest) :=
    fits_stretch_one model rest (rare.count_visible d)
  have less : (scanEscapedLess context rest).Fits c (d :: rest) :=
    (fits_scanEscapedLess rare context (unreferenced.suffix suffix)).after suffix
  have plain := fits_scanScriptPlain rare context unreferenced
  have escaped := fits_scanEscaped rare context unreferenced
  have double := fits_scanDoubleEscaped rare d rest
  cases state with
  | plain => exact plain
  | escapeStart => exact ite_fits (same _) plain
  | escapeStartDash => exact ite_fits (same _) plain
  | escaped => exact escaped
  | escapedDash => exact ite_fits (same _) (ite_fits less (shown _))
  | escapedDashDash => exact ite_fits (same _) (ite_fits less (ite_fits (same _) (shown _)))
  | doubleEscapeStart word => exact ite_fits (same _) (ite_fits (same _) escaped)
  | doubleEscaped => exact double
  | doubleEscapedDash => exact ite_fits (same _) (ite_fits (same _) (shown _))
  | doubleEscapedDashDash =>
    exact ite_fits (same _) (ite_fits (same _) (ite_fits (same _) (shown _)))
  | doubleEscapedLess => exact ite_fits (same _) double
  | doubleEscapeEnd word => exact ite_fits (same _) (ite_fits (same _) double)

theorem fits_scan {context : ScanContext} {model : ContentModel} {s : List Char}
    {scanned : Scanned} (unreferenced : Unreferenced c s)
    (found : scan context model s = some scanned) : scanned.Fits c s := by
  cases s with
  | nil => cases found
  | cons d rest =>
    cases found
    cases model with
    | data => exact fits_scanData rare context unreferenced
    | rcdata => exact fits_scanRcdata rare context unreferenced
    | rawtext => exact fits_scanRawtext rare context unreferenced
    | script state => exact fits_scanScript rare context state unreferenced
    | plaintext => exact fits_scanPlaintext rare d rest

end Tokens

end HtmlTemplate.Html
