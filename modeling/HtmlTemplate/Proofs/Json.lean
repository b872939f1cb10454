import HtmlTemplate.Json
import HtmlTemplate.Proofs.Sequence

/-!
Objects that are read from JSON. The names of their members are texts, because a member starts with
a text and nothing else is assigned to.

Values are read with fuel. Each reader takes something off the text, so there is fuel enough: where it
would run out, there is no text left.
-/

namespace HtmlTemplate.Json

/-- Entries whose names are texts. -/
def Named (entries : List (Value × Value)) : Prop := ∀ entry ∈ entries, ∃ name, entry.1 = .str name

theorem Named.assign {entries : List (Value × Value)} (named : Named entries) (name : String)
    (value : Value) : Named (assign (.str name) value entries) := by
  induction entries with
  | nil =>
    intro entry member
    rw [List.mem_singleton.mp member]
    exact ⟨name, rfl⟩
  | cons first rest ih =>
    obtain ⟨head, others⟩ := List.forall_mem_cons.mp named
    rw [HtmlTemplate.assign]
    split
    · exact List.forall_mem_cons.mpr ⟨head, others⟩
    · exact List.forall_mem_cons.mpr ⟨head, ih others⟩

/-- The members of an object have texts for names. -/
theorem named_of_readMembers {entries members : List (Value × Value)} {text rest : List Char}
    {fuel : Nat} (named : Named entries)
    (run : readMembers entries text fuel = .ok (members, rest)) : Named members := by
  induction fuel generalizing entries text with
  | zero => cases run
  | succ fuel ih =>
    unfold readMembers at run
    split at run
    next =>
      obtain ⟨⟨name, behind⟩, -, run⟩ := exists_of_bind run
      dsimp only at run
      split at run
      next =>
        obtain ⟨⟨value, behind⟩, -, run⟩ := exists_of_bind run
        dsimp only at run
        split at run
        next =>
          cases run
          exact named.assign name value
        next => exact ih (named.assign name value) run
        next => cases run
      next => cases run
    next => cases run

/-- No number is an object, and no word. -/
theorem readNumber_ne_dict {text rest : List Char} {entries : List (Value × Value)} :
    readNumber text ≠ .ok (.dict entries, rest) := by
  unfold readNumber faultAt
  intro run
  split at run
  · cases run
  · dsimp only at run
    split at run
    · split at run <;> cases run
    · cases run

theorem readWord?_ne_dict {text rest : List Char} {entries : List (Value × Value)} :
    readWord? text ≠ some (.dict entries, rest) := by
  intro run
  obtain ⟨word, member, found⟩ := List.exists_of_findSome?_eq_some run
  have value : word.2 = .dict entries := by
    dsimp only at found
    split at found
    · exact (Prod.mk.inj (Option.some.inj found)).1
    · cases found
  simp only [words, List.mem_cons, List.not_mem_nil, or_false] at member
  rcases member with rfl | rfl | rfl | rfl | rfl | rfl <;> cases value

theorem named_of_readValue {entries : List (Value × Value)} {text rest : List Char} {fuel : Nat}
    (run : readValue text fuel = .ok (.dict entries, rest)) : Named entries := by
  cases fuel with
  | zero => cases run
  | succ fuel =>
    unfold readValue at run
    split at run
    next =>
      obtain ⟨found, -, same⟩ := (map_eq_ok_iff _ _ _).mp run
      cases same
    next =>
      split at run
      next =>
        cases run
        exact List.forall_mem_nil _
      next =>
        obtain ⟨found, read, same⟩ := (map_eq_ok_iff _ _ _).mp run
        cases same
        exact named_of_readMembers (List.forall_mem_nil _) read
    next =>
      split at run
      next => cases run
      next =>
        obtain ⟨found, -, same⟩ := (map_eq_ok_iff _ _ _).mp run
        cases same
    next =>
      split at run
      next found word =>
        cases run
        exact absurd word readWord?_ne_dict
      next => exact absurd run readNumber_ne_dict

theorem named_of_parse {text : String} {entries : List (Value × Value)}
    (run : parse text = .ok (.dict entries)) : Named entries := by
  have document := (mapError_eq_ok_iff _ _ _).mp run
  unfold readDocument at document
  split at document
  · cases document
  · obtain ⟨⟨value, rest⟩, read, whole⟩ := exists_of_bind document
    dsimp only at whole
    split at whole
    · cases whole
      exact named_of_readValue read
    · cases whole

/-! Reading takes something off the text -/

/-- What a reader leaves of a text is shorter than the text. -/
def Shortens {α : Type} (read : List Char → Reading α) : Prop :=
  ∀ text found rest, read text = .ok (found, rest) → rest.length < text.length

theorem length_skip_le (text : List Char) : (skip text).length ≤ text.length :=
  (List.dropWhile_suffix _).length_le

/-- What stands behind a character that is met after white space. -/
theorem length_lt_of_skip {text rest : List Char} {c : Char} (met : skip text = c :: rest) :
    rest.length < text.length := by
  have skipped := length_skip_le text
  rw [met, List.length_cons] at skipped
  exact skipped

theorem length_dropWhile_le (text : List Char) :
    (text.dropWhile Char.isDigit).length ≤ text.length :=
  (List.dropWhile_suffix _).length_le

theorem exists_of_prepend {n : Nat} {reading : Reading (List Nat)} {units : List Nat}
    {rest : List Char} (run : prepend n reading = .ok (units, rest)) :
    ∃ later, reading = .ok (later, rest) := by
  obtain ⟨⟨later, behind⟩, read, same⟩ := (map_eq_ok_iff _ _ _).mp run
  cases same
  exact ⟨later, read⟩

theorem shortens_readUnits (opened : Nat) : Shortens (readUnits opened) := by
  intro text units rest run
  fun_induction readUnits opened text generalizing units with
  | case2 behind =>
    cases run
    exact Nat.lt_succ_self _
  | case3 a b c d n next behind read ih =>
    obtain ⟨later, run⟩ := exists_of_prepend run
    have shorter := ih later run
    simp only [List.length_cons] at shorter ⊢
    omega
  | case7 c behind _ _ image known ih =>
    obtain ⟨later, run⟩ := exists_of_prepend run
    have shorter := ih later run
    simp only [List.length_cons]
    omega
  | case10 c behind _ _ _ _ _ plain ih =>
    obtain ⟨later, run⟩ := exists_of_prepend run
    exact Nat.lt_succ_of_lt (ih later run)
  -- All other texts are faulty.
  | _ => cases run

theorem shortens_readString : Shortens readString := by
  intro text found rest run
  obtain ⟨⟨units, behind⟩, read, same⟩ := (map_eq_ok_iff _ _ _).mp run
  cases same
  have shorter := shortens_readUnits text.length (text.drop 1) units rest read
  rw [List.length_drop] at shorter
  omega

theorem length_of_readWord? {text rest : List Char} {value : Value}
    (found : readWord? text = some (value, rest)) : rest.length < text.length := by
  obtain ⟨⟨word, image⟩, member, same⟩ := List.exists_of_findSome?_eq_some found
  dsimp only at same
  split at same
  next starts =>
    cases same
    have inside : word.toList.length ≤ text.length := (List.isPrefixOf_iff_prefix.mp starts).length_le
    have filled : 0 < word.length := by
      simp only [words, List.mem_cons, List.not_mem_nil, or_false] at member
      rcases member with same | same | same | same | same | same <;> cases same <;> decide
    rw [String.length_toList] at inside
    rw [List.length_drop]
    omega
  next => cases same

/-- The digits that are left out of account are those behind at least one. -/
theorem length_dropWhile_lt {text : List Char} (some : text.takeWhile Char.isDigit ≠ []) :
    (text.dropWhile Char.isDigit).length < text.length := by
  have whole := congrArg List.length (List.takeWhile_append_dropWhile (p := Char.isDigit) (l := text))
  have filled := List.length_pos_iff.mpr some
  rw [List.length_append] at whole
  omega

theorem length_of_readWhole? {text whole rest : List Char} {negative : Bool}
    (found : readWhole? text = some (negative, whole, rest)) : rest.length < text.length := by
  unfold readWhole? at found
  split at found
  next sign behind same =>
    have signed : behind.length ≤ text.length := by
      split at same
      · cases same
        exact Nat.le_succ _
      · cases same
        exact Nat.le_refl _
    apply Nat.lt_of_lt_of_le _ signed
    split at found
    next =>
      cases found
      exact Nat.lt_succ_self _
    next =>
      split at found
      next => cases found
      next some =>
        cases found
        exact length_dropWhile_lt some

theorem length_readPart_le (text : List Char) : (readPart text).2.length ≤ text.length := by
  unfold readPart
  split
  next rest =>
    split
    · exact Nat.le_refl _
    · exact Nat.le_trans (length_dropWhile_le rest) (Nat.le_succ _)
  next => exact Nat.le_refl _

theorem length_readSign_le (text : List Char) : (Decimal.readSign text).2.length ≤ text.length := by
  unfold Decimal.readSign
  split <;> simp

theorem length_readExponent_le (text : List Char) : (readExponent text).2.length ≤ text.length := by
  unfold readExponent
  split
  next c rest =>
    split
    · have sign := length_readSign_le rest
      dsimp only
      split
      · exact Nat.le_refl _
      · have digits := length_dropWhile_le (Decimal.readSign rest).2
        simp only [List.length_cons]
        omega
    · exact Nat.le_refl _
  next => exact Nat.le_refl _

theorem shortens_readNumber : Shortens readNumber := by
  intro text found rest run
  unfold readNumber at run
  split at run
  next => cases run
  next negative whole behind read =>
    have first := length_of_readWhole? read
    have second := length_readPart_le behind
    have third := length_readExponent_le (readPart behind).2
    have left : rest = (readExponent (readPart behind).2).2 := by
      dsimp only at run
      split at run
      · split at run
        · cases run
        · exact (Prod.mk.inj (Except.ok.inj run)).2.symm
      · exact (Prod.mk.inj (Except.ok.inj run)).2.symm
    rw [left]
    omega

theorem shortens_readValue_succ {fuel : Nat} (items : Shortens (readItems · fuel))
    (members : Shortens (readMembers [] · fuel)) : Shortens (readValue · (fuel + 1)) := by
  intro text found rest run
  dsimp only at run
  unfold readValue at run
  split at run
  next =>
    obtain ⟨⟨read, behind⟩, string, same⟩ := (map_eq_ok_iff _ _ _).mp run
    cases same
    exact shortens_readString _ _ _ string
  next inner =>
    split at run
    next closed =>
      cases run
      exact Nat.lt_succ_of_lt (length_lt_of_skip closed)
    next =>
      obtain ⟨⟨entries, behind⟩, read, same⟩ := (map_eq_ok_iff _ _ _).mp run
      cases same
      exact Nat.lt_succ_of_lt (Nat.lt_of_lt_of_le (members _ _ _ read) (length_skip_le inner))
  next inner =>
    split at run
    next closed =>
      cases run
      exact Nat.lt_succ_of_lt (length_lt_of_skip closed)
    next =>
      obtain ⟨⟨list, behind⟩, read, same⟩ := (map_eq_ok_iff _ _ _).mp run
      cases same
      exact Nat.lt_succ_of_lt (Nat.lt_of_lt_of_le (items _ _ _ read) (length_skip_le inner))
  next =>
    split at run
    next word =>
      cases run
      exact length_of_readWord? word
    next => exact shortens_readNumber _ _ _ run

theorem shortens_readItems_succ {fuel : Nat} (value : Shortens (readValue · fuel))
    (items : Shortens (readItems · fuel)) : Shortens (readItems · (fuel + 1)) := by
  intro text found rest run
  dsimp only at run
  unfold readItems at run
  obtain ⟨⟨item, behind⟩, read, run⟩ := exists_of_bind run
  have shorter := value _ _ _ read
  dsimp only at run
  split at run
  next closed =>
    cases run
    exact Nat.lt_trans (length_lt_of_skip closed) shorter
  next inner comma =>
    obtain ⟨⟨later, left⟩, others, same⟩ := exists_of_bind run
    dsimp only at same
    cases same
    calc rest.length
      _ < (skip inner).length := items _ _ _ others
      _ ≤ inner.length := length_skip_le inner
      _ < behind.length := length_lt_of_skip comma
      _ < text.length := shorter
  next => cases run

theorem shortens_readMembers_succ {fuel : Nat} (value : Shortens (readValue · fuel))
    (members : ∀ entries, Shortens (readMembers entries · fuel)) (entries : List (Value × Value)) :
    Shortens (readMembers entries · (fuel + 1)) := by
  intro text found rest run
  dsimp only at run
  unfold readMembers at run
  split at run
  next tail =>
    obtain ⟨⟨name, behind⟩, string, run⟩ := exists_of_bind run
    have named := shortens_readString _ _ _ string
    dsimp only at run
    split at run
    next inner colon =>
      obtain ⟨⟨image, left⟩, read, run⟩ := exists_of_bind run
      have shorter : left.length < ('"' :: tail).length :=
        calc left.length
          _ < (skip inner).length := value _ _ _ read
          _ ≤ inner.length := length_skip_le inner
          _ < behind.length := length_lt_of_skip colon
          _ < ('"' :: tail).length := named
      dsimp only at run
      split at run
      next closed =>
        cases run
        exact Nat.lt_trans (length_lt_of_skip closed) shorter
      next last comma =>
        calc rest.length
          _ < (skip last).length := members _ _ _ _ run
          _ ≤ last.length := length_skip_le last
          _ < left.length := length_lt_of_skip comma
          _ < ('"' :: tail).length := shorter
      next => cases run
    next => cases run
  next => cases run

theorem shortens_readers (fuel : Nat) :
    Shortens (readValue · fuel) ∧ Shortens (readItems · fuel) ∧
      ∀ entries, Shortens (readMembers entries · fuel) := by
  induction fuel with
  | zero =>
    refine ⟨?_, ?_, ?_⟩
    · intro text found rest run
      cases run
    · intro text found rest run
      cases run
    · intro entries text found rest run
      cases run
  | succ fuel ih =>
    obtain ⟨value, items, members⟩ := ih
    exact ⟨shortens_readValue_succ items (members []), shortens_readItems_succ value items,
      shortens_readMembers_succ value members⟩

/-! Fuel -/

/-- Where there is a step for every half of a character, and some more, one more step changes
nothing. -/
def Settled {α : Type} (read : List Char → Nat → Reading α) (more fuel : Nat) : Prop :=
  ∀ text, 2 * text.length + more ≤ fuel → read text (fuel + 1) = read text fuel

theorem settled_readValue_succ {fuel : Nat} (items : Settled readItems 2 fuel)
    (members : Settled (readMembers []) 2 fuel) : Settled readValue 1 (fuel + 1) := by
  intro text enough
  unfold readValue
  split
  next => rfl
  next inner =>
    have skipped := length_skip_le inner
    rw [List.length_cons] at enough
    split
    next => rfl
    next => rw [members (skip inner) (by omega)]
  next inner =>
    have skipped := length_skip_le inner
    rw [List.length_cons] at enough
    split
    next => rfl
    next => rw [items (skip inner) (by omega)]
  next => rfl

theorem settled_readItems_succ {fuel : Nat} (value : Settled readValue 1 fuel)
    (items : Settled readItems 2 fuel) : Settled readItems 2 (fuel + 1) := by
  intro text enough
  unfold readItems
  rw [value text (by omega)]
  refine bind_congr_of_ok fun ⟨item, behind⟩ read => ?_
  have shorter := (shortens_readers fuel).1 _ _ _ read
  dsimp only
  split
  next => rfl
  next inner comma =>
    have behindComma := length_lt_of_skip comma
    have skipped := length_skip_le inner
    rw [items (skip inner) (by omega)]
  next => rfl

theorem settled_readMembers_succ {fuel : Nat} (value : Settled readValue 1 fuel)
    (members : ∀ entries, Settled (readMembers entries) 2 fuel) (entries : List (Value × Value)) :
    Settled (readMembers entries) 2 (fuel + 1) := by
  intro text enough
  unfold readMembers
  split
  next =>
    refine bind_congr_of_ok fun ⟨name, behind⟩ string => ?_
    have named := shortens_readString _ _ _ string
    dsimp only
    split
    next inner colon =>
      have behindColon := length_lt_of_skip colon
      have skipped := length_skip_le inner
      rw [value (skip inner) (by omega)]
      refine bind_congr_of_ok fun ⟨image, left⟩ read => ?_
      have shorter := (shortens_readers fuel).1 _ _ _ read
      dsimp only
      split
      next => rfl
      next last comma =>
        have behindComma := length_lt_of_skip comma
        have further := length_skip_le last
        exact members _ (skip last) (by omega)
      next => rfl
    next => rfl
  next => rfl

theorem settled_readers (fuel : Nat) :
    Settled readValue 1 fuel ∧ Settled readItems 2 fuel ∧
      ∀ entries, Settled (readMembers entries) 2 fuel := by
  induction fuel with
  | zero =>
    refine ⟨?_, ?_, ?_⟩
    · intro text enough
      omega
    · intro text enough
      omega
    · intro entries text enough
      omega
  | succ fuel ih =>
    obtain ⟨value, items, members⟩ := ih
    exact ⟨settled_readValue_succ items (members []), settled_readItems_succ value items,
      settled_readMembers_succ value members⟩

/-- The fuel that a document is read with is enough: with any more of it the same is read, or the same
fault is met. -/
theorem readValue_of_enough {text : List Char} {fuel : Nat} (enough : 2 * text.length + 1 ≤ fuel) :
    readValue text fuel = readValue text (2 * text.length + 1) := by
  induction enough with
  | refl => rfl
  | step enough ih => rw [(settled_readers _).1 text enough, ih]

/-- Lists that are not closed are faulty where the text ends, however many they are. -/
example : readDocument ['[', '[', '[', '['] = .error { flaw := .value, left := 0 } := rfl

end HtmlTemplate.Json
