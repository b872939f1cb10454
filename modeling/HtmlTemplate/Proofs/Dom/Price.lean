import HtmlTemplate.Proofs.Dom.Expansion

/-!
What it costs to expand text. Text and attributes have a price, the number of placeholders in them,
and it is paid from the front of the queue. If there is not enough, all that there is goes, and the
next directive is missing. In no case is anything but the queue touched. This holds of placeholders
of any length; the empty one is refused.
-/

namespace HtmlTemplate

namespace Queue

variable (q : Queue) {m n : Nat}

@[simp]
theorem skip_zero : q.skip 0 = q := by
  simp [skip]

theorem size_skip (n : Nat) : (q.skip n).size = q.size - n := by
  simp [skip, size]

theorem skip_skip (m n : Nat) : (q.skip m).skip n = q.skip (m + n) := by
  have count : min m q.size + min n (q.size - m) = min (m + n) q.size := by omega
  rw [skip, size_skip]
  simp only [skip, List.drop_drop, Nat.add_assoc, count]

/-- Once all tags are gone there is nothing to take. -/
theorem skip_of_size_le {q : Queue} (all : q.size ≤ m) (more : m ≤ n) : q.skip m = q.skip n := by
  have here : q.tags.drop m = [] := List.drop_eq_nil_of_le all
  have there : q.tags.drop n = [] := List.drop_eq_nil_of_le (all.trans more)
  have count : min m q.size = min n q.size := by omega
  simp [skip, here, there, count]

end Queue

namespace Dom

/-- What is wrong when a queue has been emptied and one more directive is asked for. -/
def runsOut (q : Queue) : Failure := .placeholder (.underflow (q.popped + q.size + 1))

theorem runsOut_skip {q : Queue} {n : Nat} (enough : n ≤ q.size) :
    runsOut (q.skip n) = runsOut q := by
  have count : q.popped + min n q.size + (q.size - n) = q.popped + q.size := by omega
  rw [runsOut, Queue.size_skip]
  simp [Queue.skip, count, runsOut]

/-- How building ends that has a price and touches nothing but the queue. -/
inductive Pays {α : Type} (price : Nat) (s : Store) (post : α → Prop) :
    EStateM.Result Failure Store α → Prop where
  | paid {a : α} (enough : price ≤ s.queue.size) (holds : post a) :
      Pays price s post (.ok a { s with queue := s.queue.skip price })
  | broke (few : s.queue.size < price) :
      Pays price s post (.error (runsOut s.queue) { s with queue := s.queue.skip price })
  | unmarked (empty : s.setup.sentinel = []) (count : Nat) :
      Pays price s post (.error .emptySentinel { s with queue := s.queue.skip count })

namespace Pays

variable {α β : Type} {s : Store} {m n : Nat}

theorem free {post : α → Prop} {a : α} (holds : post a) : Pays 0 s post (.ok a s) := by
  have paid : Pays 0 s post (.ok a { s with queue := s.queue.skip 0 }) :=
    .paid (Nat.zero_le _) holds
  rwa [Queue.skip_zero] at paid

/-- What is done in a row is paid for in a row. -/
theorem bind {first : Build α} {next : α → Build β} {mid : α → Prop} {post : β → Prop}
    (front : Pays m s mid (first s))
    (back : ∀ a queue, mid a → Pays n { s with queue } post (next a { s with queue })) :
    Pays (m + n) s post ((first >>= next) s) := by
  show Pays (m + n) s post (EStateM.bind first next s)
  unfold EStateM.bind
  generalize first s = outcome at front
  cases front with
  | @paid a enough holds =>
    have later := back a (s.queue.skip m) holds
    simp only
    generalize next a { s with queue := s.queue.skip m } = last at later
    cases later with
    | paid more holds =>
      simp only [Queue.size_skip] at more
      simp only [Queue.skip_skip]
      exact .paid (by omega) holds
    | broke few =>
      simp only [Queue.size_skip] at few
      simp only [Queue.skip_skip, runsOut_skip enough]
      exact .broke (by omega)
    | unmarked empty count =>
      have none : s.setup.sentinel = [] := empty
      simp only [Queue.skip_skip]
      exact .unmarked none (m + count)
  | broke few =>
    -- all tags are gone already, so the higher price takes no more
    simp only [Queue.skip_of_size_le (Nat.le_of_lt few) (Nat.le_add_right m n)]
    exact .broke (Nat.lt_add_right n few)
  | unmarked empty count => exact .unmarked empty count

theorem map {act : Build α} {mid : α → Prop} {post : β → Prop} {f : α → β}
    (pays : Pays m s mid (act s)) (follows : ∀ a, mid a → post (f a)) :
    Pays m s post ((f <$> act) s) := by
  show Pays m s post (EStateM.map f act s)
  unfold EStateM.map
  generalize act s = outcome at pays
  cases pays with
  | paid enough holds => exact .paid enough (follows _ holds)
  | broke few => exact .broke few
  | unmarked empty count => exact .unmarked empty count

end Pays

/-! Text -/

/-- Pieces and tags that show nothing are one empty piece. -/
theorem eq_nil_of_weave {pieces : List (List Char)} {taken : List Tag}
    (all : pieces.length = taken.length + 1) (nothing : weave pieces taken = []) :
    pieces = [[]] := by
  obtain ⟨piece, rest, rfl⟩ := List.exists_cons_of_length_eq_add_one all
  cases taken with
  | nil =>
    have alone : rest = [] := by simpa using all
    have empty : piece = [] := by simpa [weave] using nothing
    rw [alone, empty]
  | cons tag tags => simp [weave] at nothing

/-- The price of a text is the number of placeholders in it. Only the empty text has no parts. -/
theorem expand_pays (s : Store) (text : List Char) :
    Pays (Text.countOf s.setup.sentinel text) s (fun parts => parts = [] ↔ text = [])
      (expand text s) := by
  by_cases empty : s.setup.sentinel = []
  · have refused : expand text s = .error .emptySentinel { s with queue := s.queue.skip 0 } := by
      rw [expand_unmarked empty, Queue.skip_zero]
    rw [refused]
    exact .unmarked empty 0
  have pops := s.queue.pops_skip (Text.countOf s.setup.sentinel text)
  rcases Nat.lt_or_ge s.queue.size (Text.countOf s.setup.sentinel text) with few | enough
  · have fewer :=
      (List.length_take_le' (Text.countOf s.setup.sentinel text) s.queue.tags).trans_lt few
    rw [expand_short empty pops (Queue.tags_skip_of_few few) fewer]
    have all : min (Text.countOf s.setup.sentinel text) s.queue.size = s.queue.size := by omega
    have out : Failure.placeholder (.underflow
        ((s.queue.skip (Text.countOf s.setup.sentinel text)).popped + 1)) = runsOut s.queue := by
      simp [Queue.skip, runsOut, all]
    rw [out]
    exact .broke few
  · have all := List.length_take_of_le enough
    obtain ⟨parts, run, -, shown⟩ := expand_enough empty pops all
    rw [run]
    refine .paid enough ?_
    constructor
    · rintro rfl
      -- no part at all means no tag, so the text is one piece, and an empty one
      have one := eq_nil_of_weave ((Text.length_pieces_eq _ _).trans (by rw [all])) shown.symm
      exact (Text.eq_of_pieces_singleton _ one).symm
    · rintro rfl
      rw [expand_nil empty] at run
      cases run
      rfl

/-! Attributes -/

/-- The number of placeholders in a value that is still to be adapted. -/
def placeholdersOf (sentinel : List Char) : AttrValue → Nat
  | .plain text => Text.countOf sentinel text.toList
  | .parts _ => 0

def placeholdersIn (sentinel : List Char) : List (AttrName × AttrValue) → Nat
  | [] => 0
  | attr :: rest => placeholdersOf sentinel attr.2 + placeholdersIn sentinel rest

theorem adaptValue_pays (s : Store) (name : String) (raw : AttrValue) :
    Pays (placeholdersOf s.setup.sentinel raw) s (fun _ => True) (adaptValue name raw s) := by
  cases raw with
  | parts parts => exact .free trivial
  | plain text =>
    rw [adaptValue, get_bind]
    split
    · refine Pays.bind (n := 0) (expand_pays s text.toList) ?_
      intro parts queue _
      exact .free trivial
    · rename_i absent
      rw [placeholdersOf, Text.countOf_of_not_occursIn _ absent]
      split
      · exact .free trivial
      · exact .free trivial

theorem adaptAttributes_pays (s : Store) (attrs : List (AttrName × AttrValue)) :
    Pays (placeholdersIn s.setup.sentinel attrs) s (fun _ => True) (adaptAttributes attrs s) := by
  have go (adapted : Attrs) : Pays (placeholdersIn s.setup.sentinel attrs) s (fun _ => True)
      (adaptAttributes.go adapted attrs s) := by
    induction attrs generalizing adapted s with
    | nil => exact .free trivial
    | cons attr rest ih =>
      obtain ⟨name, raw⟩ := attr
      apply Pays.bind (adaptValue_pays s name.flatten raw)
      intro value queue _
      exact ih { s with queue } (assign name.flatten value adapted)
  exact go []

end Dom

end HtmlTemplate
