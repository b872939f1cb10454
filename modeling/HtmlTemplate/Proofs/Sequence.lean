/-!
What is done in a row, one step at a time. A step that succeeds hands on its result and its state,
and a step that fails is the end of the row.
-/

namespace HtmlTemplate

section Rows

variable {ε σ α β : Type} {s mid : σ}

theorem bind_ok {first : EStateM ε σ α} {a : α} (run : first s = .ok a mid)
    (next : α → EStateM ε σ β) : (first >>= next) s = next a mid := by
  show EStateM.bind first next s = _
  simp only [EStateM.bind, run]

theorem bind_error {first : EStateM ε σ α} {e : ε} (fails : first s = .error e mid)
    (next : α → EStateM ε σ β) : (first >>= next) s = .error e mid := by
  show EStateM.bind first next s = _
  simp only [EStateM.bind, fails]

theorem get_bind (next : σ → EStateM ε σ α) (s : σ) :
    ((get : EStateM ε σ σ) >>= next) s = next s s := rfl

theorem set_bind (next : PUnit → EStateM ε σ α) (s given : σ) :
    ((set given : EStateM ε σ PUnit) >>= next) s = next ⟨⟩ given := rfl

theorem modify_run (f : σ → σ) (s : σ) : (modify f : EStateM ε σ Unit) s = .ok () (f s) := rfl

theorem run'_of_error {act : EStateM ε σ α} {e : ε} (fails : act s = .error e mid) :
    act.run' s = none := by
  have alone : act.run' s = EStateM.run' (fun _ => act s) s := rfl
  rw [alone, fails]
  rfl

end Rows

section Outcomes

variable {ε ε' α β : Type}

theorem map_eq_ok_iff (f : α → β) (x : Except ε α) (b : β) :
    x.map f = .ok b ↔ ∃ a, x = .ok a ∧ f a = b := by
  cases x <;> simp [Except.map]

theorem map_eq_error_iff (f : α → β) (x : Except ε α) (e : ε) :
    x.map f = .error e ↔ x = .error e := by
  cases x <;> simp [Except.map]

theorem mapError_eq_ok_iff (f : ε → ε') (x : Except ε α) (a : α) :
    x.mapError f = .ok a ↔ x = .ok a := by
  cases x with
  | ok b =>
    show (.ok b : Except ε' α) = .ok a ↔ _
    simp
  | error e =>
    show (.error (f e) : Except ε' α) = .ok a ↔ _
    simp

theorem bind_eq_ok_iff (first : Except ε α) (next : α → Except ε β) (b : β) :
    first >>= next = .ok b ↔ ∃ a, first = .ok a ∧ next a = .ok b := by
  cases first <;> simp [bind, Except.bind]

theorem ok_bind (a : α) (next : α → Except ε β) : (Except.ok a >>= next) = next a := rfl

theorem exists_of_bind {first : Except ε α} {next : α → Except ε β} {b : β}
    (done : first >>= next = .ok b) : ∃ a, first = .ok a ∧ next a = .ok b :=
  (bind_eq_ok_iff first next b).mp done

theorem bind_congr_of_ok {first : Except ε α} {next other : α → Except ε β}
    (same : ∀ a, first = .ok a → next a = other a) : first >>= next = first >>= other := by
  cases first with
  | error e => rfl
  | ok a => exact same a rfl

end Outcomes

end HtmlTemplate
